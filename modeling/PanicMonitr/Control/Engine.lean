import PanicMonitr.Trust.Manager

/-!
# Peer management of the engine

The methods of `MonitorEngine` that stand between the control socket and the trust
manager.  Each one answers an error text, or nothing when the mutation succeeded.
-/

namespace PanicMonitr
namespace Control

open Foundation
open Trust

def isLowerHex (c : Char) : Bool :=
  c.isDigit || ('a' <= c && c <= 'f')

/-- `validate_node_id(value)`; the `$` of the pattern lets one final newline pass. -/
def validateNodeId (value : String) : Bool :=
  let digits := value.toList.take 64
  let rest := value.toList.drop 64
  digits.length = 64 && digits.all isLowerHex && (rest = [] || rest = ['\n'])

/--
What the engine holds, and what it asks of the sealed identity and of `iroh`.  The own
node id is the hex of the identity's public key.
-/
structure Engine where
  keys : Keyring
  pydantic : Pydantic
  nodeIdStr : String
  unlockIdentity : Json -> Except PyError Bool
  publicKey : String -> Bool
  hown : validateNodeId keys.ownNodeId = true

/-- `value or default` -/
def pyOr (value default : Json) : Json :=
  if truthy value then value else default

/-- What `add_peer` of the engine raises for a node id that is no text. -/
def nodeIdError : Json -> PyError
  | Json.arr _ => PyError.typeError "expected string or bytes-like object, got 'list'"
  | Json.obj _ => PyError.keyError "slice(None, 12, None)"
  | v => PyError.typeError ("'" ++ typeName v ++ "' object is not subscriptable")

abbrev EngineResult := TrustState × Answer (Option String)

def malformedNodeId : String := "Node ID must be 64-char lowercase hex"

/-- `return refusal` when the manager answers `False`. -/
def orRefusal (refusal : String) : TrustState × Answer Bool -> EngineResult
  | (s, Answer.returned true) => (s, Answer.returned none)
  | (s, Answer.returned false) => (s, Answer.returned (some refusal))
  | (s, Answer.raised e) => (s, Answer.raised e)
  | (s, Answer.crashed) => (s, Answer.crashed)

namespace Engine

variable (engine : Engine) (env : Surroundings)

def verifyIdentityPassword (password : Json) : Except PyError Bool :=
  if truthy password then engine.unlockIdentity password else Except.ok false

def addPeer (nodeId alias_ permissions tags : Json) (s : TrustState) : EngineResult :=
  match nodeId with
  | Json.str n =>
      if n = "" then (s, Answer.returned (some "Node ID cannot be empty"))
      else if validateNodeId n = false then (s, Answer.returned (some malformedNodeId))
      else if n = engine.nodeIdStr then (s, Answer.returned (some "Cannot add yourself"))
      else if engine.publicKey n = false then (s, Answer.returned (some "Invalid Node ID"))
      else
        orRefusal "Peer already trusted (or invalid permissions)"
          (Trust.addPeer engine.keys env n alias_ permissions tags s)
  | v =>
      if truthy v then (s, Answer.raised (nodeIdError v))
      else (s, Answer.returned (some "Node ID cannot be empty"))

/-- A mutation of the peer with this id, which must be well formed. -/
def mutatePeer (nodeId refusal : String) (mutation : TrustState -> TrustState × Answer Bool)
    (s : TrustState) : EngineResult :=
  if validateNodeId nodeId = false then (s, Answer.returned (some malformedNodeId))
  else orRefusal refusal (mutation s)

def revokePeer (nodeId : String) : TrustState -> EngineResult :=
  mutatePeer nodeId "Peer not found or already revoked"
    (Trust.revokePeer engine.keys env nodeId)

def updatePeerPermissions (nodeId : String) (permissions : List Json) :
    TrustState -> EngineResult :=
  mutatePeer nodeId "Failed to update permissions (peer missing, revoked, or invalid perms)"
    (updatePermissions engine.keys env nodeId (Json.arr permissions))

def setPeerTags (nodeId : String) (tags : List Json) : TrustState -> EngineResult :=
  mutatePeer nodeId "Failed to set tags" (setTags engine.keys env nodeId tags)

def addPeerTag (nodeId tag : String) : TrustState -> EngineResult :=
  mutatePeer nodeId "Failed to add tag" (addTag engine.keys env nodeId tag)

def removePeerTag (nodeId : String) (tag : Json) : TrustState -> EngineResult :=
  mutatePeer nodeId "Failed to remove tag" (removeTag engine.keys env nodeId tag)

/-- The order of the two ends is checked here and once more by the manager. -/
def setPeerMaintenance (nodeId : String) (start until_ : Datetime) (s : TrustState) :
    EngineResult :=
  if validateNodeId nodeId = false then (s, Answer.returned (some malformedNodeId))
  else
    match Datetime.le? until_ start with
    | none => (s, Answer.raised compareError)
    | some true => (s, Answer.returned (some "Maintenance end must be after start"))
    | some false =>
        orRefusal "Failed to schedule maintenance"
          (setMaintenance engine.keys env nodeId start until_ s)

def clearPeerMaintenance (nodeId : String) : TrustState -> EngineResult :=
  mutatePeer nodeId "Peer not found" (clearMaintenance engine.keys env nodeId)

/-- `_check_reload()` of a file nobody else has changed; what it raises is logged. -/
def checkReload (mtime after : Int) (s : TrustState) : TrustState :=
  (reloadStore engine.keys engine.pydantic env s.file mtime after s).1

end Engine

/-!
## What a method can do
-/

/-- A call leaves the state alone, or it is the commit of an allowed entry. -/
inductive Effect {α : Type} (keys : Keyring) (env : Surroundings)
    (allowed : String -> List (String × Json) -> Prop) (s : TrustState) :
    TrustState × Answer α -> Prop where
  | quiet {answer : Answer α} : answer ≠ Answer.crashed -> Effect keys env allowed s (s, answer)
  | commits {type : String} {data : List (String × Json)} {s' : TrustState}
      {answer : Answer Bool} {answer' : Answer α} : allowed type data ->
      commit keys type data env s = (s', answer) ->
      (answer' = Answer.crashed <-> answer = Answer.crashed) ->
        Effect keys env allowed s (s', answer')

section Effects

variable {keys : Keyring} {env : Surroundings}
  {allowed allowed' : String -> List (String × Json) -> Prop} {s : TrustState}

theorem Effect.mono {α : Type} {result : TrustState × Answer α}
    (h : Effect keys env allowed s result)
    (hmono : forall type data, allowed type data -> allowed' type data) :
    Effect keys env allowed' s result := by
  cases h with
  | quiet hanswer => exact Effect.quiet hanswer
  | commits hallowed hcommit hcrash => exact Effect.commits (hmono _ _ hallowed) hcommit hcrash

theorem effect_of_mutation {result : TrustState × Answer Bool}
    (h : Mutation keys env allowed s result) : Effect keys env allowed s result := by
  cases h with
  | quiet hanswer => exact Effect.quiet hanswer
  | @commits type data hallowed =>
      rcases hcommit : commit keys type data env s with ⟨s', answer⟩
      exact Effect.commits hallowed hcommit Iff.rfl

theorem Effect.map {α β : Type} {result : TrustState × Answer α}
    {result' : TrustState × Answer β} (h : Effect keys env allowed s result)
    (hstate : result'.1 = result.1)
    (hcrash : result'.2 = Answer.crashed <-> result.2 = Answer.crashed) :
    Effect keys env allowed s result' := by
  rcases result' with ⟨s', answer'⟩
  cases h with
  | quiet hanswer =>
      cases hstate
      exact Effect.quiet (fun hcrashed => hanswer (hcrash.mp hcrashed))
  | commits hallowed hcommit hsame =>
      cases hstate
      exact Effect.commits hallowed hcommit (hcrash.trans hsame)

theorem Effect.orRefusal {result : TrustState × Answer Bool} (refusal : String)
    (h : Effect keys env allowed s result) :
    Effect keys env allowed s (orRefusal refusal result) := by
  apply h.map
  · unfold Control.orRefusal
    split <;> rfl
  · unfold Control.orRefusal
    split <;> simp

theorem mutatePeer_effect {nodeId refusal : String}
    {mutation : TrustState -> TrustState × Answer Bool}
    (h : validateNodeId nodeId = true -> Mutation keys env allowed s (mutation s)) :
    Effect keys env allowed s (Engine.mutatePeer nodeId refusal mutation s) := by
  unfold Engine.mutatePeer
  split
  · exact Effect.quiet (by simp)
  · rename_i hvalid
    rw [Bool.not_eq_false] at hvalid
    exact (effect_of_mutation (h hvalid)).orRefusal refusal

end Effects

end Control
end PanicMonitr
