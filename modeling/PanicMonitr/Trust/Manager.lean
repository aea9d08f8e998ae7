import PanicMonitr.Trust.Records
import PanicMonitr.Foundation.Machine
import Mathlib.Data.List.Dedup

/-!
# The trust manager

The mutations of `PeerTrustManager`.  Each one checks its arguments and the peer it
names, and then appends one entry, projects the log again and saves the cache.  The
arguments are whatever Python value the caller passes on.
-/

namespace PanicMonitr
namespace Trust

open Foundation

def VALID_PROTOCOLS : List String :=
  ["monitor", "chat", "split", "call", "drop", "view_dashboard", "shell"]

/-- What the environment decides during a call. -/
structure Surroundings where
  now : Datetime
  writing : Writing
  cacheFault : Option PyError

/-- The manager with the log it owns, and the file of the log. -/
structure TrustState where
  log : TrustLog
  file : Option LogFile
  store : PeerTrustStore

/-- `_save_cache()` after the store was replaced. -/
def saveCache (env : Surroundings) (s : TrustState) : TrustState × Answer Bool :=
  match env.cacheFault with
  | some e => (s, Answer.raised e)
  | none => (s, Answer.returned true)

/-- `_rebuild_from_log()` and `_save_cache()` -/
def rebuildAndSave (env : Surroundings) (s : TrustState) : TrustState × Answer Bool :=
  match rebuildFromLog s.log.entries with
  | Except.error e => (s, Answer.raised e)
  | Except.ok store => saveCache env { s with store := store }

/-- The end of every mutation: append, project again, save. -/
def commit (keys : Keyring) (type : String) (data : List (String × Json))
    (env : Surroundings) (s : TrustState) : TrustState × Answer Bool :=
  match s.log.append keys type data env.now env.writing s.file with
  | (log, file, Answer.raised e) => ({ s with log := log, file := file }, Answer.raised e)
  | (log, file, Answer.crashed) => ({ s with log := log, file := file }, Answer.crashed)
  | (log, file, Answer.returned _) =>
      rebuildAndSave env { s with log := log, file := file }

/-!
## Checks
-/

def checkHashable : List Json -> Except PyError Unit
  | [] => Except.ok ()
  | v :: rest => do
      let _ <- hashKey v
      checkHashable rest

def isPermission : Json -> Bool
  | Json.str s => s ∈ VALID_PROTOCOLS || s = "*"
  | _ => false

/-- `set(perms) - VALID_PROTOCOLS - {"*"}` is empty. -/
def arePermissions (perms : List Json) : Except PyError Bool := do
  checkHashable perms
  return perms.all isPermission

def stripText (s : String) : String :=
  String.ofList (strip s.toList)

theorem stripText_stripText (s : String) : stripText (stripText s) = stripText s := by
  rw [stripText, stripText, String.toList_ofList, strip_strip]

/-- `value.strip()` -/
def pyStrip : Json -> Except PyError String
  | Json.str s => Except.ok (stripText s)
  | v =>
      Except.error (PyError.attributeError
        ("'" ++ typeName v ++ "' object has no attribute 'strip'"))

def stripAll : List Json -> Except PyError (List String)
  | [] => Except.ok []
  | v :: rest => do
      let t <- pyStrip v
      let more <- stripAll rest
      return t :: more

/-- `sorted({t.strip() for t in tags if t.strip()})` -/
def normalizeTags (tags : List Json) : Except PyError (List String) := do
  let stripped <- stripAll tags
  return (stripped.filter (fun t => t ≠ "")).dedup.insertionSort (fun a b => a <= b)

def addPeerData (nodeId : String) (alias_ : Json) (perms : List Json) :
    List (String × Json) :=
  [("node_id", Json.str nodeId), ("alias", alias_), ("permissions", Json.arr perms)]

/-!
## Mutations
-/

section Mutations

variable (keys : Keyring) (env : Surroundings)

def addPeer (nodeId : String) (alias_ permissions tags : Json) (s : TrustState) :
    TrustState × Answer Bool :=
  match (if truthy permissions then pyList permissions
    else Except.ok [Json.str "monitor"]) with
  | Except.error e => (s, Answer.raised e)
  | Except.ok perms =>
      match arePermissions perms with
      | Except.error e => (s, Answer.raised e)
      | Except.ok false => (s, Answer.returned false)
      | Except.ok true =>
          if (s.store.getPeer nodeId).any (fun peer => peer.revokedAt = none) then
            (s, Answer.returned false)
          else if truthy tags then
            match pyList tags with
            | Except.error e => (s, Answer.raised e)
            | Except.ok tags =>
                commit keys OP_ADD_PEER
                  (addPeerData nodeId alias_ perms ++ [("tags", Json.arr tags)]) env s
          else commit keys OP_ADD_PEER (addPeerData nodeId alias_ perms) env s

/-- `revoke_peer`; a peer that is unknown or already revoked is refused. -/
def revokePeer (nodeId : String) (s : TrustState) : TrustState × Answer Bool :=
  match s.store.getPeer nodeId with
  | none => (s, Answer.returned false)
  | some peer =>
      if peer.revokedAt ≠ none then (s, Answer.returned false)
      else commit keys OP_REVOKE_PEER [("node_id", Json.str nodeId)] env s

def updatePermissions (nodeId : String) (permissions : Json) (s : TrustState) :
    TrustState × Answer Bool :=
  match pyList permissions with
  | Except.error e => (s, Answer.raised e)
  | Except.ok perms =>
      match arePermissions perms with
      | Except.error e => (s, Answer.raised e)
      | Except.ok false => (s, Answer.returned false)
      | Except.ok true =>
          match s.store.getPeer nodeId with
          | none => (s, Answer.returned false)
          | some peer =>
              if peer.revokedAt ≠ none then (s, Answer.returned false)
              else
                commit keys OP_UPDATE_PERMISSIONS
                  [("node_id", Json.str nodeId), ("permissions", Json.arr perms)] env s

def setAlias (nodeId : String) (alias_ : Json) (s : TrustState) :
    TrustState × Answer Bool :=
  match s.store.getPeer nodeId with
  | none => (s, Answer.returned false)
  | some _ =>
      commit keys OP_ADD_PEER_ALIAS [("node_id", Json.str nodeId), ("alias", alias_)] env s

/-- `_set_tags_locked` -/
def setTags (nodeId : String) (tags : List Json) (s : TrustState) :
    TrustState × Answer Bool :=
  match normalizeTags tags with
  | Except.error e => (s, Answer.raised e)
  | Except.ok normalized =>
      match s.store.getPeer nodeId with
      | none => (s, Answer.returned false)
      | some _ =>
          commit keys OP_SET_TAGS
            [("node_id", Json.str nodeId), ("tags", Json.arr (normalized.map Json.str))] env s

def addTag (nodeId : String) (tag : String) (s : TrustState) : TrustState × Answer Bool :=
  if stripText tag = "" then (s, Answer.returned false)
  else
    match s.store.getPeer nodeId with
    | none => (s, Answer.returned false)
    | some peer =>
        if stripText tag ∈ peer.tags then (s, Answer.returned true)
        else setTags keys env nodeId ((peer.tags ++ [stripText tag]).map Json.str) s

def removeTag (nodeId : String) (tag : Json) (s : TrustState) : TrustState × Answer Bool :=
  match pyStrip tag with
  | Except.error e => (s, Answer.raised e)
  | Except.ok tag =>
      match s.store.getPeer nodeId with
      | none => (s, Answer.returned false)
      | some peer =>
          if tag ∉ peer.tags then (s, Answer.returned true)
          else
            setTags keys env nodeId
              ((peer.tags.filter (fun t => t ≠ tag)).map Json.str) s

def compareError : PyError :=
  PyError.typeError "can't compare offset-naive and offset-aware datetimes"

def setMaintenance (nodeId : String) (start until_ : Datetime) (s : TrustState) :
    TrustState × Answer Bool :=
  match Datetime.le? until_ start with
  | none => (s, Answer.raised compareError)
  | some true => (s, Answer.returned false)
  | some false =>
      match s.store.getPeer nodeId with
      | none => (s, Answer.returned false)
      | some _ =>
          commit keys OP_SET_MAINTENANCE
            [("node_id", Json.str nodeId), ("start", Json.str (isoformat start)),
              ("end", Json.str (isoformat until_))] env s

def clearMaintenance (nodeId : String) (s : TrustState) : TrustState × Answer Bool :=
  match s.store.getPeer nodeId with
  | none => (s, Answer.returned false)
  | some peer =>
      if peer.maintenanceStart = none ∧ peer.maintenanceEnd = none then
        (s, Answer.returned true)
      else commit keys OP_CLEAR_MAINTENANCE [("node_id", Json.str nodeId)] env s

end Mutations

/-- `reload_if_changed()` of the manager, with the file as it is found. -/
def reloadStore (keys : Keyring) (pydantic : Pydantic) (env : Surroundings)
    (file : Option LogFile) (mtime after : Int) (s : TrustState) :
    TrustState × Answer Bool :=
  match s.log.reloadIfChanged keys pydantic file mtime after with
  | Except.error e => ({ s with file := file }, Answer.raised e)
  | Except.ok (false, log) => ({ s with log := log, file := file }, Answer.returned false)
  | Except.ok (true, log) => rebuildAndSave env { s with log := log, file := file }

/-!
## Normalized tags
-/

theorem stripAll_map (raws : List String) :
    stripAll (raws.map Json.str) = Except.ok (raws.map stripText) := by
  induction raws with
  | nil => rfl
  | cons raw raws ih =>
      rw [List.map_cons, stripAll, ih]
      rfl

theorem texts_of_stripAll {items : List Json} {stripped : List String}
    (h : stripAll items = Except.ok stripped) :
    exists raws : List String, items = raws.map Json.str := by
  induction items generalizing stripped with
  | nil => exact ⟨[], rfl⟩
  | cons v items ih =>
      rcases bind_eq_ok.mp h with ⟨t, ht, h⟩
      rcases bind_eq_ok.mp h with ⟨more, hmore, h⟩
      cases h
      rcases ih hmore with ⟨raws, hitems⟩
      cases v with
      | str s => exact ⟨s :: raws, by rw [hitems, List.map_cons]⟩
      | null => cases ht
      | bool b => cases ht
      | int n => cases ht
      | float text => cases ht
      | arr items => cases ht
      | obj fields => cases ht

/-- As a set, the normalized tags are the stripped ones without the empty text. -/
theorem normalizeTags_map (raws : List String) :
    exists texts, normalizeTags (raws.map Json.str) = Except.ok texts ∧
      forall t, t ∈ texts <-> t ≠ "" ∧ exists raw, raw ∈ raws ∧ stripText raw = t := by
  refine ⟨_, bind_eq_ok.mpr ⟨_, stripAll_map raws, rfl⟩, ?_⟩
  intro t
  rw [(List.perm_insertionSort _ _).mem_iff, List.mem_dedup, List.mem_filter,
    decide_eq_true_iff, List.mem_map]
  exact And.comm

theorem normalizeTags_texts {items : List Json} {texts : List String}
    (h : normalizeTags items = Except.ok texts) :
    exists raws : List String, items = raws.map Json.str ∧
      forall t, t ∈ texts <-> t ≠ "" ∧ exists raw, raw ∈ raws ∧ stripText raw = t := by
  rcases bind_eq_ok.mp h with ⟨stripped, hstripped, _⟩
  rcases texts_of_stripAll hstripped with ⟨raws, rfl⟩
  rcases normalizeTags_map raws with ⟨texts', htexts', hmem⟩
  rw [htexts'] at h
  cases h
  exact ⟨raws, rfl, hmem⟩

/-!
## What a mutation can do
-/

/-- A call ends without touching anything, or commits an allowed entry. -/
inductive Mutation (keys : Keyring) (env : Surroundings)
    (allowed : String -> List (String × Json) -> Prop) (s : TrustState) :
    TrustState × Answer Bool -> Prop where
  | quiet {answer : Answer Bool} : answer ≠ Answer.crashed ->
      Mutation keys env allowed s (s, answer)
  | commits {type : String} {data : List (String × Json)} : allowed type data ->
      Mutation keys env allowed s (commit keys type data env s)

section Results

variable (keys : Keyring) (env : Surroundings)

/-- The data of the entries `add_peer` writes. -/
inductive AddsPeer (nodeId : String) (alias_ tags : Json) :
    String -> List (String × Json) -> Prop where
  | plain {perms : List Json} : perms.all isPermission = true ->
      AddsPeer nodeId alias_ tags OP_ADD_PEER (addPeerData nodeId alias_ perms)
  | tagged {perms items : List Json} : perms.all isPermission = true ->
      pyList tags = Except.ok items ->
      AddsPeer nodeId alias_ tags OP_ADD_PEER
        (addPeerData nodeId alias_ perms ++ [("tags", Json.arr items)])

/-- `add_peer` gets past its checks: the permissions are known and the peer is not active. -/
def AddAccepted (nodeId : String) (permissions : Json) (s : TrustState) : Prop :=
  (exists perms, (if truthy permissions then pyList permissions
      else Except.ok [Json.str "monitor"]) = Except.ok perms ∧
    arePermissions perms = Except.ok true) ∧
  (s.store.getPeer nodeId).any (fun peer => peer.revokedAt = none) = false

theorem Mutation.mono {env : Surroundings} {keys : Keyring}
    {allowed allowed' : String -> List (String × Json) -> Prop} {s : TrustState}
    {result : TrustState × Answer Bool} (h : Mutation keys env allowed s result)
    (hmono : forall type data, allowed type data -> allowed' type data) :
    Mutation keys env allowed' s result := by
  cases h with
  | quiet hanswer => exact Mutation.quiet hanswer
  | commits hallowed => exact Mutation.commits (hmono _ _ hallowed)

theorem all_of_arePermissions {perms : List Json} {b : Bool}
    (h : arePermissions perms = Except.ok b) : perms.all isPermission = b := by
  unfold arePermissions at h
  cases hhash : checkHashable perms with
  | error e =>
      rw [hhash] at h
      cases h
  | ok _ =>
      rw [hhash] at h
      cases h
      rfl

theorem addPeer_result (nodeId : String) (alias_ permissions tags : Json) (s : TrustState) :
    Mutation keys env
      (fun type data => AddAccepted nodeId permissions s ∧
        AddsPeer nodeId alias_ tags type data) s
      (addPeer keys env nodeId alias_ permissions tags s) := by
  unfold addPeer
  split
  · exact Mutation.quiet (by simp)
  split
  · exact Mutation.quiet (by simp)
  · exact Mutation.quiet (by simp)
  rename_i perms hlist _ hperms
  have hall := all_of_arePermissions hperms
  split
  · exact Mutation.quiet (by simp)
  rename_i hactive
  rw [Bool.not_eq_true] at hactive
  have haccepted : AddAccepted nodeId permissions s := ⟨⟨perms, hlist, hperms⟩, hactive⟩
  split
  · split
    · exact Mutation.quiet (by simp)
    · rename_i htags
      exact Mutation.commits ⟨haccepted, AddsPeer.tagged hall htags⟩
  · exact Mutation.commits ⟨haccepted, AddsPeer.plain hall⟩

/-- The entries of the other mutations of one peer. -/
inductive ChangesPeer (nodeId : String) : String -> List (String × Json) -> Prop where
  | revoke : ChangesPeer nodeId OP_REVOKE_PEER [("node_id", Json.str nodeId)]
  | update {perms : List Json} : perms.all isPermission = true ->
      ChangesPeer nodeId OP_UPDATE_PERMISSIONS
        [("node_id", Json.str nodeId), ("permissions", Json.arr perms)]
  | tags (texts : List String) : ChangesPeer nodeId OP_SET_TAGS
      [("node_id", Json.str nodeId), ("tags", Json.arr (texts.map Json.str))]
  | maintenance (start until_ : Datetime) : ChangesPeer nodeId OP_SET_MAINTENANCE
      [("node_id", Json.str nodeId), ("start", Json.str (isoformat start)),
        ("end", Json.str (isoformat until_))]
  | clear : ChangesPeer nodeId OP_CLEAR_MAINTENANCE [("node_id", Json.str nodeId)]

theorem revokePeer_result (nodeId : String) (s : TrustState) :
    Mutation keys env (fun type data => type = OP_REVOKE_PEER ∧
        data = [("node_id", Json.str nodeId)]) s
      (revokePeer keys env nodeId s) := by
  unfold revokePeer
  split
  · exact Mutation.quiet (by simp)
  split
  · exact Mutation.quiet (by simp)
  · exact Mutation.commits ⟨rfl, rfl⟩

theorem updatePermissions_result (nodeId : String) (permissions : Json) (s : TrustState) :
    Mutation keys env (fun type data => type = OP_UPDATE_PERMISSIONS ∧
        exists perms : List Json, perms.all isPermission = true ∧
          data = [("node_id", Json.str nodeId), ("permissions", Json.arr perms)]) s
      (updatePermissions keys env nodeId permissions s) := by
  unfold updatePermissions
  split
  · exact Mutation.quiet (by simp)
  split
  · exact Mutation.quiet (by simp)
  · exact Mutation.quiet (by simp)
  rename_i perms _ _ hperms
  split
  · exact Mutation.quiet (by simp)
  split
  · exact Mutation.quiet (by simp)
  · exact Mutation.commits ⟨rfl, perms, all_of_arePermissions hperms, rfl⟩

theorem setAlias_result (nodeId : String) (alias_ : Json) (s : TrustState) :
    Mutation keys env (fun type data => type = OP_ADD_PEER_ALIAS ∧
        data = [("node_id", Json.str nodeId), ("alias", alias_)] ∧
        exists peer, s.store.getPeer nodeId = some peer) s
      (setAlias keys env nodeId alias_ s) := by
  unfold setAlias
  split
  · exact Mutation.quiet (by simp)
  · rename_i peer hpeer
    exact Mutation.commits ⟨rfl, rfl, peer, hpeer⟩

/-- The entry that gives a known peer the tags made of these values. -/
inductive SetsTags (nodeId : String) (s : TrustState) (tags : List Json) :
    String -> List (String × Json) -> Prop where
  | mk {texts : List String} {peer : TrustedPeer} : normalizeTags tags = Except.ok texts ->
      s.store.getPeer nodeId = some peer -> SetsTags nodeId s tags OP_SET_TAGS
        [("node_id", Json.str nodeId), ("tags", Json.arr (texts.map Json.str))]

theorem SetsTags.changesPeer {nodeId : String} {s : TrustState} {tags : List Json}
    {type : String} {data : List (String × Json)} (h : SetsTags nodeId s tags type data) :
    ChangesPeer nodeId type data := by
  cases h with
  | mk _ _ => exact ChangesPeer.tags _

theorem setTags_result (nodeId : String) (tags : List Json) (s : TrustState) :
    Mutation keys env (SetsTags nodeId s tags) s (setTags keys env nodeId tags s) := by
  unfold setTags
  split
  · exact Mutation.quiet (by simp)
  rename_i hnormal
  split
  · exact Mutation.quiet (by simp)
  · rename_i hget
    exact Mutation.commits (SetsTags.mk hnormal hget)

theorem addTag_result (nodeId tag : String) (s : TrustState) :
    Mutation keys env (fun type data => exists peer, s.store.getPeer nodeId = some peer ∧
        SetsTags nodeId s ((peer.tags ++ [stripText tag]).map Json.str) type data) s
      (addTag keys env nodeId tag s) := by
  unfold addTag
  split
  · exact Mutation.quiet (by simp)
  split
  · exact Mutation.quiet (by simp)
  rename_i peer hget
  split
  · exact Mutation.quiet (by simp)
  · exact (setTags_result keys env nodeId _ s).mono (fun _ _ h => ⟨peer, hget, h⟩)

theorem removeTag_result (nodeId : String) (tag : Json) (s : TrustState) :
    Mutation keys env (fun type data => exists (peer : TrustedPeer) (remaining : List String),
        s.store.getPeer nodeId = some peer ∧ (forall t, t ∈ remaining -> t ∈ peer.tags) ∧
        SetsTags nodeId s (remaining.map Json.str) type data) s
      (removeTag keys env nodeId tag s) := by
  unfold removeTag
  split
  · exact Mutation.quiet (by simp)
  split
  · exact Mutation.quiet (by simp)
  rename_i peer hget
  split
  · exact Mutation.quiet (by simp)
  · refine (setTags_result keys env nodeId _ s).mono ?_
    intro type data h
    exact ⟨peer, _, hget, fun t ht => List.mem_of_mem_filter ht, h⟩

theorem setMaintenance_result (nodeId : String) (start until_ : Datetime) (s : TrustState) :
    Mutation keys env (fun type data => type = OP_SET_MAINTENANCE ∧
        data = [("node_id", Json.str nodeId), ("start", Json.str (isoformat start)),
          ("end", Json.str (isoformat until_))] ∧
        Datetime.le? until_ start = some false ∧
        exists peer, s.store.getPeer nodeId = some peer) s
      (setMaintenance keys env nodeId start until_ s) := by
  unfold setMaintenance
  split
  · exact Mutation.quiet (by simp)
  · exact Mutation.quiet (by simp)
  rename_i horder
  split
  · exact Mutation.quiet (by simp)
  · rename_i peer hpeer
    exact Mutation.commits ⟨rfl, rfl, horder, peer, hpeer⟩

theorem clearMaintenance_result (nodeId : String) (s : TrustState) :
    Mutation keys env (fun type data => type = OP_CLEAR_MAINTENANCE ∧
        data = [("node_id", Json.str nodeId)]) s
      (clearMaintenance keys env nodeId s) := by
  unfold clearMaintenance
  split
  · exact Mutation.quiet (by simp)
  split
  · exact Mutation.quiet (by simp)
  · exact Mutation.commits ⟨rfl, rfl⟩

end Results

/-!
## Runs of the manager
-/

inductive ManagerOp where
  | addPeer (nodeId : String) (alias_ permissions tags : Json)
  | revokePeer (nodeId : String)
  | updatePermissions (nodeId : String) (permissions : Json)
  | setAlias (nodeId : String) (alias_ : Json)
  | setTags (nodeId : String) (tags : List Json)
  | addTag (nodeId tag : String)
  | removeTag (nodeId : String) (tag : Json)
  | setMaintenance (nodeId : String) (start until_ : Datetime)
  | clearMaintenance (nodeId : String)
  | load
  | reload (file : Option LogFile) (mtime after : Int)

def ManagerOp.run (keys : Keyring) (pydantic : Pydantic) (env : Surroundings)
    (s : TrustState) : ManagerOp -> TrustState × Answer Bool
  | addPeer nodeId alias_ permissions tags =>
      Trust.addPeer keys env nodeId alias_ permissions tags s
  | revokePeer nodeId => Trust.revokePeer keys env nodeId s
  | updatePermissions nodeId permissions =>
      Trust.updatePermissions keys env nodeId permissions s
  | setAlias nodeId alias_ => Trust.setAlias keys env nodeId alias_ s
  | setTags nodeId tags => Trust.setTags keys env nodeId tags s
  | addTag nodeId tag => Trust.addTag keys env nodeId tag s
  | removeTag nodeId tag => Trust.removeTag keys env nodeId tag s
  | setMaintenance nodeId start until_ => Trust.setMaintenance keys env nodeId start until_ s
  | clearMaintenance nodeId => Trust.clearMaintenance keys env nodeId s
  | load => rebuildAndSave env s
  | reload file mtime after => reloadStore keys pydantic env file mtime after s

/-- The entries an operation can write, with the checks that were passed on the way. -/
inductive Writes (s : TrustState) :
    ManagerOp -> String -> List (String × Json) -> Prop where
  | addPeer {nodeId : String} {alias_ permissions tags : Json} {type : String}
      {data : List (String × Json)} : AddAccepted nodeId permissions s ->
      AddsPeer nodeId alias_ tags type data ->
        Writes s (ManagerOp.addPeer nodeId alias_ permissions tags) type data
  | revokePeer (nodeId : String) :
      Writes s (ManagerOp.revokePeer nodeId) OP_REVOKE_PEER [("node_id", Json.str nodeId)]
  | updatePermissions {nodeId : String} {permissions : Json} {perms : List Json} :
      perms.all isPermission = true ->
        Writes s (ManagerOp.updatePermissions nodeId permissions) OP_UPDATE_PERMISSIONS
          [("node_id", Json.str nodeId), ("permissions", Json.arr perms)]
  | setAlias {nodeId : String} {alias_ : Json} {peer : TrustedPeer} :
      s.store.getPeer nodeId = some peer ->
        Writes s (ManagerOp.setAlias nodeId alias_) OP_ADD_PEER_ALIAS
          [("node_id", Json.str nodeId), ("alias", alias_)]
  | setTags {nodeId : String} {tags : List Json} {type : String}
      {data : List (String × Json)} : SetsTags nodeId s tags type data ->
        Writes s (ManagerOp.setTags nodeId tags) type data
  | addTag {nodeId tag : String} {tags : List Json} {type : String}
      {data : List (String × Json)} : SetsTags nodeId s tags type data ->
        Writes s (ManagerOp.addTag nodeId tag) type data
  | removeTag {nodeId : String} {tag : Json} {tags : List Json} {type : String}
      {data : List (String × Json)} : SetsTags nodeId s tags type data ->
        Writes s (ManagerOp.removeTag nodeId tag) type data
  | setMaintenance {nodeId : String} {start until_ : Datetime} :
      Datetime.le? until_ start = some false ->
        Writes s (ManagerOp.setMaintenance nodeId start until_) OP_SET_MAINTENANCE
          [("node_id", Json.str nodeId), ("start", Json.str (isoformat start)),
            ("end", Json.str (isoformat until_))]
  | clearMaintenance (nodeId : String) :
      Writes s (ManagerOp.clearMaintenance nodeId) OP_CLEAR_MAINTENANCE
        [("node_id", Json.str nodeId)]

/-- An operation mutates the log, projects it again, or reads the file. -/
inductive Ran (keys : Keyring) (pydantic : Pydantic) (env : Surroundings) (s : TrustState) :
    ManagerOp -> TrustState × Answer Bool -> Prop where
  | mutation {op : ManagerOp} {result : TrustState × Answer Bool} :
      Mutation keys env (Writes s op) s result -> Ran keys pydantic env s op result
  | load : Ran keys pydantic env s ManagerOp.load (rebuildAndSave env s)
  | reload (file : Option LogFile) (mtime after : Int) :
      Ran keys pydantic env s (ManagerOp.reload file mtime after)
        (reloadStore keys pydantic env file mtime after s)

theorem ManagerOp.ran (keys : Keyring) (pydantic : Pydantic) (env : Surroundings)
    (s : TrustState) (op : ManagerOp) :
    Ran keys pydantic env s op (op.run keys pydantic env s) := by
  cases op with
  | addPeer nodeId alias_ permissions tags =>
      apply Ran.mutation
      apply (addPeer_result keys env nodeId alias_ permissions tags s).mono
      exact fun _ _ hallowed => Writes.addPeer hallowed.left hallowed.right
  | revokePeer nodeId =>
      apply Ran.mutation
      apply (revokePeer_result keys env nodeId s).mono
      rintro _ _ ⟨rfl, rfl⟩
      exact Writes.revokePeer nodeId
  | updatePermissions nodeId permissions =>
      apply Ran.mutation
      apply (updatePermissions_result keys env nodeId permissions s).mono
      rintro _ _ ⟨rfl, perms, hperms, rfl⟩
      exact Writes.updatePermissions hperms
  | setAlias nodeId alias_ =>
      apply Ran.mutation
      apply (setAlias_result keys env nodeId alias_ s).mono
      rintro _ _ ⟨rfl, rfl, peer, hpeer⟩
      exact Writes.setAlias hpeer
  | setTags nodeId tags =>
      apply Ran.mutation
      apply (setTags_result keys env nodeId tags s).mono
      exact fun _ _ hsets => Writes.setTags hsets
  | addTag nodeId tag =>
      apply Ran.mutation
      apply (addTag_result keys env nodeId tag s).mono
      rintro _ _ ⟨_, _, hsets⟩
      exact Writes.addTag hsets
  | removeTag nodeId tag =>
      apply Ran.mutation
      apply (removeTag_result keys env nodeId tag s).mono
      rintro _ _ ⟨_, _, _, _, hsets⟩
      exact Writes.removeTag hsets
  | setMaintenance nodeId start until_ =>
      apply Ran.mutation
      apply (setMaintenance_result keys env nodeId start until_ s).mono
      rintro _ _ ⟨rfl, rfl, horder, _⟩
      exact Writes.setMaintenance horder
  | clearMaintenance nodeId =>
      apply Ran.mutation
      apply (clearMaintenance_result keys env nodeId s).mono
      rintro _ _ ⟨rfl, rfl⟩
      exact Writes.clearMaintenance nodeId
  | load => exact Ran.load
  | reload file mtime after => exact Ran.reload file mtime after

def survivor : TrustState × Answer Bool -> Option TrustState
  | (_, Answer.crashed) => none
  | (s, _) => some s

def managers (keys : Keyring) (pydantic : Pydantic) (s : TrustState) :
    Machine (Option TrustState) (ManagerOp × Surroundings) where
  start w := w = some s
  step w e := w.bind (fun t => survivor (e.1.run keys pydantic e.2 t))

theorem eq_of_survivor {result : TrustState × Answer Bool} {s : TrustState}
    (h : survivor result = some s) : result.1 = s ∧ result.2 ≠ Answer.crashed := by
  rcases result with ⟨s', answer⟩
  cases answer with
  | crashed => cases h
  | returned b =>
      cases h
      exact ⟨rfl, fun heq => by cases heq⟩
  | raised e =>
      cases h
      exact ⟨rfl, fun heq => by cases heq⟩

/-- What every operation keeps, in the states in which it is allowed, holds in every run. -/
theorem managers_invariant {keys : Keyring} {pydantic : Pydantic} {s : TrustState}
    {I : TrustState -> Prop} {P : TrustState -> ManagerOp × Surroundings -> Prop} (hs : I s)
    (hstep : forall u op env, I u -> P u (op, env) ->
      (op.run keys pydantic env u).2 ≠ Answer.crashed -> I (op.run keys pydantic env u).1)
    {past : List (Option TrustState)} {w : Option TrustState}
    (hrun : (managers keys pydantic s).Run (fun w e => forall u, u ∈ w -> P u e) past w) :
    forall t, t ∈ w -> I t := by
  refine hrun.invariant (I := fun w => forall t, t ∈ w -> I t) ?_ ?_
  · intro w hw t ht
    rw [show w = some s from hw] at ht
    cases ht
    exact hs
  · intro w e hw hguard t ht
    cases w with
    | none => cases ht
    | some u =>
        rcases eq_of_survivor ht with ⟨rfl, halive⟩
        exact hstep u e.1 e.2 (hw u rfl) (hguard u rfl) halive

structure LogStep (s s' : TrustState) (entry : LogEntry -> Prop) : Prop where
  entries : s'.log.entries = s.log.entries ∨
    exists e, entry e ∧ s'.log.entries = s.log.entries ++ [e]
  store : s'.store = s.store ∨ rebuildFromLog s'.log.entries = Except.ok s'.store

theorem rebuildAndSave_store (env : Surroundings) (s : TrustState) :
    (rebuildAndSave env s).1.log = s.log ∧ (rebuildAndSave env s).1.file = s.file ∧
      ((rebuildAndSave env s).1.store = s.store ∨
        rebuildFromLog s.log.entries = Except.ok (rebuildAndSave env s).1.store) := by
  unfold rebuildAndSave
  cases hrebuild : rebuildFromLog s.log.entries with
  | error e => exact ⟨rfl, rfl, Or.inl rfl⟩
  | ok store =>
      simp only [saveCache]
      cases env.cacheFault with
      | none => exact ⟨rfl, rfl, Or.inr rfl⟩
      | some e => exact ⟨rfl, rfl, Or.inr rfl⟩

theorem reloadIfChanged_false {keys : Keyring} {pydantic : Pydantic} {file : Option LogFile}
    {mtime after : Int} {log log' : TrustLog}
    (h : log.reloadIfChanged keys pydantic file mtime after = Except.ok (false, log')) :
    log' = log := by
  unfold TrustLog.reloadIfChanged at h
  split at h
  · cases h
    rfl
  split at h
  · cases h
    rfl
  split at h
  · cases h
  · cases h

theorem append_entries (keys : Keyring) (type : String) (data : List (String × Json))
    (now : Datetime) (writing : Writing) (log : TrustLog) (file : Option LogFile) :
    (log.append keys type data now writing file).1.entries = log.entries ∨
      exists e, (e.type = type ∧ e.data = data ∧ e.timestamp = isoformat now) ∧
        (log.append keys type data now writing file).1.entries = log.entries ++ [e] := by
  rcases log.append_cases keys type data now writing file with
    ⟨_, e, hcall⟩ | ⟨sign, _, _, hcall⟩
  · rw [hcall]
    exact Or.inl rfl
  · rw [hcall, persist_entries]
    exact Or.inr ⟨_, ⟨rfl, rfl, rfl⟩, rfl⟩

theorem commit_step (keys : Keyring) (type : String) (data : List (String × Json))
    (env : Surroundings) (s : TrustState) :
    LogStep s (commit keys type data env s).1
      (fun e => e.type = type ∧ e.data = data ∧ e.timestamp = isoformat env.now) := by
  have hentries := append_entries keys type data env.now env.writing s.log s.file
  unfold commit
  rcases hcall : s.log.append keys type data env.now env.writing s.file with
    ⟨log, file, answer⟩
  rw [hcall] at hentries
  cases answer with
  | raised e => exact ⟨hentries, Or.inl rfl⟩
  | crashed => exact ⟨hentries, Or.inl rfl⟩
  | returned entry =>
      rcases rebuildAndSave_store env { s with log := log, file := file } with
        ⟨hlog, _, hstore⟩
      constructor
      · rw [hlog]
        exact hentries
      · rw [hlog]
        exact hstore

end Trust
end PanicMonitr
