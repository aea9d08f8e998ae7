import PanicMonitr.Control.Socket
import PanicMonitr.Trust.RoundTrip

/-!
# Targets of the command line

A command names its peer by node id or alias.  Through the socket the client resolves the
name itself, from the peers the daemon lists; in direct mode `resolve_target` does it.
The client's dict keeps the last peer of an alias and does not look at revocations.
-/

namespace PanicMonitr
namespace Control

open Foundation
open Trust

/-!
## Resolving
-/

/-- `idx`: the listed peers by node id -/
def peerIndex (peers : List TrustedPeer) : List (String × TrustedPeer) :=
  (peers.map (fun p => (p.nodeId, p))).foldl (fun d e => Assoc.set e.1 e.2 d) []

def namedPeers (peers : List TrustedPeer) : List (String × String) :=
  peers.filterMap (fun p => (p.alias_.filter (fun a => a ≠ "")).map (fun a => (a, p.nodeId)))

/-- `alias_idx`: the node ids by alias -/
def aliasIndex (peers : List TrustedPeer) : List (String × String) :=
  (namedPeers peers).foldl (fun d e => Assoc.set e.1 e.2 d) []

def indexTarget (peers : List TrustedPeer) (target : String) : Option String :=
  if (Assoc.get? target (peerIndex peers)).isSome then some target
  else Assoc.get? target (aliasIndex peers)

def maintenanceTarget (peers : List TrustedPeer) (target : String) : Option String :=
  if validateNodeId target then some target else Assoc.get? target (aliasIndex peers)

/-- `resolve_target(target)`: the node id, or the error -/
def resolveTarget (peers : List TrustedPeer) (target : String) :
    Option String × Option String :=
  if validateNodeId target then (some target, none)
  else
    match peers.filter (fun p => p.alias_ = some target && p.revokedAt = none) with
    | [] => (none, some ("no active peer with alias '" ++ target ++ "'"))
    | [peer] => (some peer.nodeId, none)
    | matched =>
        (none, some ("ambiguous alias '" ++ target ++ "' (" ++ toString matched.length ++
          " matches: " ++
          String.intercalate ", " (matched.map (fun p => (p.nodeId.take 12).toString)) ++ ")"))

/-- Whatever the client resolves a target to, direct mode resolves it to as well. -/
def Agrees (client : List TrustedPeer -> String -> Option String)
    (peers : List TrustedPeer) (target : String) : Prop :=
  forall n, client peers target = some n -> resolveTarget peers target = (some n, none)

/-!
## Peers that carry an alias
-/

def carriers (target : String) (peers : List TrustedPeer) : List TrustedPeer :=
  peers.filter (fun p => p.alias_ = some target)

/-- One active peer carries the alias, and it has this node id. -/
def OnlyActive (peers : List TrustedPeer) (target n : String) : Prop :=
  exists peer, (carriers target peers).filter (fun p => p.revokedAt = none) = [peer] ∧
    peer.nodeId = n

def LastCarrier (peers : List TrustedPeer) (target n : String) : Prop :=
  target ≠ "" ∧ exists peer, (carriers target peers).getLast? = some peer ∧ peer.nodeId = n

theorem filter_namedPeers (peers : List TrustedPeer) (target : String) :
    (namedPeers peers).filter (fun e => decide (e.1 = target)) =
      if target = "" then []
      else (carriers target peers).map (fun p => (target, p.nodeId)) := by
  induction peers with
  | nil =>
      split
      · rfl
      · rfl
  | cons peer peers ih =>
      unfold namedPeers carriers at ih ⊢
      rw [List.filterMap_cons]
      cases halias : peer.alias_ with
      | none =>
          rw [Option.filter_none, Option.map_none, ih, List.filter_cons_of_neg (by simp [halias])]
      | some a =>
          by_cases hempty : a = ""
          · rw [Option.filter_some_neg (by simpa using hempty), Option.map_none, ih]
            split
            · rfl
            · rename_i htarget
              have hne : ¬ peer.alias_ = some target := by
                rw [halias, hempty]
                intro heq
                exact htarget (Option.some.inj heq).symm
              rw [List.filter_cons_of_neg (by simpa using hne)]
          · rw [Option.filter_some_pos (by simpa using hempty), Option.map_some]
            simp only
            by_cases hsame : a = target
            · rw [List.filter_cons_of_pos (by simpa using hsame), ih, hsame,
                if_neg (by rw [← hsame]; exact hempty), if_neg (by rw [← hsame]; exact hempty),
                List.filter_cons_of_pos (by simp [halias, hsame]), List.map_cons]
            · rw [List.filter_cons_of_neg (by simpa using hsame), ih,
                List.filter_cons_of_neg (by simpa [halias] using hsame)]

theorem aliasIndex_iff {peers : List TrustedPeer} {target n : String} :
    Assoc.get? target (aliasIndex peers) = some n <-> LastCarrier peers target n := by
  unfold aliasIndex LastCarrier
  rw [Assoc.get?_foldl_set, filter_namedPeers]
  by_cases hempty : target = ""
  · simp [hempty]
  · rw [if_neg hempty, List.getLast?_map]
    cases (carriers target peers).getLast? with
    | none => simp
    | some peer => simp [hempty]

theorem peerIndex_isSome {peers : List TrustedPeer} {target : String} :
    (Assoc.get? target (peerIndex peers)).isSome = true <->
      exists peer, peer ∈ peers ∧ peer.nodeId = target := by
  unfold peerIndex
  rw [Assoc.get?_foldl_set, Assoc.get?_nil, Option.or_none, Option.isSome_map,
    List.getLast?_isSome, List.filter_map]
  simp [List.filter_eq_nil_iff]

theorem resolveTarget_iff {peers : List TrustedPeer} {target n : String}
    (hvalid : validateNodeId target = false) :
    resolveTarget peers target = (some n, none) <-> OnlyActive peers target n := by
  have hfilter : peers.filter (fun p => p.alias_ = some target && p.revokedAt = none) =
      (carriers target peers).filter (fun p => p.revokedAt = none) := by
    unfold carriers
    rw [List.filter_filter]
    congr 1
    funext p
    exact Bool.and_comm _ _
  unfold resolveTarget OnlyActive
  rw [hvalid, if_neg Bool.false_ne_true, hfilter]
  cases (carriers target peers).filter (fun p => p.revokedAt = none) with
  | nil => simp
  | cons first rest =>
      cases rest with
      | nil => simp
      | cons second rest => simp

/-!
## When the modes agree
-/

/-- The target names one active peer, the last one listed under the alias. -/
def Unambiguous (peers : List TrustedPeer) (target : String) : Prop :=
  forall n, LastCarrier peers target n -> OnlyActive peers target n

/-- The condition where the client looks for a listed node id first. -/
def IndexUnambiguous (peers : List TrustedPeer) (target : String) : Prop :=
  ((exists peer, peer ∈ peers ∧ peer.nodeId = target) ∧
    (validateNodeId target = true ∨ OnlyActive peers target target)) ∨
  (¬ (exists peer, peer ∈ peers ∧ peer.nodeId = target) ∧
    ((forall n, ¬ LastCarrier peers target n) ∨
      (validateNodeId target = false ∧ Unambiguous peers target)))

theorem maintenance_agrees_iff {peers : List TrustedPeer} {target : String} :
    Agrees maintenanceTarget peers target <->
      validateNodeId target = true ∨ Unambiguous peers target := by
  unfold Agrees maintenanceTarget
  cases hvalid : validateNodeId target with
  | true =>
      refine iff_of_true ?_ (Or.inl rfl)
      intro n hn
      cases hn
      rw [resolveTarget, hvalid]
      rfl
  | false =>
      constructor
      · intro h
        right
        intro n hlast
        exact (resolveTarget_iff hvalid).mp (h n (aliasIndex_iff.mpr hlast))
      · intro h n hn
        rcases h with hvalid' | h
        · cases hvalid'
        · exact (resolveTarget_iff hvalid).mpr (h n (aliasIndex_iff.mp hn))

theorem index_agrees_iff {peers : List TrustedPeer} {target : String} :
    Agrees indexTarget peers target <-> IndexUnambiguous peers target := by
  unfold Agrees indexTarget IndexUnambiguous
  by_cases hlisted : exists peer, peer ∈ peers ∧ peer.nodeId = target
  · rw [if_pos (peerIndex_isSome.mpr hlisted)]
    cases hvalid : validateNodeId target with
    | true =>
        refine iff_of_true ?_ (Or.inl ⟨hlisted, Or.inl rfl⟩)
        intro n hn
        cases hn
        rw [resolveTarget, hvalid]
        rfl
    | false =>
        constructor
        · intro h
          exact Or.inl ⟨hlisted, Or.inr ((resolveTarget_iff hvalid).mp (h target rfl))⟩
        · intro h n hn
          cases hn
          rcases h with ⟨_, hvalid' | honly⟩ | ⟨hnot, _⟩
          · cases hvalid'
          · exact (resolveTarget_iff hvalid).mpr honly
          · exact absurd hlisted hnot
  · rw [if_neg (fun h => hlisted (peerIndex_isSome.mp h))]
    constructor
    · intro h
      refine Or.inr ⟨hlisted, ?_⟩
      by_cases hnone : forall n, ¬ LastCarrier peers target n
      · exact Or.inl hnone
      · right
        push Not at hnone
        rcases hnone with ⟨n, hlast⟩
        cases hvalid : validateNodeId target with
        | true =>
            -- the client takes the alias, direct mode the node id it looks like
            have hresolve := h n (aliasIndex_iff.mpr hlast)
            rw [resolveTarget, hvalid] at hresolve
            cases hresolve
            rcases hlast with ⟨_, peer, hpeer, hn⟩
            have hin := List.mem_of_mem_filter (List.mem_of_getLast? hpeer)
            exact absurd ⟨peer, hin, hn⟩ hlisted
        | false =>
            refine ⟨rfl, ?_⟩
            intro m hm
            exact (resolveTarget_iff hvalid).mp (h m (aliasIndex_iff.mpr hm))
    · intro h n hn
      rcases h with ⟨hin, _⟩ | ⟨_, hnone | ⟨hvalid, hunambiguous⟩⟩
      · exact absurd hin hlisted
      · exact absurd (aliasIndex_iff.mp hn) (hnone n)
      · exact (resolveTarget_iff hvalid).mpr (hunambiguous n (aliasIndex_iff.mp hn))

/-- Exactly when the client and direct mode agree on a target. -/
theorem targets_agree_iff (peers : List TrustedPeer) (target : String) :
    (Agrees indexTarget peers target <-> IndexUnambiguous peers target) ∧
    (Agrees maintenanceTarget peers target <->
      validateNodeId target = true ∨ Unambiguous peers target) :=
  ⟨index_agrees_iff, maintenance_agrees_iff⟩

/-!
Two active peers of one alias: the client picks the second, direct mode refuses.
-/

def pi (nodeId : String) : TrustedPeer where
  nodeId := nodeId
  alias_ := some "pi"
  permissions := ["monitor"]
  tags := []
  maintenanceStart := none
  maintenanceEnd := none
  addedAt := noon
  revokedAt := none

def twoPis : List TrustedPeer :=
  [pi (hex (List.replicate 32 1)), pi (hex (List.replicate 32 2))]

theorem ambiguous_alias_picked :
    indexTarget twoPis "pi" = some (hex (List.replicate 32 2)) ∧
      maintenanceTarget twoPis "pi" = some (hex (List.replicate 32 2)) ∧
      ¬ Agrees indexTarget twoPis "pi" ∧ ¬ Agrees maintenanceTarget twoPis "pi" := by
  have hindex : indexTarget twoPis "pi" = some (hex (List.replicate 32 2)) := by decide
  have hmaintenance : maintenanceTarget twoPis "pi" = some (hex (List.replicate 32 2)) := by
    decide
  have hresolve : (resolveTarget twoPis "pi").1 = none := by decide
  refine ⟨hindex, hmaintenance, ?_, ?_⟩
  · intro h
    rw [h _ hindex] at hresolve
    cases hresolve
  · intro h
    rw [h _ hmaintenance] at hresolve
    cases hresolve

end Control
end PanicMonitr
