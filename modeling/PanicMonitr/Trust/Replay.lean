import PanicMonitr.Trust.Projection
import PanicMonitr.Foundation.Sequences

/-!
# What a replay knows of one peer

One entry changes the view of the peer it names and no other.  Over a whole log the view
of a peer therefore tells what came after its last `add_peer`: whether it was revoked,
and the permissions of the last `update_permissions`.
-/

namespace PanicMonitr
namespace Trust

open Foundation

theorem bind_eq_ok {ε α β : Type} {x : Except ε α} {f : α -> Except ε β} {b : β} :
    (x >>= f) = Except.ok b <-> exists a, x = Except.ok a ∧ f a = Except.ok b := by
  cases x with
  | error e =>
      constructor
      · intro h
        cases h
      · intro h
        rcases h with ⟨a, ha, _⟩
        cases ha
  | ok a =>
      constructor
      · intro h
        exact ⟨a, rfl, h⟩
      · intro h
        rcases h with ⟨a', ha, hf⟩
        cases ha
        exact hf

/-!
## Entries that name a peer
-/

def Names (n : String) (entry : LogEntry) : Prop :=
  TrustLog.namesNode n entry = true

def Adds (n : String) (entry : LogEntry) : Prop :=
  entry.type = OP_ADD_PEER ∧ Names n entry

def Revokes (n : String) (entry : LogEntry) : Prop :=
  entry.type = OP_REVOKE_PEER ∧ Names n entry

def Updates (n : String) (entry : LogEntry) : Prop :=
  entry.type = OP_UPDATE_PERMISSIONS ∧ Names n entry

instance (n : String) (entry : LogEntry) : Decidable (Names n entry) :=
  inferInstanceAs (Decidable (_ = true))

instance (n : String) (entry : LogEntry) : Decidable (Updates n entry) :=
  inferInstanceAs (Decidable (_ ∧ _))

theorem names_iff {n : String} {entry : LogEntry} :
    Names n entry <-> Assoc.get? "node_id" entry.data = some (Json.str n) := by
  unfold Names TrustLog.namesNode
  split
  · rename_i s hget
    rw [hget, decide_eq_true_iff]
    constructor
    · intro h
      rw [h]
    · intro h
      cases h
      rfl
  · rename_i hnot
    constructor
    · intro h
      cases h
    · intro h
      exact absurd h (hnot n)

theorem item_node_id {n : String} {entry : LogEntry} {nid : Json}
    (h : entry.item "node_id" = Except.ok nid) :
    hashKey nid = Except.ok (some n) <-> Names n entry := by
  unfold LogEntry.item at h
  rw [names_iff]
  cases hget : Assoc.get? "node_id" entry.data with
  | none =>
      rw [hget] at h
      cases h
  | some v =>
      rw [hget] at h
      cases h
      constructor
      · intro hkey
        cases nid with
        | str s =>
            cases hkey
            rfl
        | null => cases hkey
        | bool b => cases hkey
        | int n => cases hkey
        | float text => cases hkey
        | arr items => cases hkey
        | obj fields => cases hkey
      · intro hname
        cases hname
        rfl

/-!
## One entry
-/

inductive ViewStep (entry : LogEntry) (v : PeerView) : PeerView -> Prop where
  | revoked : entry.type = OP_REVOKE_PEER -> v.revokedAt = none ->
      ViewStep entry v { v with revokedAt := some entry.timestamp }
  | revokedBefore {t : String} : entry.type = OP_REVOKE_PEER -> v.revokedAt = some t ->
      ViewStep entry v v
  | permissions {items : List Json} : entry.type = OP_UPDATE_PERMISSIONS ->
      pyList (entry.getD "permissions" (Json.arr [])) = Except.ok items ->
        ViewStep entry v { v with permissions := items }
  | alias_ : entry.type = OP_ADD_PEER_ALIAS ->
      ViewStep entry v { v with alias_ := entry.getD "alias" Json.null }
  | tags {items : List Json} : entry.type = OP_SET_TAGS ->
      pyList (entry.getD "tags" (Json.arr [])) = Except.ok items ->
        ViewStep entry v { v with tags := items }
  | window : entry.type = OP_SET_MAINTENANCE ->
      ViewStep entry v
        { v with
          maintenanceStart := entry.getD "start" Json.null
          maintenanceEnd := entry.getD "end" Json.null }
  | cleared : entry.type = OP_CLEAR_MAINTENANCE ->
      ViewStep entry v { v with maintenanceStart := Json.null, maintenanceEnd := Json.null }

theorem viewChange_step {entry : LogEntry} {change : PeerView -> Except PyError PeerView}
    (hchange : viewChange entry = some change) {v v' : PeerView}
    (hv : change v = Except.ok v') : ViewStep entry v v' := by
  unfold viewChange at hchange
  split at hchange
  · rename_i htype
    cases hchange
    unfold revokeView at hv
    split at hv
    · rename_i hnone
      cases hv
      exact ViewStep.revoked htype hnone
    · rename_i hsome
      cases hv
      rcases Option.ne_none_iff_exists'.mp hsome with ⟨t, ht⟩
      exact ViewStep.revokedBefore htype ht
  split at hchange
  · rename_i htype
    cases hchange
    rcases bind_eq_ok.mp hv with ⟨items, hlist, hview⟩
    cases hview
    exact ViewStep.permissions htype hlist
  split at hchange
  · rename_i htype
    cases hchange
    cases hv
    exact ViewStep.alias_ htype
  split at hchange
  · rename_i htype
    cases hchange
    rcases bind_eq_ok.mp hv with ⟨items, hlist, hview⟩
    cases hview
    exact ViewStep.tags htype hlist
  split at hchange
  · rename_i htype
    cases hchange
    cases hv
    exact ViewStep.window htype
  split at hchange
  · rename_i htype
    cases hchange
    cases hv
    exact ViewStep.cleared htype
  · cases hchange

/-- How an entry may change what is known of one peer. -/
inductive NodeStep (n : String) (entry : LogEntry) :
    Option PeerView -> Option PeerView -> Prop where
  | absent : ¬ Adds n entry -> NodeStep n entry none none
  | added {old : Option PeerView} {v : PeerView} : Adds n entry -> v.revokedAt = none ->
      pyList (entry.getD "permissions" (Json.arr [Json.str "monitor"])) =
        Except.ok v.permissions -> NodeStep n entry old (some v)
  | revoked {v v' : PeerView} : Revokes n entry ->
      v'.revokedAt = some (v.revokedAt.getD entry.timestamp) ->
      v'.permissions = v.permissions -> NodeStep n entry (some v) (some v')
  | updated {v v' : PeerView} : Updates n entry -> v'.revokedAt = v.revokedAt ->
      pyList (entry.getD "permissions" (Json.arr [])) = Except.ok v'.permissions ->
        NodeStep n entry (some v) (some v')
  | touched {v v' : PeerView} : ¬ Adds n entry -> ¬ Revokes n entry -> ¬ Updates n entry ->
      v'.revokedAt = v.revokedAt -> v'.permissions = v.permissions ->
        NodeStep n entry (some v) (some v')

/-- An entry that is none of the three operations of a peer leaves its view alone. -/
theorem NodeStep.same {n : String} {entry : LogEntry} (view : Option PeerView)
    (hadd : ¬ Adds n entry) (hrevoke : ¬ Revokes n entry) (hupdate : ¬ Updates n entry) :
    NodeStep n entry view view := by
  cases view with
  | none => exact NodeStep.absent hadd
  | some v => exact NodeStep.touched hadd hrevoke hupdate rfl rfl

theorem NodeStep.change {n : String} {entry : LogEntry} {v v' : PeerView}
    (hadd : entry.type ≠ OP_ADD_PEER) (hname : Names n entry)
    {change : PeerView -> Except PyError PeerView} (hchange : viewChange entry = some change)
    (hv : change v = Except.ok v') : NodeStep n entry (some v) (some v') := by
  have htouched : forall {op : String}, entry.type = op -> op ≠ OP_REVOKE_PEER ->
      op ≠ OP_UPDATE_PERMISSIONS -> v'.revokedAt = v.revokedAt ->
      v'.permissions = v.permissions -> NodeStep n entry (some v) (some v') := by
    intro op htype hrevoke hupdate hrevokedAt hpermissions
    rw [← htype] at hrevoke hupdate
    exact NodeStep.touched (fun h => hadd h.left) (fun h => hrevoke h.left)
      (fun h => hupdate h.left) hrevokedAt hpermissions
  cases viewChange_step hchange hv with
  | revoked htype hnone => exact NodeStep.revoked ⟨htype, hname⟩ (by rw [hnone]; rfl) rfl
  | revokedBefore htype ht => exact NodeStep.revoked ⟨htype, hname⟩ (by rw [ht]; rfl) rfl
  | permissions htype hlist => exact NodeStep.updated ⟨htype, hname⟩ rfl hlist
  | alias_ htype => exact htouched htype (by decide) (by decide) rfl rfl
  | tags htype _ => exact htouched htype (by decide) (by decide) rfl rfl
  | window htype => exact htouched htype (by decide) (by decide) rfl rfl
  | cleared htype => exact htouched htype (by decide) (by decide) rfl rfl

theorem NodeStep.unnamed {n : String} {entry : LogEntry} (view : Option PeerView)
    (hname : ¬ Names n entry) : NodeStep n entry view view :=
  NodeStep.same view (fun hadd => hname hadd.right) (fun hrevoke => hname hrevoke.right)
    (fun hupdate => hname hupdate.right)

theorem key_eq_of_names {n : String} {entry : LogEntry} {nid : Json} {key : NodeKey}
    (hnid : entry.item "node_id" = Except.ok nid) (hkey : hashKey nid = Except.ok key) :
    key = some n <-> Names n entry := by
  rw [← item_node_id hnid, hkey]
  constructor
  · intro h
    rw [h]
  · intro h
    cases h
    rfl

theorem addView_node {entry : LogEntry} {peers peers' : Views} (hadd : entry.type = OP_ADD_PEER)
    (h : addView entry peers = Except.ok peers') (n : String) :
    NodeStep n entry (Assoc.get? (some n) peers) (Assoc.get? (some n) peers') := by
  unfold addView at h
  rcases bind_eq_ok.mp h with ⟨nid, hnid, h⟩
  rcases bind_eq_ok.mp h with ⟨permissions, hpermissions, h⟩
  rcases bind_eq_ok.mp h with ⟨tags, _, h⟩
  rcases bind_eq_ok.mp h with ⟨key, hkey, h⟩
  cases h
  have hnames := key_eq_of_names (n := n) hnid hkey
  by_cases hname : Names n entry
  · rw [hnames.mpr hname, Assoc.get?_set_self]
    exact NodeStep.added ⟨hadd, hname⟩ rfl hpermissions
  · rw [Assoc.get?_set_of_ne (fun heq => hname (hnames.mp heq.symm))]
    exact NodeStep.unnamed _ hname

theorem changeView_node {entry : LogEntry} {peers peers' : Views}
    (hadd : entry.type ≠ OP_ADD_PEER) {change : PeerView -> Except PyError PeerView}
    (hchange : viewChange entry = some change)
    (h : changeView change entry peers = Except.ok peers') (n : String) :
    NodeStep n entry (Assoc.get? (some n) peers) (Assoc.get? (some n) peers') := by
  unfold changeView at h
  rcases bind_eq_ok.mp h with ⟨nid, hnid, h⟩
  rcases bind_eq_ok.mp h with ⟨key, hkey, h⟩
  have hnames := key_eq_of_names (n := n) hnid hkey
  by_cases hname : Names n entry
  · rw [hnames.mpr hname] at h
    cases hold : Assoc.get? (some n) peers with
    | none =>
        rw [hold] at h
        cases h
        rw [hold]
        exact NodeStep.absent (fun hnot => hadd hnot.left)
    | some v =>
        rw [hold] at h
        rcases bind_eq_ok.mp h with ⟨v', hv', h⟩
        cases h
        rw [Assoc.get?_set_self]
        exact NodeStep.change hadd hname hchange hv'
  · have hsame : Assoc.get? (some n) peers' = Assoc.get? (some n) peers := by
      split at h
      · cases h
        rfl
      · rcases bind_eq_ok.mp h with ⟨v', _, h⟩
        cases h
        exact Assoc.get?_set_of_ne (fun heq => hname (hnames.mp heq.symm)) _ _
    rw [hsame]
    exact NodeStep.unnamed _ hname

theorem applyEntry_node {entry : LogEntry} {peers peers' : Views}
    (h : applyEntry entry peers = Except.ok peers') (n : String) :
    NodeStep n entry (Assoc.get? (some n) peers) (Assoc.get? (some n) peers') := by
  unfold applyEntry at h
  split at h
  · rename_i hgenesis
    cases h
    have hne : forall op, OP_GENESIS ≠ op -> ¬ (entry.type = op ∧ Names n entry) := by
      intro op hop hop'
      exact hop (hgenesis.symm.trans hop'.left)
    exact NodeStep.same _ (hne _ (by decide)) (hne _ (by decide)) (hne _ (by decide))
  rename_i hgenesis
  split at h
  · rename_i hadd
    exact addView_node hadd h n
  rename_i hadd
  split at h
  · rename_i change hchange
    exact changeView_node hadd hchange h n
  · rename_i hchange
    cases h
    refine NodeStep.same _ (fun hnot => hadd hnot.left) ?_ ?_
    · intro hnot
      unfold viewChange at hchange
      rw [if_pos hnot.left] at hchange
      cases hchange
    · intro hnot
      unfold viewChange at hchange
      rw [if_pos hnot.left] at hchange
      split at hchange
      · cases hchange
      · cases hchange

/-!
## A whole log
-/

/-- The permissions in force after an `add_peer` and what followed it. -/
def effectivePermissions (n : String) (add : LogEntry) (after : List LogEntry) : Json :=
  match (after.filter (fun e => decide (Updates n e))).getLast? with
  | some update => update.getD "permissions" (Json.arr [])
  | none => add.getD "permissions" (Json.arr [Json.str "monitor"])

/-- The log splits at the last `add_peer` of a peer. -/
structure LastAdd (n : String) (log before : List LogEntry) (add : LogEntry)
    (after : List LogEntry) : Prop where
  split : log = before ++ add :: after
  adds : Adds n add
  last : forall e, e ∈ after -> ¬ Adds n e

theorem LastAdd.unique {n : String} {log before before' after after' : List LogEntry}
    {add add' : LogEntry} (h : LastAdd n log before add after)
    (h' : LastAdd n log before' add' after') :
    before = before' ∧ add = add' ∧ after = after' :=
  last_split_unique (P := Adds n) (h.split.symm.trans h'.split) h.adds h'.adds h.last h'.last

theorem LastAdd.snoc {n : String} {log before after : List LogEntry} {add : LogEntry}
    (h : LastAdd n log before add after) {entry : LogEntry} (hentry : ¬ Adds n entry) :
    LastAdd n (log ++ [entry]) before add (after ++ [entry]) := by
  constructor
  · rw [h.split, List.append_assoc, List.cons_append]
  · exact h.adds
  · intro e he
    rcases List.mem_append.mp he with hold | hnew
    · exact h.last e hold
    · rw [List.mem_singleton.mp hnew]
      exact hentry

theorem effectivePermissions_snoc (n : String) (add : LogEntry) (after : List LogEntry)
    (entry : LogEntry) :
    effectivePermissions n add (after ++ [entry]) =
      if Updates n entry then entry.getD "permissions" (Json.arr [])
      else effectivePermissions n add after := by
  unfold effectivePermissions
  rw [List.filter_append]
  by_cases hupdate : Updates n entry
  · simp [hupdate]
  · simp [hupdate]

/-- What the view of a peer says of the log. -/
inductive Known (n : String) (log : List LogEntry) : Option PeerView -> Prop where
  | never : (forall e, e ∈ log -> ¬ Adds n e) -> Known n log none
  | since {v : PeerView} {before after : List LogEntry} {add : LogEntry} :
      LastAdd n log before add after ->
      (v.revokedAt = none <-> forall e, e ∈ after -> ¬ Revokes n e) ->
      (forall t, v.revokedAt = some t -> exists e, e ∈ log ∧ Revokes n e ∧ e.timestamp = t) ->
      pyList (effectivePermissions n add after) = Except.ok v.permissions ->
        Known n log (some v)

theorem forall_mem_snoc {P : LogEntry -> Prop} {entries : List LogEntry} {entry : LogEntry} :
    (forall e, e ∈ entries ++ [entry] -> P e) <-> (forall e, e ∈ entries -> P e) ∧ P entry := by
  simp only [List.mem_append, List.mem_singleton, or_imp, forall_and, forall_eq]

theorem Known.snoc {n : String} {log : List LogEntry} {entry : LogEntry}
    {old new : Option PeerView} (h : Known n log old) (hstep : NodeStep n entry old new) :
    Known n (log ++ [entry]) new := by
  have hmore : forall {t : String}, (exists e, e ∈ log ∧ Revokes n e ∧ e.timestamp = t) ->
      exists e, e ∈ log ++ [entry] ∧ Revokes n e ∧ e.timestamp = t := by
    intro t ht
    rcases ht with ⟨e, he, hrest⟩
    exact ⟨e, List.mem_append_left _ he, hrest⟩
  have hne : forall {op op' : String}, op ≠ op' ->
      entry.type = op ∧ Names n entry -> ¬ (entry.type = op' ∧ Names n entry) := by
    intro op op' hop hthis hthat
    exact hop (hthis.left.symm.trans hthat.left)
  cases hstep with
  | absent hadd =>
      cases h with
      | never hnever => exact Known.never (forall_mem_snoc.mpr ⟨hnever, hadd⟩)
  | added hadd hrevoked hlist =>
      have hlast : LastAdd n (log ++ [entry]) log entry [] := by
        refine ⟨rfl, hadd, ?_⟩
        intro e he
        cases he
      refine Known.since hlast ?_ ?_ hlist
      · refine iff_of_true hrevoked ?_
        intro e he
        cases he
      · intro t ht
        rw [hrevoked] at ht
        cases ht
  | revoked hrevoke hstamp hpermissions =>
      cases h with
      | since hlast hrevoked htimes hlist =>
          have hnotUpdate : ¬ Updates n entry := hne (by decide) hrevoke
          refine Known.since (hlast.snoc (hne (by decide) hrevoke)) ?_ ?_ ?_
          · rw [hstamp]
            refine iff_of_false (fun h => by cases h) ?_
            intro hnone
            exact (forall_mem_snoc.mp hnone).right hrevoke
          · intro t ht
            rw [hstamp] at ht
            rename_i v v' before after add
            cases hv : v.revokedAt with
            | none =>
                rw [hv] at ht
                exact ⟨entry, List.mem_append_right _ (List.mem_singleton_self entry), hrevoke,
                  Option.some.inj ht⟩
            | some t' =>
                rw [hv] at ht
                rw [← Option.some.inj ht]
                exact hmore (htimes t' hv)
          · rw [effectivePermissions_snoc, if_neg hnotUpdate, hpermissions]
            exact hlist
  | updated hupdate hstamp hlist =>
      cases h with
      | since hlast hrevoked htimes _ =>
          have hnotRevoke : ¬ Revokes n entry := hne (by decide) hupdate
          refine Known.since (hlast.snoc (hne (by decide) hupdate)) ?_ ?_ ?_
          · rw [hstamp, hrevoked, forall_mem_snoc]
            exact ⟨fun h => ⟨h, hnotRevoke⟩, fun h => h.left⟩
          · intro t ht
            rw [hstamp] at ht
            exact hmore (htimes t ht)
          · rw [effectivePermissions_snoc, if_pos hupdate]
            exact hlist
  | touched hadd hrevoke hupdate hstamp hpermissions =>
      cases h with
      | since hlast hrevoked htimes hlist =>
          refine Known.since (hlast.snoc hadd) ?_ ?_ ?_
          · rw [hstamp, hrevoked, forall_mem_snoc]
            exact ⟨fun h => ⟨h, hrevoke⟩, fun h => h.left⟩
          · intro t ht
            rw [hstamp] at ht
            exact hmore (htimes t ht)
          · rw [effectivePermissions_snoc, if_neg hupdate, hpermissions]
            exact hlist

/-- The run lemma: every view tells what the replayed log says of its peer. -/
theorem replay_known {n : String} {log entries : List LogEntry} {peers peers' : Views}
    (h : Known n log (Assoc.get? (some n) peers))
    (hreplay : replay peers entries = Except.ok peers') :
    Known n (log ++ entries) (Assoc.get? (some n) peers') := by
  induction entries generalizing log peers with
  | nil =>
      cases hreplay
      rw [List.append_nil]
      exact h
  | cons entry entries ih =>
      rcases bind_eq_ok.mp hreplay with ⟨peers'', hentry, hrest⟩
      have hnext := ih (h.snoc (applyEntry_node hentry n)) hrest
      rwa [List.append_assoc, List.singleton_append] at hnext

theorem materializePeers_known {entries : List LogEntry} {peers : Views}
    (h : materializePeers entries = Except.ok peers) (n : String) :
    Known n entries (Assoc.get? (some n) peers) := by
  have hnever : Known n [] (Assoc.get? (some n) ([] : Views)) := by
    apply Known.never
    intro e he
    cases he
  exact replay_known hnever h

end Trust
end PanicMonitr
