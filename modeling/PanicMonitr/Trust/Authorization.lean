import PanicMonitr.Trust.Manager
import PanicMonitr.Trust.RoundTrip

/-!
# Default-deny authorization

Who may use a protocol is decided by the last `add_peer` of a peer and what follows it.
The trust store answers exactly that, and once a peer is revoked no operation of the
manager but a new `add_peer` brings it back.
-/

namespace PanicMonitr
namespace Trust

open Foundation

/-!
## What the log says
-/

/-- The log lets a peer use a protocol. -/
def Authorized (n protocol : String) (entries : List LogEntry) : Prop :=
  exists before add after, LastAdd n entries before add after ∧
    (forall e, e ∈ after -> ¬ Revokes n e) ∧
    exists texts : List String,
      effectivePermissions n add after = Json.arr (texts.map Json.str) ∧
        (protocol ∈ texts ∨ "*" ∈ texts)

/-- The revocations of a peer carry a time. -/
def Stamped (n : String) (entries : List LogEntry) : Prop :=
  forall e, e ∈ entries -> Revokes n e -> e.timestamp ≠ ""

theorem stamped_of_wellFormed {entries : List LogEntry}
    (h : forall e, e ∈ entries -> WellFormed e) (n : String) : Stamped n entries := by
  intro e he hrevoke
  rcases (h e he).timestamp (Or.inr hrevoke.left) with ⟨d, hd⟩
  exact ne_empty_of_fromisoformat hd

theorem textList_getD {entry : LogEntry} {k : String} (default : List String)
    (h : forall v, Assoc.get? k entry.data = some v -> TextList v) :
    TextList (entry.getD k (Json.arr (default.map Json.str))) := by
  unfold LogEntry.getD
  cases hget : Assoc.get? k entry.data with
  | none => exact ⟨default, rfl⟩
  | some v => exact h v hget

theorem textList_effectivePermissions {n : String} {entries before after : List LogEntry}
    {add : LogEntry} (hwf : forall e, e ∈ entries -> WellFormed e)
    (h : LastAdd n entries before add after) :
    TextList (effectivePermissions n add after) := by
  have hin : forall e, e = add ∨ e ∈ after -> WellFormed e := by
    intro e he
    apply hwf
    rw [h.split]
    exact List.mem_append_right _ (List.mem_cons.mpr he)
  unfold effectivePermissions
  split
  · rename_i update hupdate
    rcases List.mem_filter.mp (List.mem_of_getLast? hupdate) with ⟨hmem, htype⟩
    have hlist := (hin update (Or.inr hmem)).permissions
      (Or.inr (of_decide_eq_true htype).left)
    exact textList_getD [] hlist
  · exact textList_getD ["monitor"] ((hin add (Or.inl rfl)).permissions (Or.inl h.adds.left))

/-!
## What the store says
-/

theorem grants_iff {protocol : String} {peer : TrustedPeer} :
    PeerTrustStore.grants protocol peer = true <->
      protocol ∈ peer.permissions ∨ "*" ∈ peer.permissions := by
  unfold PeerTrustStore.grants
  rw [Bool.or_eq_true, decide_eq_true_iff, decide_eq_true_iff]

/-- The log authorizes a peer when its record is not revoked and grants the protocol. -/
theorem Rebuilt.authorized_iff {entries : List LogEntry} {store : PeerTrustStore}
    (h : Rebuilt entries store) (hwf : forall e, e ∈ entries -> WellFormed e)
    (n protocol : String) :
    Authorized n protocol entries <->
      exists peer, peer ∈ store.peers ∧ peer.nodeId = n ∧ peer.revokedAt = none ∧
        PeerTrustStore.grants protocol peer = true := by
  have htimed : forall {v : PeerView},
      (forall t, v.revokedAt = some t ->
        exists e, e ∈ entries ∧ Revokes n e ∧ e.timestamp = t) ->
      forall t, v.revokedAt = some t -> t ≠ "" := by
    intro v htimes t ht
    rcases htimes t ht with ⟨e, he, hrevoke, hstamp⟩
    rw [← hstamp]
    exact stamped_of_wellFormed hwf n e he hrevoke
  constructor
  · intro hauth
    rcases hauth with ⟨before, add, after, hlast, hnot, texts, htexts, hgrant⟩
    have hadded : add ∈ entries := by
      rw [hlast.split]
      exact List.mem_append_right _ List.mem_cons_self
    rcases h.key_iff.mpr ⟨add, hadded, hlast.adds⟩ with ⟨peer, hget⟩
    rcases (h.lookup n peer).mp hget with ⟨hin, hn⟩
    rcases h.known hget with ⟨view, hknown, hrecord⟩
    cases hknown with
    | since hlast' hrevoked htimes hlist =>
        rcases hlast.unique hlast' with ⟨hbefore, hadd, hafter⟩
        rw [← hafter] at hrevoked
        rw [← hadd, ← hafter, htexts] at hlist
        have hperms : peer.permissions = texts := by
          apply texts_injective
          rw [← hrecord.permissions]
          exact (Except.ok.inj hlist).symm
        refine ⟨peer, hin, hn, ?_, ?_⟩
        · rw [hrecord.revokedAt (htimed htimes), hrevoked]
          exact hnot
        · rw [grants_iff, hperms]
          exact hgrant
  · intro hrecord
    rcases hrecord with ⟨peer, hin, hn, hactive, hgrant⟩
    rcases h.present peer hin with ⟨view, hknown, hrecord⟩
    rw [hn] at hknown
    cases hknown with
    | since hlast hrevoked htimes hlist =>
        rename_i before after add
        refine ⟨before, add, after, hlast, ?_, peer.permissions, ?_, ?_⟩
        · rw [← hrevoked, ← hrecord.revokedAt (htimed htimes)]
          exact hactive
        · rcases textList_effectivePermissions hwf hlast with ⟨texts, htexts⟩
          rw [htexts] at hlist ⊢
          rw [← hrecord.permissions, ← Except.ok.inj hlist]
        · exact grants_iff.mp hgrant

theorem verifyAndAuthorize_iff {store : PeerTrustStore} {own n protocol : String}
    (hown : n ≠ own) :
    (store.verifyAndAuthorize own n protocol).1 = true <->
      exists peer, store.getPeer n = some peer ∧ peer.revokedAt = none ∧
        PeerTrustStore.grants protocol peer = true := by
  unfold PeerTrustStore.verifyAndAuthorize
  rw [if_neg hown]
  cases hget : store.getPeer n with
  | none =>
      refine iff_of_false (fun h => by cases h) ?_
      intro h
      rcases h with ⟨peer, hpeer, _⟩
      cases hpeer
  | some peer =>
      by_cases hrevoked : peer.revokedAt = none
      · by_cases hgrant : PeerTrustStore.grants protocol peer = true
        · simp [hrevoked, hgrant]
        · simp [hrevoked, hgrant]
      · simp [hrevoked]

theorem mem_peersWithPermission {store : PeerTrustStore} {protocol : String}
    {peer : TrustedPeer} :
    peer ∈ store.peersWithPermission protocol <->
      peer ∈ store.peers ∧ peer.revokedAt = none ∧
        PeerTrustStore.grants protocol peer = true := by
  unfold PeerTrustStore.peersWithPermission
  rw [List.mem_filter, Bool.and_eq_true, decide_eq_true_iff]

/-- The answer of `verify_and_authorize`, and membership in `peers_with_permission`. -/
theorem Rebuilt.answers {entries : List LogEntry} {store : PeerTrustStore}
    (h : Rebuilt entries store) (hwf : forall e, e ∈ entries -> WellFormed e)
    (n protocol : String) :
    (forall own, n ≠ own ->
      ((store.verifyAndAuthorize own n protocol).1 = true <->
        Authorized n protocol entries)) ∧
    ((exists peer, peer ∈ store.peersWithPermission protocol ∧ peer.nodeId = n) <->
      Authorized n protocol entries) := by
  rw [h.authorized_iff hwf]
  constructor
  · intro own hown
    rw [verifyAndAuthorize_iff hown]
    constructor
    · intro hanswer
      rcases hanswer with ⟨peer, hget, hrest⟩
      rcases (h.lookup n peer).mp hget with ⟨hin, hn⟩
      exact ⟨peer, hin, hn, hrest⟩
    · intro hrecord
      rcases hrecord with ⟨peer, hin, hn, hrest⟩
      exact ⟨peer, (h.lookup n peer).mpr ⟨hin, hn⟩, hrest⟩
  · constructor
    · intro hlisted
      rcases hlisted with ⟨peer, hpeer, hn⟩
      rcases mem_peersWithPermission.mp hpeer with ⟨hin, hrest⟩
      exact ⟨peer, hin, hn, hrest⟩
    · intro hrecord
      rcases hrecord with ⟨peer, hin, hn, hrest⟩
      exact ⟨peer, mem_peersWithPermission.mpr ⟨hin, hrest⟩, hn⟩

theorem Rebuilt.listed_once {entries : List LogEntry} {store : PeerTrustStore}
    (h : Rebuilt entries store) (n protocol : String) :
    ((store.peersWithPermission protocol).map TrustedPeer.nodeId).count n <= 1 := by
  have hsub : List.Sublist ((store.peersWithPermission protocol).map TrustedPeer.nodeId)
      (store.peers.map TrustedPeer.nodeId) := List.filter_sublist.map _
  exact List.nodup_iff_count_le_one.mp (h.nodup.sublist hsub) n

/-!
## After a revocation

A `revoke_peer` with no `add_peer` behind it keeps a record revoked, whatever the other
operations append.  A store may also be older than its log, when projecting it failed;
the record it holds then is one that was revoked before.
-/

def Withdrawn (n : String) (entries : List LogEntry) : Prop :=
  exists before revoke after, entries = before ++ revoke :: after ∧ Revokes n revoke ∧
    forall e, e ∈ after -> ¬ Adds n e

theorem Withdrawn.snoc {n : String} {entries : List LogEntry} (h : Withdrawn n entries)
    {entry : LogEntry} (hentry : ¬ Adds n entry) : Withdrawn n (entries ++ [entry]) := by
  rcases h with ⟨before, revoke, after, hsplit, hrevoke, hnot⟩
  refine ⟨before, revoke, after ++ [entry], ?_, hrevoke, forall_mem_snoc.mpr ⟨hnot, hentry⟩⟩
  rw [hsplit, List.append_assoc, List.cons_append]

theorem withdrawn_revoke {n : String} (entries : List LogEntry) {entry : LogEntry}
    (h : Revokes n entry) : Withdrawn n (entries ++ [entry]) := by
  refine ⟨entries, entry, [], rfl, h, ?_⟩
  intro e he
  cases he

/-- The revocation stands after the last `add_peer`. -/
theorem Withdrawn.after {n : String} {entries before after : List LogEntry} {add : LogEntry}
    (h : Withdrawn n entries) (hlast : LastAdd n entries before add after) :
    exists e, e ∈ after ∧ Revokes n e := by
  rcases h with ⟨front, revoke, back, hsplit, hrevoke, hnot⟩
  rcases List.append_eq_append_iff.mp (hsplit.symm.trans hlast.split) with
    ⟨middle, hbefore, hback⟩ | ⟨middle, hfront, hafter⟩
  · cases middle with
    | nil =>
        rw [List.nil_append] at hback
        cases hback
        have htypes : OP_REVOKE_PEER ≠ OP_ADD_PEER := by decide
        exact absurd (hrevoke.left.symm.trans hlast.adds.left) htypes
    | cons e middle =>
        rw [List.cons_append] at hback
        cases hback
        refine absurd hlast.adds (hnot add ?_)
        exact List.mem_append_right _ (List.mem_cons_self ..)
  · cases middle with
    | nil =>
        rw [List.nil_append] at hafter
        cases hafter
        have htypes : OP_ADD_PEER ≠ OP_REVOKE_PEER := by decide
        exact absurd (hlast.adds.left.symm.trans hrevoke.left) htypes
    | cons e middle =>
        rw [List.cons_append] at hafter
        cases hafter
        exact ⟨revoke, List.mem_append_right _ (List.mem_cons_self ..), hrevoke⟩

/-- A store that lets a peer do nothing. -/
def Denies (n : String) (store : PeerTrustStore) : Prop :=
  forall peer, store.getPeer n = some peer -> peer.revokedAt ≠ none

theorem Denies.answer {n : String} {store : PeerTrustStore} (h : Denies n store)
    {own : String} (hown : n ≠ own) (protocol : String) :
    (store.verifyAndAuthorize own n protocol).1 = false := by
  rw [← Bool.not_eq_true, verifyAndAuthorize_iff hown]
  intro hanswer
  rcases hanswer with ⟨peer, hget, hactive, _⟩
  exact h peer hget hactive

theorem Rebuilt.denies {n : String} {entries : List LogEntry} {store : PeerTrustStore}
    (h : Rebuilt entries store) (hstamped : Stamped n entries)
    (hwithdrawn : Withdrawn n entries) : Denies n store := by
  intro peer hget hactive
  rcases h.known hget with ⟨view, hknown, hrecord⟩
  cases hknown with
  | since hlast hrevoked htimes _ =>
      rcases hwithdrawn.after hlast with ⟨e, he, hrevoke⟩
      have htext : forall t, view.revokedAt = some t -> t ≠ "" := by
        intro t ht
        rcases htimes t ht with ⟨e', he', hrevoke', hstamp⟩
        rw [← hstamp]
        exact hstamped e' he' hrevoke'
      exact hrevoked.mp ((hrecord.revokedAt htext).mp hactive) e he hrevoke

/-- What holds of a manager from a revocation on. -/
structure Banned (n : String) (s : TrustState) : Prop where
  withdrawn : Withdrawn n s.log.entries
  stamped : Stamped n s.log.entries
  denies : Denies n s.store

theorem Banned.logStep {n : String} {s s' : TrustState} {P : LogEntry -> Prop}
    (h : Banned n s) (hstep : LogStep s s' P)
    (hP : forall e, P e -> ¬ Adds n e ∧ e.timestamp ≠ "") : Banned n s' := by
  have hwithdrawn : Withdrawn n s'.log.entries := by
    rcases hstep.entries with hsame | ⟨e, he, hmore⟩
    · rw [hsame]
      exact h.withdrawn
    · rw [hmore]
      exact h.withdrawn.snoc (hP e he).left
  have hstamped : Stamped n s'.log.entries := by
    rcases hstep.entries with hsame | ⟨e, he, hmore⟩
    · rw [hsame]
      exact h.stamped
    · rw [hmore]
      exact forall_mem_snoc.mpr ⟨h.stamped, fun _ => (hP e he).right⟩
  refine ⟨hwithdrawn, hstamped, ?_⟩
  rcases hstep.store with hsame | hrebuilt
  · rw [hsame]
    exact h.denies
  · exact (rebuilt_of_ok hrebuilt).denies hstamped hwithdrawn

theorem Banned.mutation {n : String} {keys : Keyring} {env : Surroundings}
    {allowed : String -> List (String × Json) -> Prop} {s : TrustState}
    {result : TrustState × Answer Bool} (h : Banned n s)
    (hresult : Mutation keys env allowed s result)
    (hallowed : forall type data, allowed type data ->
      type ≠ OP_ADD_PEER ∨ Assoc.get? "node_id" data ≠ some (Json.str n)) :
    Banned n result.1 := by
  cases hresult with
  | quiet _ => exact h
  | @commits type data hcommit =>
      apply h.logStep (commit_step keys type data env s)
      intro e he
      rcases he with ⟨htype, hdata, hstamp⟩
      constructor
      · intro hadds
        rcases hallowed type data hcommit with hne | hne
        · exact hne (htype.symm.trans hadds.left)
        · rw [← hdata] at hne
          exact hne (names_iff.mp hadds.right)
      · rw [hstamp]
        exact isoformat_ne_empty env.now

/--
The operation is no new `add_peer` of the peer: the manager is not asked for one, and a
log read from disk holds none behind the revocation.
-/
def Spares (keys : Keyring) (pydantic : Pydantic) (n : String) (s : TrustState) :
    ManagerOp -> Prop
  | ManagerOp.addPeer nodeId _ _ _ => nodeId ≠ n
  | ManagerOp.reload file mtime after =>
      forall log, s.log.reloadIfChanged keys pydantic file mtime after =
          Except.ok (true, log) ->
        (forall e, e ∈ log.entries -> WellFormed e) ∧ Withdrawn n log.entries
  | _ => True

theorem addsPeer_other {n nodeId : String} {alias_ tags : Json} (hne : nodeId ≠ n)
    {type : String} {data : List (String × Json)}
    (h : AddsPeer nodeId alias_ tags type data) :
    type ≠ OP_ADD_PEER ∨ Assoc.get? "node_id" data ≠ some (Json.str n) := by
  right
  cases h with
  | plain _ =>
      intro hget
      cases hget
      exact hne rfl
  | tagged _ _ =>
      intro hget
      cases hget
      exact hne rfl

theorem SetsTags.type_ne {nodeId : String} {t : TrustState} {tags : List Json}
    {type : String} {data : List (String × Json)} (h : SetsTags nodeId t tags type data) :
    type ≠ OP_ADD_PEER := by
  cases h with
  | mk _ _ => decide

theorem Banned.reload {n : String} {keys : Keyring} {pydantic : Pydantic}
    {env : Surroundings} {s : TrustState} (h : Banned n s) (file : Option LogFile)
    (mtime after : Int)
    (hspares : Spares keys pydantic n s (ManagerOp.reload file mtime after)) :
    Banned n (reloadStore keys pydantic env file mtime after s).1 := by
  unfold reloadStore
  split
  · exact ⟨h.withdrawn, h.stamped, h.denies⟩
  · rename_i log hlog
    rw [reloadIfChanged_false hlog]
    exact ⟨h.withdrawn, h.stamped, h.denies⟩
  · rename_i log hlog
    rcases hspares log hlog with ⟨hwf, hwithdrawn⟩
    have hstamped := stamped_of_wellFormed hwf n
    rcases rebuildAndSave_store env { s with log := log, file := file } with
      ⟨hlogSame, _, hstore⟩
    refine ⟨?_, ?_, ?_⟩
    · rw [hlogSame]
      exact hwithdrawn
    · rw [hlogSame]
      exact hstamped
    · rcases hstore with hsame | hrebuilt
      · rw [hsame]
        exact h.denies
      · exact (rebuilt_of_ok hrebuilt).denies hstamped hwithdrawn

/-- The step lemma: no operation of the manager lifts a ban but a new `add_peer`. -/
theorem Banned.run {n : String} {keys : Keyring} {pydantic : Pydantic} {s : TrustState}
    (h : Banned n s) (env : Surroundings) (op : ManagerOp)
    (hspares : Spares keys pydantic n s op) :
    Banned n (op.run keys pydantic env s).1 := by
  have hran := op.ran keys pydantic env s
  generalize op.run keys pydantic env s = result at hran
  cases hran with
  | mutation hresult =>
      apply h.mutation hresult
      intro type data hwrites
      cases hwrites with
      | addPeer _ hadds => exact addsPeer_other hspares hadds
      | revokePeer _ => exact Or.inl (by decide)
      | updatePermissions _ => exact Or.inl (by decide)
      | setAlias _ => exact Or.inl (by decide)
      | setTags hsets => exact Or.inl hsets.type_ne
      | addTag hsets => exact Or.inl hsets.type_ne
      | removeTag hsets => exact Or.inl hsets.type_ne
      | setMaintenance _ => exact Or.inl (by decide)
      | clearMaintenance _ => exact Or.inl (by decide)
  | load =>
      rcases rebuildAndSave_store env s with ⟨hlog, _, hstore⟩
      have hstep : LogStep s (rebuildAndSave env s).1 (fun _ => False) := by
        constructor
        · rw [hlog]
          exact Or.inl rfl
        · rw [hlog]
          exact hstore
      exact h.logStep hstep (fun _ he => he.elim)
  | reload file mtime after => exact h.reload file mtime after hspares

/-- Every operation of a run is spared the peer, in the state it is taken in. -/
def SparesPeer (keys : Keyring) (pydantic : Pydantic) (n : String)
    (w : Option TrustState) (e : ManagerOp × Surroundings) : Prop :=
  forall s, s ∈ w -> Spares keys pydantic n s e.1

theorem banned_of_run {n : String} {keys : Keyring} {pydantic : Pydantic} {s : TrustState}
    (h : Banned n s) {past : List (Option TrustState)} {w : Option TrustState}
    (hrun : (managers keys pydantic s).Run (SparesPeer keys pydantic n) past w) :
    forall t, t ∈ w -> Banned n t :=
  managers_invariant (P := fun u e => Spares keys pydantic n u e.1) h
    (fun _ op env hu hspares _ => hu.run env op hspares) hrun

/-- A mutation that succeeded appended its entry and projected the log with it. -/
theorem commit_true {keys : Keyring} {type : String} {data : List (String × Json)}
    {env : Surroundings} {s s' : TrustState}
    (h : commit keys type data env s = (s', Answer.returned true)) :
    (exists e, (e.type = type ∧ e.data = data ∧ e.timestamp = isoformat env.now) ∧
      s'.log.entries = s.log.entries ++ [e]) ∧
    rebuildFromLog s'.log.entries = Except.ok s'.store := by
  unfold commit at h
  rcases s.log.append_cases keys type data env.now env.writing s.file with
    ⟨_, e, hcall⟩ | ⟨sign, _, _, hcall⟩
  · rw [hcall] at h
    cases h
  have hentries := persist_entries (s.log.nextEntry keys sign type data env.now) env.writing
    (s.log.remember (s.log.nextEntry keys sign type data env.now)) s.file
  rw [hcall] at h
  rcases hpersist : TrustLog.persist (s.log.nextEntry keys sign type data env.now)
    env.writing (s.log.remember (s.log.nextEntry keys sign type data env.now)) s.file with
    ⟨log, file, answer⟩
  rw [hpersist] at h hentries
  cases answer with
  | raised e => cases h
  | crashed => cases h
  | returned entry =>
      simp only [rebuildAndSave] at h
      cases hrebuild : rebuildFromLog log.entries with
      | error e =>
          rw [hrebuild] at h
          cases h
      | ok store =>
          rw [hrebuild] at h
          simp only [saveCache] at h
          cases hcache : env.cacheFault with
          | some e =>
              rw [hcache] at h
              cases h
          | none =>
              rw [hcache] at h
              cases h
              exact ⟨⟨_, ⟨rfl, rfl, rfl⟩, hentries⟩, hrebuild⟩

theorem banned_of_revokePeer {n : String} {keys : Keyring} {env : Surroundings}
    {s s' : TrustState} (hstamped : Stamped n s.log.entries)
    (h : revokePeer keys env n s = (s', Answer.returned true)) : Banned n s' := by
  unfold revokePeer at h
  split at h
  · cases h
  split at h
  · cases h
  rcases commit_true h with ⟨⟨e, ⟨htype, hdata, hstamp⟩, hentries⟩, hrebuild⟩
  have hrevokes : Revokes n e := by
    refine ⟨htype, names_iff.mpr ?_⟩
    rw [hdata]
    rfl
  have hwithdrawn : Withdrawn n s'.log.entries := by
    rw [hentries]
    exact withdrawn_revoke s.log.entries hrevokes
  have hstamped' : Stamped n s'.log.entries := by
    rw [hentries]
    refine forall_mem_snoc.mpr ⟨hstamped, ?_⟩
    intro _
    rw [hstamp]
    exact isoformat_ne_empty env.now
  exact ⟨hwithdrawn, hstamped', (rebuilt_of_ok hrebuild).denies hstamped' hwithdrawn⟩

/-!
## Authorization follows the log
-/

/-- The permissions in force are `monitor` and `view_dashboard` at most. -/
def OnlyWatches (n : String) (entries : List LogEntry) : Prop :=
  forall before add after (texts : List String), LastAdd n entries before add after ->
    effectivePermissions n add after = Json.arr (texts.map Json.str) ->
      forall t, t ∈ texts -> t = "monitor" ∨ t = "view_dashboard"

theorem OnlyWatches.no_shell {n : String} {entries : List LogEntry}
    (h : OnlyWatches n entries) : ¬ Authorized n "shell" entries := by
  intro hauth
  rcases hauth with ⟨before, add, after, hlast, _, texts, htexts, hgrant⟩
  have hwatch := h before add after texts hlast htexts
  rcases hgrant with hshell | hstar
  · rcases hwatch "shell" hshell with hmonitor | hview
    · exact absurd hmonitor (by decide)
    · exact absurd hview (by decide)
  · rcases hwatch "*" hstar with hmonitor | hview
    · exact absurd hmonitor (by decide)
    · exact absurd hview (by decide)

/--
The store rebuilt from a well-formed log authorizes exactly what the log does, and after
a revocation no run of the manager without a new `add_peer` authorizes the peer again.
-/
theorem authorization_follows_log (own : String) {entries : List LogEntry}
    (hwf : forall e, e ∈ entries -> WellFormed e) :
    (exists store, rebuildFromLog entries = Except.ok store ∧
      forall n protocol,
        (n ≠ own -> ((store.verifyAndAuthorize own n protocol).1 = true <->
          Authorized n protocol entries)) ∧
        ((exists peer, peer ∈ store.peersWithPermission protocol ∧ peer.nodeId = n) <->
          Authorized n protocol entries) ∧
        ((store.peersWithPermission protocol).map TrustedPeer.nodeId).count n <= 1 ∧
        (n ≠ own -> OnlyWatches n entries ->
          (store.verifyAndAuthorize own n "shell").1 = false)) ∧
    (forall keys pydantic env s s' n, s.log.entries = entries -> n ≠ own ->
      revokePeer keys env n s = (s', Answer.returned true) ->
        forall past w, (managers keys pydantic s').Run (SparesPeer keys pydantic n) past w ->
          forall t, t ∈ w -> forall protocol,
            (t.store.verifyAndAuthorize own n protocol).1 = false) := by
  constructor
  · rcases rebuildFromLog_ok hwf with ⟨store, hstore⟩
    have hrebuilt := rebuilt_of_ok hstore
    refine ⟨store, hstore, ?_⟩
    intro n protocol
    rcases hrebuilt.answers hwf n protocol with ⟨hanswer, hlisted⟩
    refine ⟨hanswer own, hlisted, hrebuilt.listed_once n protocol, ?_⟩
    intro hown hwatches
    rw [← Bool.not_eq_true, (hrebuilt.answers hwf n "shell").left own hown]
    exact hwatches.no_shell
  · intro keys pydantic env s s' n hentries hown hrevoke past w hrun t ht protocol
    have hstamped : Stamped n s.log.entries := by
      rw [hentries]
      exact stamped_of_wellFormed hwf n
    have hbanned := banned_of_revokePeer hstamped hrevoke
    exact (banned_of_run hbanned hrun t ht).denies.answer hown protocol

/-!
A peer that was added with `shell` may use it; once it is revoked, giving it an alias
does not help.
-/

def shellEntry : LogEntry where
  seq := 0
  type := OP_ADD_PEER
  data := addPeerData "peer" Json.null [Json.str "monitor", Json.str "shell"]
  timestamp := isoformat noon
  prevHash := ZERO_HASH
  sig := ""

def shellRecord : TrustedPeer where
  nodeId := "peer"
  alias_ := none
  permissions := ["monitor", "shell"]
  tags := []
  maintenanceStart := none
  maintenanceEnd := none
  addedAt := noon
  revokedAt := none

def shellState : TrustState where
  log := { TrustLog.new with entries := [shellEntry] }
  file := none
  store := PeerTrustStore.ofPeers [shellRecord]

def calm : Surroundings where
  now := noon
  writing := Writing.complete 1
  cacheFault := none

theorem wellFormed_shellEntry : WellFormed shellEntry := by
  constructor
  · intro _
    exact ⟨"peer", rfl⟩
  · intro _
    exact ⟨noon, fromisoformat_isoformat noon⟩
  · intro _
    exact Or.inl rfl
  · intro _ v hv
    cases hv
    exact ⟨["monitor", "shell"], rfl⟩
  · intro _ v hv
    cases hv
  · intro htype
    have hne : OP_ADD_PEER ≠ OP_SET_MAINTENANCE := by decide
    exact absurd htype hne

def afterRevoke : TrustState :=
  (revokePeer checksumKeys calm "peer" shellState).1

theorem authorization_follows_log_shell :
    (exists store, rebuildFromLog [shellEntry] = Except.ok store ∧
      (store.verifyAndAuthorize "self" "peer" "shell").1 = true) ∧
    exists t, t ∈ (managers checksumKeys strictPydantic afterRevoke).step (some afterRevoke)
        (ManagerOp.setAlias "peer" (Json.str "attic"), calm) ∧
      forall protocol, (t.store.verifyAndAuthorize "self" "peer" protocol).1 = false := by
  have hwf : forall e, e ∈ [shellEntry] -> WellFormed e := by
    intro e he
    rw [List.mem_singleton.mp he]
    exact wellFormed_shellEntry
  have hown : "peer" ≠ "self" := by decide
  rcases authorization_follows_log "self" hwf with ⟨⟨store, hstore, hanswers⟩, hrevoked⟩
  constructor
  · refine ⟨store, hstore, ((hanswers "peer" "shell").left hown).mpr ?_⟩
    refine ⟨[], shellEntry, [], ⟨rfl, ⟨rfl, rfl⟩, ?_⟩, ?_, ["monitor", "shell"], rfl, ?_⟩
    · intro e he
      cases he
    · intro e he
      cases he
    · decide
  · have hstart : (managers checksumKeys strictPydantic afterRevoke).Run
        (SparesPeer checksumKeys strictPydantic "peer") [] (some afterRevoke) :=
      Machine.Run.start rfl
    have hspares : SparesPeer checksumKeys strictPydantic "peer" (some afterRevoke)
        (ManagerOp.setAlias "peer" (Json.str "attic"), calm) := fun _ _ => trivial
    exact ⟨_, rfl, hrevoked checksumKeys strictPydantic calm shellState afterRevoke "peer" rfl
      hown rfl _ _ (Machine.Run.step _ hstart hspares) _ rfl⟩

end Trust
end PanicMonitr
