import PanicMonitr.Trust.Entries

/-!
# Maintenance bounds

The bounds of a window are written into the log as texts and read again at every rebuild.
Comparing one without a UTC offset with the clock raises, so that windows answer exactly when
all entries of the log carry offsets; one condition on entries is taken through the replay to
the records.
-/

namespace PanicMonitr
namespace Trust

open Foundation

/-!
## Bounds with an offset
-/

def AwareText (v : Json) : Prop :=
  forall d, readWhenSet v = Except.ok (some d) -> d.isAware = true

def AwareEntry (entry : LogEntry) : Prop :=
  entry.type = OP_SET_MAINTENANCE ->
    AwareText (entry.getD "start" Json.null) ∧ AwareText (entry.getD "end" Json.null)

def AwareView (view : PeerView) : Prop :=
  AwareText view.maintenanceStart ∧ AwareText view.maintenanceEnd

structure AwarePeer (peer : TrustedPeer) : Prop where
  start : forall d, peer.maintenanceStart = some d -> d.isAware = true
  end_ : forall d, peer.maintenanceEnd = some d -> d.isAware = true

theorem awareText_null : AwareText Json.null := by
  intro d h
  cases h

theorem awareText_isoformat {d : Datetime} (h : d.isAware = true) :
    AwareText (Json.str (isoformat d)) := by
  intro d' hread
  have htruthy : truthy (Json.str (isoformat d)) = true :=
    decide_eq_true (isoformat_ne_empty d)
  rw [readWhenSet, if_pos htruthy, readIso, fromisoformat_isoformat] at hread
  cases hread
  exact h

/-!
## From entries to records
-/

theorem awareView_change {entry : LogEntry} (h : AwareEntry entry)
    {change : PeerView -> Except PyError PeerView} (hchange : viewChange entry = some change)
    {v v' : PeerView} (hv : AwareView v) (hv' : change v = Except.ok v') : AwareView v' := by
  cases viewChange_step hchange hv' with
  | revoked _ _ => exact hv
  | revokedBefore _ _ => exact hv
  | permissions _ _ => exact hv
  | alias_ _ => exact hv
  | tags _ _ => exact hv
  | window htype => exact h htype
  | cleared _ => exact ⟨awareText_null, awareText_null⟩

theorem establishes_awareView {entry : LogEntry} (h : AwareEntry entry) :
    Establishes AwareView entry where
  add _ _ _ := ⟨awareText_null, awareText_null⟩
  change _ hchange _ _ hv hv' := awareView_change h hchange hv hv'

theorem awarePeer_of_rebuild {entries : List LogEntry} {store : PeerTrustStore}
    (h : rebuildFromLog entries = Except.ok store)
    (haware : forall e, e ∈ entries -> AwareEntry e) {peer : TrustedPeer}
    (hin : peer ∈ store.peers) : AwarePeer peer := by
  rcases rebuilt_source h (fun e he => establishes_awareView (haware e he)) hin with
    ⟨key, view, hview, hread⟩
  constructor
  · intro d hd
    have hstart := hread.maintenanceStart
    rw [hd] at hstart
    exact hview.left d hstart
  · intro d hd
    have hend := hread.maintenanceEnd
    rw [hd] at hend
    exact hview.right d hend

/-!
## Windows that answer
-/

theorem instant?_of_aware {d : Datetime} (h : d.isAware = true) :
    exists t, d.instant? = some t := by
  unfold Datetime.isAware at h
  rw [Datetime.instant?]
  cases hoff : d.utcoffset with
  | none =>
      rw [hoff] at h
      cases h
  | some off => exact ⟨d.localMicros - off, rfl⟩

theorem AwarePeer.answers {peer : TrustedPeer} (h : AwarePeer peer) (now : Instant) :
    exists b, peer.inMaintenance now = some b := by
  unfold TrustedPeer.inMaintenance
  cases hs : peer.maintenanceStart with
  | none => exact ⟨false, rfl⟩
  | some s =>
      cases he : peer.maintenanceEnd with
      | none => exact ⟨false, rfl⟩
      | some e =>
          rcases instant?_of_aware (h.start s hs) with ⟨from_, hfrom⟩
          rcases instant?_of_aware (h.end_ e he) with ⟨until_, huntil⟩
          simp only [hfrom, huntil]
          by_cases hopen : from_ <= now
          · rw [if_pos hopen]
            exact ⟨_, rfl⟩
          · rw [if_neg hopen]
            exact ⟨false, rfl⟩

/-- A window answers at every time exactly when both of its ends carry an offset. -/
theorem answers_iff {peer : TrustedPeer} {s e : Datetime} (hs : peer.maintenanceStart = some s)
    (he : peer.maintenanceEnd = some e) :
    (forall now, exists b, peer.inMaintenance now = some b) <-> AwarePeer peer := by
  refine ⟨?_, fun h now => h.answers now⟩
  intro h
  have hstart : s.isAware = true := by
    rcases h 0 with ⟨b, hb⟩
    rw [TrustedPeer.inMaintenance, hs, he] at hb
    unfold Datetime.isAware
    cases hoff : s.utcoffset with
    | some off => rfl
    | none =>
        have hnone : s.instant? = none := by
          rw [Datetime.instant?, hoff]
          rfl
        simp only [hnone] at hb
        cases hb
  rcases instant?_of_aware hstart with ⟨from_, hfrom⟩
  have hend : e.isAware = true := by
    -- at the start of the window the end is compared as well
    rcases h from_ with ⟨b, hb⟩
    rw [TrustedPeer.inMaintenance, hs, he] at hb
    simp only [hfrom] at hb
    rw [if_pos (Int.le_refl from_)] at hb
    unfold Datetime.isAware
    cases hoff : e.utcoffset with
    | some off => rfl
    | none =>
        have hnone : e.instant? = none := by
          rw [Datetime.instant?, hoff]
          rfl
        rw [hnone] at hb
        cases hb
  constructor
  · intro d hd
    rw [hs] at hd
    rw [← Option.some.inj hd]
    exact hstart
  · intro d hd
    rw [he] at hd
    rw [← Option.some.inj hd]
    exact hend

/-- `peers_in_maintenance(now)`; `none` when a comparison raises. -/
def peersInMaintenance (now : Instant) : List TrustedPeer -> Option (List TrustedPeer)
  | [] => some []
  | peer :: peers =>
      match peer.inMaintenance now with
      | none => none
      | some inside =>
          (peersInMaintenance now peers).map (fun rest => if inside then peer :: rest else rest)

theorem peersInMaintenance_answers {peers : List TrustedPeer}
    (h : forall peer, peer ∈ peers -> AwarePeer peer) (now : Instant) :
    exists inside, peersInMaintenance now peers = some inside := by
  induction peers with
  | nil => exact ⟨[], rfl⟩
  | cons peer peers ih =>
      rcases (h peer List.mem_cons_self).answers now with ⟨b, hb⟩
      rcases ih (fun p hp => h p (List.mem_cons_of_mem peer hp)) with ⟨rest, hrest⟩
      rw [peersInMaintenance, hb, hrest]
      exact ⟨_, rfl⟩

/-!
## The manager
-/

/-- The log and the store of a manager have aware windows only. -/
structure AwareState (s : TrustState) : Prop where
  entries : forall e, e ∈ s.log.entries -> AwareEntry e
  peers : forall peer, peer ∈ s.store.peers -> AwarePeer peer
  found : forall n peer, s.store.getPeer n = some peer -> AwarePeer peer

theorem AwareState.rebuilt {s' : TrustState}
    (hentries : forall e, e ∈ s'.log.entries -> AwareEntry e)
    (hstore : rebuildFromLog s'.log.entries = Except.ok s'.store) : AwareState s' where
  entries := hentries
  peers _ hin := awarePeer_of_rebuild hstore hentries hin
  found n peer hget :=
    awarePeer_of_rebuild hstore hentries (((rebuilt_of_ok hstore).lookup n peer).mp hget).left

/-- A step that appends at most an aware entry, and at most rebuilds the store. -/
theorem AwareState.step {s t : TrustState} {allowed : LogEntry -> Prop} (h : AwareState s)
    (hstep : LogStep s t allowed) (hallowed : forall e, allowed e -> AwareEntry e) :
    AwareState t := by
  have hentries : forall e, e ∈ t.log.entries -> AwareEntry e := by
    intro e he
    rcases hstep.entries with hsame | ⟨entry, hentry, hmore⟩
    · rw [hsame] at he
      exact h.entries e he
    · rw [hmore] at he
      rcases List.mem_append.mp he with hold | hnew
      · exact h.entries e hold
      · rw [List.mem_singleton.mp hnew]
        exact hallowed entry hentry
  rcases hstep.store with hsame | hrebuilt
  · constructor
    · exact hentries
    · rw [hsame]
      exact h.peers
    · rw [hsame]
      exact h.found
  · exact AwareState.rebuilt hentries hrebuilt

/-- Committing an entry of another operation, or a window with offsets. -/
inductive AwareData : String -> List (String × Json) -> Prop where
  | other {type : String} {data : List (String × Json)} :
      type ≠ OP_SET_MAINTENANCE -> AwareData type data
  | window {nodeId : String} {start until_ : Datetime} : start.isAware = true ->
      until_.isAware = true -> AwareData OP_SET_MAINTENANCE
        [("node_id", Json.str nodeId), ("start", Json.str (isoformat start)),
          ("end", Json.str (isoformat until_))]

theorem AwareData.entry {entry : LogEntry} (h : AwareData entry.type entry.data) :
    AwareEntry entry := by
  intro htype
  rw [LogEntry.getD, LogEntry.getD]
  generalize hdata : entry.data = data at h
  generalize entry.type = type at h htype
  cases h with
  | other hother => exact absurd htype hother
  | window hstart hend => exact ⟨awareText_isoformat hstart, awareText_isoformat hend⟩

theorem AwareState.commit {keys : Keyring} {env : Surroundings} {s : TrustState}
    (h : AwareState s) {type : String} {data : List (String × Json)}
    (hdata : AwareData type data) : AwareState (commit keys type data env s).1 := by
  apply h.step (commit_step keys type data env s)
  intro e he
  rcases he with ⟨htype, hsame, _⟩
  apply AwareData.entry
  rw [htype, hsame]
  exact hdata

def AwareFile (keys : Keyring) (pydantic : Pydantic) (file : Option LogFile) : Prop :=
  forall f entries, file = some f -> readVerifiedEntries keys pydantic f = Except.ok entries ->
    forall e, e ∈ entries -> AwareEntry e

end Trust
end PanicMonitr
