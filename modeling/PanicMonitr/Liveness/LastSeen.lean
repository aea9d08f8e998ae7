import PanicMonitr.Foundation.Machine
import PanicMonitr.Liveness.History

/-!
# Last seen

Probes and pushes of one peer that overlap.  A probe reads the clock before it dials and
takes the lock of the peer when the dial has ended; a push reads the clock with the lock
held.  So the lock orders the updates, and not their timestamps.
-/

namespace PanicMonitr
namespace Liveness

open Foundation
open Trust

/-!
## What an observation writes
-/

theorem count_lastSeen (peer : PeerState) (o : Observation) :
    (o.count peer).lastSeen =
      if o.succeeded then some o.record.timestamp else peer.lastSeen := by
  cases o with
  | push => rfl
  | probe _ _ _ outcome => cases outcome <;> rfl

theorem count_latencyHistory (peer : PeerState) (o : Observation) :
    (o.count peer).latencyHistory =
      pushBounded HISTORY_MAXLEN peer.latencyHistory o.record := by
  cases o with
  | push => rfl
  | probe _ _ _ outcome => cases outcome <;> rfl

section Made

variable (cfg : EngineConfig) (m : Monitored) {o : Observation} (hmade : o.Made)
include hmade

theorem observe_lastSeen :
    (observe cfg m o).peer.lastSeen =
      if o.succeeded then some o.record.timestamp else m.peer.lastSeen := by
  rw [observe_made cfg m hmade, maybeTransition_peer]
  exact count_lastSeen m.peer o

theorem observe_latencyHistory :
    (observe cfg m o).peer.latencyHistory =
      pushBounded HISTORY_MAXLEN m.peer.latencyHistory o.record := by
  rw [observe_made cfg m hmade, maybeTransition_peer]
  exact count_latencyHistory m.peer o

end Made

/-!
## Overlapping observations
-/

/--
The probes under way, each with what `get_peer` answered before its dial and the time it
read.  `clock` is the last reading of the clock and `seen` the timestamps of the successful
observations, in the order they were applied.
-/
structure Overlap where
  monitored : Monitored
  clock : Instant
  dials : List (Option TrustedPeer × Instant)
  seen : List Instant

inductive OverlapEvent where
  | dial (before : Option TrustedPeer) (now : Instant)
  | finish (i : Nat) (after : Option TrustedPeer) (outcome : ProbeOutcome)
  | push (trusted : Option TrustedPeer) (now : Instant)

namespace Overlap

def apply (cfg : EngineConfig) (o : Observation) (w : Overlap) : Overlap :=
  { w with
    monitored := observe cfg w.monitored o
    seen := if o.succeeded then w.seen ++ [o.record.timestamp] else w.seen }

/-- Up to the dial: in a maintenance window the probe is skipped. -/
def dial (before : Option TrustedPeer) (now : Instant) (w : Overlap) : Overlap :=
  { w with
    clock := now
    dials := if OutsideMaintenance before now then w.dials ++ [(before, now)] else w.dials }

def step (cfg : EngineConfig) (w : Overlap) : OverlapEvent -> Overlap
  | OverlapEvent.dial before now => w.dial before now
  | OverlapEvent.finish i after outcome =>
      match w.dials[i]? with
      | none => w
      | some (before, now) =>
          { w with dials := w.dials.eraseIdx i }.apply cfg
            (Observation.probe before after now outcome)
  | OverlapEvent.push trusted now =>
      { w with clock := now }.apply cfg (Observation.push trusted now)

end Overlap

structure SeenLaw (w : Overlap) : Prop where
  lastSeen : w.monitored.peer.lastSeen = w.seen.max?
  sorted : w.monitored.peer.latencyHistory.Pairwise (fun a b => a.timestamp <= b.timestamp)

/-- The law, with what the clock and the probes under way add to it. -/
structure Timed (w : Overlap) : Prop extends SeenLaw w where
  latest : forall t, t ∈ w.monitored.peer.lastSeen ->
    exists record, w.monitored.peer.latencyHistory.getLast? = some record ∧
      t <= record.timestamp
  clock : forall record, record ∈ w.monitored.peer.latencyHistory ->
    record.timestamp <= w.clock
  made : forall dialled, dialled ∈ w.dials ->
    OutsideMaintenance dialled.1 dialled.2 ∧ dialled.2 <= w.clock

/-- Runs from a peer as it is loaded, with no probe under way. -/
def overlapping (cfg : EngineConfig) : Machine Overlap OverlapEvent where
  start w := Timed w ∧ w.dials = []
  step := Overlap.step cfg

/-- The clock does not go back. -/
def Clocked (w : Overlap) : OverlapEvent -> Prop
  | OverlapEvent.dial _ now => w.clock <= now
  | OverlapEvent.push _ now => w.clock <= now
  | OverlapEvent.finish _ _ _ => True

instance (w : Overlap) (e : OverlapEvent) : Decidable (Clocked w e) :=
  match e with
  | OverlapEvent.dial _ now => inferInstanceAs (Decidable (w.clock <= now))
  | OverlapEvent.push _ now => inferInstanceAs (Decidable (w.clock <= now))
  | OverlapEvent.finish _ _ _ => isTrue trivial

/-- A probe that ends has read the clock no earlier than the observation applied last. -/
def InOrder (w : Overlap) : OverlapEvent -> Prop
  | OverlapEvent.finish i _ _ => forall dialled record, w.dials[i]? = some dialled ->
      w.monitored.peer.latencyHistory.getLast? = some record ->
        record.timestamp <= dialled.2
  | _ => True

/-!
## One observation
-/

theorem max?_snoc {xs : List Int} {x : Int} (h : forall y, y ∈ xs.max? -> y <= x) :
    (xs ++ [x]).max? = some x := by
  rw [List.max?_eq_some_iff]
  refine ⟨List.mem_append_right _ (List.mem_singleton_self x), ?_⟩
  intro y hy
  rcases List.mem_append.mp hy with hy | hy
  · cases hmax : xs.max? with
    | none =>
        rw [List.max?_eq_none_iff.mp hmax] at hy
        cases hy
    | some m => exact Int.le_trans ((List.max?_eq_some_iff.mp hmax).right y hy) (h m hmax)
  · exact Int.le_of_eq (List.mem_singleton.mp hy)

/-- The queue stays in time order exactly when its last record is not the later one. -/
theorem sorted_pushBounded {history : List LatencyRecord} {record : LatencyRecord}
    (hsorted : history.Pairwise (fun a b => a.timestamp <= b.timestamp)) :
    (pushBounded HISTORY_MAXLEN history record).Pairwise
        (fun a b => a.timestamp <= b.timestamp) <->
      forall last, history.getLast? = some last -> last.timestamp <= record.timestamp := by
  constructor
  · intro hpushed last hlast
    rcases List.getLast?_eq_some_iff.mp hlast with ⟨front, rfl⟩
    have hmaxlen : 2 <= HISTORY_MAXLEN := by decide
    rcases pushBounded_snoc hmaxlen front last record with
      ⟨front', heq⟩
    rw [heq] at hpushed
    have hpair := (List.pairwise_append.mp hpushed).right.left
    exact (List.pairwise_cons.mp hpair).left record (List.mem_singleton_self record)
  · intro hle
    apply List.Pairwise.sublist (pushBounded_suffix ..).sublist
    refine List.pairwise_append.mpr ⟨hsorted, List.pairwise_singleton _ _, ?_⟩
    intro older holder newer hnewer
    rw [List.mem_singleton.mp hnewer]
    rcases List.eq_nil_or_concat history with hnil | ⟨front, last, hsnoc⟩
    · rw [hnil] at holder
      cases holder
    · rw [hsnoc, List.concat_eq_append] at holder hsorted
      have hlast : history.getLast? = some last := by
        rw [hsnoc, List.concat_eq_append, List.getLast?_concat]
      rcases List.mem_append.mp holder with hfront | hend
      · exact Int.le_trans ((List.pairwise_append.mp hsorted).right.right older hfront last
          (List.mem_singleton_self last)) (hle last hlast)
      · rw [List.mem_singleton.mp hend]
        exact hle last hlast

/-- No record of the queue is later than this time. -/
def NotBefore (w : Overlap) (t : Instant) : Prop :=
  forall record, w.monitored.peer.latencyHistory.getLast? = some record ->
    record.timestamp <= t

section Apply

variable {cfg : EngineConfig} {w : Overlap} {o : Observation}

/-- An observation keeps the law exactly when its time is not before the last record's. -/
theorem seenLaw_apply (h : Timed w) (hmade : o.Made) :
    SeenLaw (w.apply cfg o) <-> NotBefore w o.record.timestamp := by
  have hhistory : (w.apply cfg o).monitored.peer.latencyHistory =
      pushBounded HISTORY_MAXLEN w.monitored.peer.latencyHistory o.record :=
    observe_latencyHistory cfg w.monitored hmade
  have hlastSeen : (w.apply cfg o).monitored.peer.lastSeen =
      if o.succeeded then some o.record.timestamp else w.monitored.peer.lastSeen :=
    observe_lastSeen cfg w.monitored hmade
  constructor
  · intro hlaw
    have hsorted := hlaw.sorted
    rw [hhistory] at hsorted
    exact (sorted_pushBounded h.sorted).mp hsorted
  · intro hnot
    constructor
    · rw [hlastSeen]
      unfold Overlap.apply
      simp only
      split
      · rw [max?_snoc]
        intro t ht
        rcases h.latest t (by rw [h.lastSeen]; exact ht) with ⟨record, hrecord, hle⟩
        exact Int.le_trans hle (hnot record hrecord)
      · exact h.lastSeen
    · rw [hhistory]
      exact (sorted_pushBounded h.sorted).mpr hnot

theorem Timed.apply (h : Timed w) (hmade : o.Made) (hnot : NotBefore w o.record.timestamp)
    (hclock : o.record.timestamp <= w.clock) : Timed (w.apply cfg o) := by
  have hlaw : SeenLaw (w.apply cfg o) := (seenLaw_apply h hmade).mpr hnot
  have hhistory : (w.apply cfg o).monitored.peer.latencyHistory =
      pushBounded HISTORY_MAXLEN w.monitored.peer.latencyHistory o.record :=
    observe_latencyHistory cfg w.monitored hmade
  have hlastSeen : (w.apply cfg o).monitored.peer.lastSeen =
      if o.succeeded then some o.record.timestamp else w.monitored.peer.lastSeen :=
    observe_lastSeen cfg w.monitored hmade
  refine { toSeenLaw := hlaw, latest := ?_, clock := ?_, made := h.made }
  · intro t ht
    have hend : (w.apply cfg o).monitored.peer.latencyHistory.getLast? = some o.record := by
      rw [hhistory]
      exact getLast?_pushBounded (by decide) ..
    refine ⟨o.record, hend, ?_⟩
    rw [hlastSeen] at ht
    split at ht
    · cases ht
      exact Int.le_refl _
    · rcases h.latest t ht with ⟨record, hrecord, hle⟩
      exact Int.le_trans hle (hnot record hrecord)
  · intro record hrecord
    rw [hhistory] at hrecord
    rcases List.mem_append.mp ((pushBounded_suffix ..).subset hrecord) with hold | hnew
    · exact h.clock record hold
    · rw [List.mem_singleton.mp hnew]
      exact hclock

end Apply

/-!
## Steps and runs
-/

section Steps

variable {cfg : EngineConfig} {w : Overlap}

theorem Timed.advance (h : Timed w) {now : Instant} (hle : w.clock <= now) :
    Timed { w with clock := now } := by
  refine { toSeenLaw := ⟨h.lastSeen, h.sorted⟩, latest := h.latest, clock := ?_, made := ?_ }
  · intro record hrecord
    exact Int.le_trans (h.clock record hrecord) hle
  · intro dialled hmem
    exact ⟨(h.made dialled hmem).left, Int.le_trans (h.made dialled hmem).right hle⟩

theorem Timed.eraseDial (h : Timed w) (i : Nat) :
    Timed { w with dials := w.dials.eraseIdx i } :=
  { toSeenLaw := ⟨h.lastSeen, h.sorted⟩
    latest := h.latest
    clock := h.clock
    made := fun dialled hmem => h.made dialled (List.mem_of_mem_eraseIdx hmem) }

theorem Timed.dial (h : Timed w) (before : Option TrustedPeer) {now : Instant}
    (hle : w.clock <= now) : Timed (w.dial before now) := by
  have hadvanced := h.advance hle
  refine { toSeenLaw := ⟨h.lastSeen, h.sorted⟩, latest := h.latest,
           clock := hadvanced.clock, made := ?_ }
  intro dialled hmem
  unfold Overlap.dial at hmem
  simp only at hmem
  split at hmem
  · rename_i houtside
    rcases List.mem_append.mp hmem with hold | hnew
    · exact hadvanced.made dialled hold
    · rw [List.mem_singleton.mp hnew]
      exact ⟨houtside, Int.le_refl now⟩
  · exact hadvanced.made dialled hmem

theorem step_finish_none {i : Nat} (hdial : w.dials[i]? = none) (after : Option TrustedPeer)
    (outcome : ProbeOutcome) : w.step cfg (OverlapEvent.finish i after outcome) = w := by
  simp only [Overlap.step, hdial]

theorem step_finish_some {i : Nat} {before : Option TrustedPeer} {now : Instant}
    (hdial : w.dials[i]? = some (before, now)) (after : Option TrustedPeer)
    (outcome : ProbeOutcome) :
    w.step cfg (OverlapEvent.finish i after outcome) =
      { w with dials := w.dials.eraseIdx i }.apply cfg
        (Observation.probe before after now outcome) := by
  simp only [Overlap.step, hdial]

theorem notBefore_clock (h : Timed w) : NotBefore w w.clock := by
  intro record hrecord
  exact h.clock record (List.mem_of_getLast? hrecord)

theorem Timed.step (h : Timed w) {e : OverlapEvent} (hclocked : Clocked w e)
    (hinorder : InOrder w e) : Timed (w.step cfg e) := by
  cases e with
  | dial before now => exact h.dial before hclocked
  | push trusted now =>
      have hadvanced := h.advance hclocked
      exact hadvanced.apply (o := Observation.push trusted now) trivial
        (notBefore_clock hadvanced) (Int.le_refl now)
  | finish i after outcome =>
      cases hdial : w.dials[i]? with
      | none =>
          rw [step_finish_none hdial]
          exact h
      | some dialled =>
          rcases dialled with ⟨before, now⟩
          rw [step_finish_some hdial]
          rcases h.made (before, now) (List.mem_of_getElem? hdial) with ⟨houtside, hle⟩
          apply (h.eraseDial i).apply (o := Observation.probe before after now outcome) houtside
          · intro record hrecord
            rw [Observation.record, probeRecord_timestamp]
            exact hinorder (before, now) record hdial hrecord
          · rw [Observation.record, probeRecord_timestamp]
            exact hle

theorem seenLaw_step (h : Timed w) {e : OverlapEvent} (hclocked : Clocked w e) :
    SeenLaw (w.step cfg e) <-> InOrder w e := by
  constructor
  · intro hlaw
    cases e with
    | dial before now => exact trivial
    | push trusted now => exact trivial
    | finish i after outcome =>
        intro dialled record hdial hrecord
        rcases dialled with ⟨before, now⟩
        rw [step_finish_some hdial] at hlaw
        have houtside := (h.made (before, now) (List.mem_of_getElem? hdial)).left
        have hnot := (seenLaw_apply (o := Observation.probe before after now outcome)
          (h.eraseDial i) houtside).mp hlaw
        rw [Observation.record, probeRecord_timestamp] at hnot
        exact hnot record hrecord
  · intro hinorder
    exact (h.step hclocked hinorder).toSeenLaw

theorem seen_apply (o : Observation) : w.seen <+: (w.apply cfg o).seen := by
  unfold Overlap.apply
  simp only
  split
  · exact List.prefix_append ..
  · exact List.prefix_refl _

theorem seen_step (e : OverlapEvent) : w.seen <+: (w.step cfg e).seen := by
  cases e with
  | dial before now => exact List.prefix_refl _
  | push trusted now => exact seen_apply (w := { w with clock := now }) _
  | finish i after outcome =>
      cases hdial : w.dials[i]? with
      | none =>
          rw [step_finish_none hdial]
      | some dialled =>
          rcases dialled with ⟨before, now⟩
          rw [step_finish_some hdial]
          exact seen_apply (w := { w with dials := w.dials.eraseIdx i }) _

/-- The time a peer was last seen is no earlier than it was in a state before. -/
def NoEarlier (w' w : Overlap) : Prop :=
  forall t, t ∈ w'.monitored.peer.lastSeen ->
    exists t', t' ∈ w.monitored.peer.lastSeen ∧ t <= t'

theorem noEarlier_of_prefix {w' : Overlap} (h' : SeenLaw w') (h : SeenLaw w)
    (hseen : w'.seen <+: w.seen) : NoEarlier w' w := by
  intro t ht
  rw [h'.lastSeen] at ht
  have hmem : t ∈ w.seen := hseen.subset (List.max?_eq_some_iff.mp ht).left
  rw [h.lastSeen]
  cases hmax : w.seen.max? with
  | none =>
      rw [List.max?_eq_none_iff.mp hmax] at hmem
      cases hmem
  | some m => exact ⟨m, rfl, (List.max?_eq_some_iff.mp hmax).right t hmem⟩

/--
In every run whose probes end in the order of their times the law holds, the time a peer
was last seen never decreases, and the next step keeps the law exactly when it meets the
condition.
-/
theorem last_seen_monotone {past : List Overlap}
    (hrun : (overlapping cfg).Run (fun w e => Clocked w e ∧ InOrder w e) past w) :
    SeenLaw w ∧ (forall w', w' ∈ past -> NoEarlier w' w) ∧
      forall e, Clocked w e -> (SeenLaw (w.step cfg e) <-> InOrder w e) := by
  have hinvariant : Timed w ∧ forall w', w' ∈ past -> SeenLaw w' ∧ w'.seen <+: w.seen := by
    apply hrun.invariant_past (I := fun past w => Timed w ∧
      forall w', w' ∈ past -> SeenLaw w' ∧ w'.seen <+: w.seen)
    · intro w hstart
      exact ⟨hstart.left, fun w' hw' => by cases hw'⟩
    · intro past w e hinv hguard
      refine ⟨hinv.left.step hguard.left hguard.right, ?_⟩
      intro w' hw'
      rcases List.mem_cons.mp hw' with rfl | hw'
      · exact ⟨hinv.left.toSeenLaw, seen_step e⟩
      · rcases hinv.right w' hw' with ⟨hlaw, hseen⟩
        exact ⟨hlaw, hseen.trans (seen_step e)⟩
  rcases hinvariant with ⟨htimed, hpast⟩
  refine ⟨htimed.toSeenLaw, ?_, fun e => seenLaw_step htimed⟩
  intro w' hw'
  exact noEarlier_of_prefix (hpast w' hw').left htimed.toSeenLaw (hpast w' hw').right

end Steps

/-!
## Peers as they are loaded
-/

/-- A peer taken over from the rows of the history store, with nothing under way. -/
def Overlap.loaded (cfg : EngineConfig) (rows : List ProbeRow) (entry : PeerEntry)
    (lastAlertFired : List (String × Instant)) (clock : Instant) : Overlap where
  monitored :=
    { peer := loadDevice cfg (some rows) entry
      lastAlertFired := lastAlertFired
      effects := [] }
  clock := clock
  dials := []
  seen := (rows.filter (fun row => decide (row.status = PeerStatus.alive))).map
    (fun row => fromEpoch row.ts)

theorem foldl_remember_history (rows : List ProbeRow) (state : PeerState) :
    (rows.foldl (fun st row => st.remember (recordOf row)) state).latencyHistory =
      (rows.map recordOf).foldl (pushBounded HISTORY_MAXLEN) state.latencyHistory := by
  induction rows generalizing state with
  | nil => rfl
  | cons row rows ih => exact ih (state.remember (recordOf row))

theorem foldl_remember_lastSeen (rows : List ProbeRow) (state : PeerState) :
    (rows.foldl (fun st row => st.remember (recordOf row)) state).lastSeen =
      state.lastSeen := by
  induction rows generalizing state with
  | nil => rfl
  | cons row rows ih => exact ih (state.remember (recordOf row))

theorem loadDevice_latencyHistory (cfg : EngineConfig) (rows : List ProbeRow)
    (entry : PeerEntry) :
    (loadDevice cfg (some rows) entry).latencyHistory =
      (rows.map recordOf).rtake HISTORY_MAXLEN := by
  have htail : ((rows.drop (rows.length - HISTORY_MAXLEN)).foldl
      (fun st row => st.remember (recordOf row)) (PeerState.init entry)).latencyHistory =
      (rows.map recordOf).rtake HISTORY_MAXLEN := by
    have hpush := foldl_pushBounded HISTORY_MAXLEN []
      ((rows.drop (rows.length - HISTORY_MAXLEN)).map recordOf)
    rw [List.rtake_nil, List.nil_append] at hpush
    have hinit : (PeerState.init entry).latencyHistory = [] := rfl
    rw [foldl_remember_history, hinit, hpush]
    unfold List.rtake
    have hshort : forall n k : Nat, n - k + (n - (n - k) - k) = n - k := by
      intro n k
      omega
    rw [List.map_drop, List.drop_drop, List.length_drop, List.length_map, hshort]
  unfold loadDevice hydrateStateFromHistory
  cases hlast : rows.getLast? with
  | none =>
      rw [List.getLast?_eq_none_iff.mp hlast]
      rfl
  | some last =>
      cases hseen : rows.reverse.find? (fun row => decide (row.status = PeerStatus.alive)) with
      | none =>
          simp only [hlast, hseen]
          split <;> exact htail
      | some row =>
          simp only [hlast, hseen]
          split <;> exact htail

theorem loadDevice_lastSeen (cfg : EngineConfig) (rows : List ProbeRow) (entry : PeerEntry) :
    (loadDevice cfg (some rows) entry).lastSeen =
      (rows.filter (fun row => decide (row.status = PeerStatus.alive))).getLast?.map
        (fun row => fromEpoch row.ts) := by
  have hfind : rows.reverse.find? (fun row => decide (row.status = PeerStatus.alive)) =
      (rows.filter (fun row => decide (row.status = PeerStatus.alive))).getLast? := by
    rw [← List.head?_filter, List.filter_reverse, List.head?_reverse]
  unfold loadDevice hydrateStateFromHistory
  cases hlast : rows.getLast? with
  | none =>
      rw [List.getLast?_eq_none_iff.mp hlast]
      rfl
  | some last =>
      rw [← hfind]
      cases hseen : rows.reverse.find? (fun row => decide (row.status = PeerStatus.alive)) with
      | none =>
          simp only [hlast, hseen]
          split <;> exact foldl_remember_lastSeen _ _
      | some row =>
          simp only [hlast, hseen]
          split <;> rfl

theorem max?_of_sorted {xs : List Int} (h : xs.Pairwise (fun a b => a <= b)) :
    xs.max? = xs.getLast? := by
  rcases List.eq_nil_or_concat xs with hnil | ⟨front, last, hsnoc⟩
  · rw [hnil]
    rfl
  · rw [hsnoc, List.concat_eq_append] at h ⊢
    rw [List.getLast?_concat]
    apply max?_snoc
    intro y hy
    exact (List.pairwise_append.mp h).right.right y (List.max?_eq_some_iff.mp hy).left last
      (List.mem_singleton_self last)

theorem fromEpoch_mono {s t : Int} (h : s <= t) : fromEpoch s <= fromEpoch t := by
  exact Int.mul_le_mul_of_nonneg_right h (by decide)

theorem timed_loaded (cfg : EngineConfig) {rows : List ProbeRow} (entry : PeerEntry)
    (lastAlertFired : List (String × Instant)) {clock : Instant}
    (hsorted : rows.Pairwise (fun a b => a.ts <= b.ts))
    (hclock : forall row, row ∈ rows -> fromEpoch row.ts <= clock) :
    Timed (Overlap.loaded cfg rows entry lastAlertFired clock) := by
  have hlastSeen := loadDevice_lastSeen cfg rows entry
  have hhistory := loadDevice_latencyHistory cfg rows entry
  have hmem : forall record, record ∈ (rows.map recordOf).rtake HISTORY_MAXLEN ->
      record ∈ rows.map recordOf := fun _ h => List.mem_of_mem_drop h
  refine { lastSeen := ?_, sorted := ?_, latest := ?_, clock := ?_, made := ?_ }
  · refine hlastSeen.trans ?_
    show _ = List.max? (List.map _ _)
    rw [max?_of_sorted, List.getLast?_map]
    apply List.pairwise_map.mpr
    exact (hsorted.filter _).imp fromEpoch_mono
  · show (loadDevice cfg (some rows) entry).latencyHistory.Pairwise _
    rw [hhistory]
    apply List.Pairwise.sublist (List.drop_sublist ..)
    apply List.pairwise_map.mpr
    exact hsorted.imp fromEpoch_mono
  · intro t ht
    have ht' : t ∈ (loadDevice cfg (some rows) entry).lastSeen := ht
    rw [hlastSeen] at ht'
    rcases Option.map_eq_some_iff.mp ht' with ⟨row, hrow, rfl⟩
    have hrow' := List.mem_of_mem_filter (List.mem_of_getLast? hrow)
    rcases List.eq_nil_or_concat rows with hnil | ⟨front, last, hsnoc⟩
    · rw [hnil] at hrow'
      cases hrow'
    · refine ⟨recordOf last, ?_, ?_⟩
      · show (loadDevice cfg (some rows) entry).latencyHistory.getLast? = _
        rw [hhistory]
        unfold List.rtake
        rw [hsnoc, List.concat_eq_append, List.map_append, List.map_singleton,
          List.drop_append_of_le_length (by
            rw [List.length_append, List.length_singleton]
            exact Nat.sub_le_of_le_add (Nat.add_le_add_left (by decide) _)),
          List.getLast?_concat]
      · apply fromEpoch_mono
        rw [hsnoc, List.concat_eq_append] at hrow' hsorted
        rcases List.mem_append.mp hrow' with hfront | hend
        · exact (List.pairwise_append.mp hsorted).right.right row hfront last
            (List.mem_singleton_self last)
        · rw [List.mem_singleton.mp hend]
  · intro record hrecord
    have hrecord' : record ∈ (loadDevice cfg (some rows) entry).latencyHistory := hrecord
    rw [hhistory] at hrecord'
    rcases List.mem_map.mp (hmem record hrecord') with ⟨row, hrow, rfl⟩
    exact hclock row hrow
  · intro dialled hdialled
    cases hdialled

/-!
## A push during a dial
-/

def seenCfg : EngineConfig :=
  EngineConfig.make "n" 3 2 0

def unseen : Overlap :=
  Overlap.loaded seenCfg [] { nodeId := "p", alias_ := none } [] 0

theorem timed_unseen : Timed unseen :=
  timed_loaded seenCfg _ _ List.Pairwise.nil (fun row hrow => by cases hrow)

def probeThenPush : List OverlapEvent :=
  [OverlapEvent.dial none 0, OverlapEvent.finish 0 none (ProbeOutcome.reply 1000),
    OverlapEvent.push none 5]

theorem last_seen_monotone_probed :
    SeenLaw ((overlapping seenCfg).exec unseen probeThenPush) ∧
      SeenLaw (((overlapping seenCfg).exec unseen probeThenPush).step seenCfg
        (OverlapEvent.push none 7)) := by
  have hstart : (overlapping seenCfg).Run (fun w e => Clocked w e ∧ InOrder w e) [] unseen :=
    Machine.Run.start ⟨timed_unseen, rfl⟩
  have hempty : forall record, ((overlapping seenCfg).step unseen
      (OverlapEvent.dial none 0)).monitored.peer.latencyHistory.getLast? ≠ some record :=
    fun record hrecord => by cases hrecord
  have hrun := hstart.exec probeThenPush
    ⟨⟨by decide, trivial⟩, ⟨trivial, fun _ record _ hrecord => absurd hrecord (hempty record)⟩,
      ⟨by decide, trivial⟩, trivial⟩
  have hlaw := last_seen_monotone hrun
  exact ⟨hlaw.left, (hlaw.right.right (OverlapEvent.push none 7) (by decide)).mpr trivial⟩

/-- The push arrives while the probe dials; then the probe puts its earlier time back. -/
def pushDuringProbe : List OverlapEvent :=
  [OverlapEvent.dial none 0, OverlapEvent.push none 5,
    OverlapEvent.finish 0 none (ProbeOutcome.reply 1000)]

theorem last_seen_goes_back :
    ¬ forall past w, (overlapping seenCfg).Run Clocked past w ->
      SeenLaw w ∧ forall w', w' ∈ past -> NoEarlier w' w := by
  intro hall
  have hstart : (overlapping seenCfg).Run Clocked [] unseen :=
    Machine.Run.start ⟨timed_unseen, rfl⟩
  have hrun := hstart.exec pushDuringProbe ⟨by decide, by decide, trivial, trivial⟩
  have hlaw := (hall _ _ hrun).left
  have hback : ((overlapping seenCfg).exec unseen pushDuringProbe).monitored.peer.lastSeen =
      some 0 := by decide
  have hseen : ((overlapping seenCfg).exec unseen pushDuringProbe).seen = [5, 0] := by decide
  have hmax := hlaw.lastSeen
  rw [hback, hseen] at hmax
  revert hmax
  decide

end Liveness
end PanicMonitr
