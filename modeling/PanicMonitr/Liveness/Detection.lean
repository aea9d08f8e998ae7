import PanicMonitr.Liveness.Heartbeats

/-!
# How soon an outage is noticed

A device that falls silent fails in every cycle from then on, and the cycles follow one another
within a bounded time; a device that was heard a short while ago cannot have failed often enough.
-/

namespace PanicMonitr
namespace Liveness

open Foundation
open Trust

/-!
## Counters and status
-/

/-- The observations of one kind in a row. -/
def tally (ok : Bool) (peer : PeerState) : Nat :=
  if ok then peer.consecutiveSuccesses else peer.consecutiveFailures

/-- The status has followed the counters. -/
structure Consistent (cfg : EngineConfig) (peer : PeerState) : Prop where
  alive : peer.currentStatus = PeerStatus.alive -> peer.consecutiveFailures < cfg.downAfter
  dead : peer.currentStatus = PeerStatus.dead -> peer.consecutiveSuccesses < cfg.upAfter
  unknown : peer.currentStatus = PeerStatus.unknown -> peer.consecutiveSuccesses = 0
  known : peer.currentStatus ≠ PeerStatus.unreachable

section Status

variable (cfg : EngineConfig) (o : Observation) (peer : PeerState)

open HeartbeatJob (observed)

theorem tally_observed (ok : Bool) :
    tally ok (observed cfg o peer) = if o.succeeded = ok then tally ok peer + 1 else 0 := by
  cases ok with
  | true => exact count_successes peer o
  | false =>
      have hcount := count_failures peer o
      cases hsucceeded : o.succeeded with
      | true =>
          rw [hsucceeded] at hcount
          exact hcount
      | false =>
          rw [hsucceeded] at hcount
          exact hcount

theorem failures_observed : (observed cfg o peer).consecutiveFailures =
    if o.succeeded then 0 else peer.consecutiveFailures + 1 :=
  count_failures peer o

theorem status_observed : (observed cfg o peer).currentStatus =
    statusAfter cfg peer.currentStatus (observed cfg o peer).consecutiveFailures
      (observed cfg o peer).consecutiveSuccesses o.succeeded := by
  show nextStatus cfg (o.count peer) o.record = _
  rw [nextStatus_eq, count_status]
  rfl

variable {cfg o peer}

/-- A device is only given up by a failure, and only after enough of them. -/
theorem dead_observed (h : (observed cfg o peer).currentStatus = PeerStatus.dead) :
    peer.currentStatus = PeerStatus.dead ∨
      o.succeeded = false ∧ cfg.downAfter <= (observed cfg o peer).consecutiveFailures := by
  rw [status_observed] at h
  unfold statusAfter at h
  split at h
  · split at h
    · cases h
    · exact Or.inl h
  · rename_i hfailed
    split at h
    · rename_i hdown
      exact Or.inr ⟨Bool.eq_false_iff.mpr hfailed, hdown.right⟩
    · exact Or.inl h

theorem Consistent.observed (h : Consistent cfg peer) :
    Consistent cfg (HeartbeatJob.observed cfg o peer) := by
  have hstatus := status_observed cfg o peer
  have hfailures := failures_observed cfg o peer
  have hsuccesses : (HeartbeatJob.observed cfg o peer).consecutiveSuccesses =
      if o.succeeded then peer.consecutiveSuccesses + 1 else 0 := count_successes peer o
  unfold statusAfter at hstatus
  cases hsucceeded : o.succeeded with
  | true =>
      rw [hsucceeded, if_pos rfl] at hstatus hfailures hsuccesses
      split at hstatus
      · constructor
        · intro _
          rw [hfailures]
          exact cfg.hdown
        · exact fun hdead => by rw [hstatus] at hdead; cases hdead
        · exact fun hunknown => by rw [hstatus] at hunknown; cases hunknown
        · exact fun hunreachable => by rw [hstatus] at hunreachable; cases hunreachable
      · rename_i hstays
        constructor
        · intro _
          rw [hfailures]
          exact cfg.hdown
        · exact fun _ => Nat.lt_of_not_le (fun hup => hstays (Or.inr hup))
        · exact fun hunknown => absurd (Or.inl (hstatus.symm.trans hunknown)) hstays
        · rw [hstatus]
          exact h.known
  | false =>
      rw [hsucceeded, if_neg Bool.false_ne_true] at hstatus hfailures hsuccesses
      have hzero : (HeartbeatJob.observed cfg o peer).consecutiveSuccesses < cfg.upAfter := by
        rw [hsuccesses]
        exact cfg.hup
      split at hstatus
      · constructor
        · exact fun halive => by rw [hstatus] at halive; cases halive
        · exact fun _ => hzero
        · exact fun hunknown => by rw [hstatus] at hunknown; cases hunknown
        · exact fun hunreachable => by rw [hstatus] at hunreachable; cases hunreachable
      · rename_i hstays
        constructor
        · exact fun halive => Nat.lt_of_not_le
            (fun hdown => hstays ⟨hstatus.symm.trans halive, hdown⟩)
        · exact fun _ => hzero
        · exact fun _ => hsuccesses
        · rw [hstatus]
          exact h.known

theorem consistent_init (entry : PeerEntry) : Consistent cfg (PeerState.init entry) := by
  constructor
  · exact fun h => by cases h
  · exact fun h => by cases h
  · exact fun _ => rfl
  · exact fun h => by cases h

theorem consistent_loadDevice (rows : Option (List ProbeRow)) (entry : PeerEntry) :
    Consistent cfg (loadDevice cfg rows entry) := by
  unfold loadDevice hydrateStateFromHistory
  split
  · exact consistent_init entry
  · split
    · exact consistent_init entry
    · dsimp only
      split
      · constructor
        · exact fun _ => cfg.hdown
        · exact fun h => by cases h
        · exact fun h => by cases h
        · exact fun h => by cases h
      · constructor
        · intro h
          dsimp only at h
          split at h <;> cases h
        · exact fun _ => cfg.hup
        · exact fun _ => rfl
        · intro h
          dsimp only at h
          split at h <;> cases h

theorem Consistent.not_alive (h : Consistent cfg peer)
    (hfailures : cfg.downAfter <= tally false peer) :
    peer.currentStatus ≠ PeerStatus.alive :=
  fun halive => Nat.not_lt.mpr hfailures (h.alive halive)

theorem Consistent.is_alive (h : Consistent cfg peer)
    (hsuccesses : cfg.upAfter <= tally true peer) :
    peer.currentStatus = PeerStatus.alive := by
  have hup : cfg.upAfter <= peer.consecutiveSuccesses := hsuccesses
  cases hstatus : peer.currentStatus with
  | alive => rfl
  | dead => exact absurd (h.dead hstatus) (Nat.not_lt.mpr hup)
  | unknown =>
      have hzero := h.unknown hstatus
      have hpositive := cfg.hup
      rw [hzero] at hup
      exact absurd (Nat.le_trans hpositive hup) (by decide)
  | unreachable => exact absurd hstatus h.known

end Status

/-!
## From one cycle to the next
-/

/-- At most so much time lies between the beginnings of two cycles. -/
def cycleSpan (pace : Pace) (n : Nat) : Int :=
  (cycleBound pace n / pace.interval + 1) * pace.interval

section Span

variable {cfg : EngineConfig} {pace : Pace} {n : Nat} {s : HeartbeatJob} {place : Nat}

theorem cycleBound_nonneg (pace : Pace) (n : Nat) : 0 <= cycleBound pace n := by
  have hdials : 0 <= probeTimeout * (n - 1 + MAX_CONCURRENT_PROBES) / MAX_CONCURRENT_PROBES := by
    apply Int.ediv_nonneg
    · apply mul_nonneg (by decide)
      have hpermits : (1 : Int) <= MAX_CONCURRENT_PROBES := by decide
      linarith [Int.natCast_nonneg n]
    · decide
  unfold cycleBound
  linarith [pace.hsettle, pace.hbatch]

theorem interval_le_span (pace : Pace) (n : Nat) : pace.interval <= cycleSpan pace n := by
  have hquotient : 0 <= cycleBound pace n / pace.interval :=
    Int.ediv_nonneg (cycleBound_nonneg pace n) pace.hinterval.le
  unfold cycleSpan
  nlinarith [pace.hinterval]

/-- A run time that is missed because a cycle still runs is not the last one before its span. -/
theorem HeartbeatJob.Sound.due_le_span (h : s.Sound pace) (hrunning : s.cycle.isSome)
    (hdue : s.due = s.clock) :
    s.due + pace.interval <= s.begun + cycleSpan pace s.peers.length := by
  rcases Option.isSome_iff_exists.mp hrunning with ⟨c, hc⟩
  have hbounded := h.bounded hc
  rcases h.grid with ⟨i, hi⟩
  have hsteps : (i : Int) + 1 <= cycleBound pace s.peers.length / pace.interval := by
    rw [Int.le_ediv_iff_mul_le pace.hinterval]
    linarith
  have hscaled := mul_le_mul_of_nonneg_right hsteps pace.hinterval.le
  unfold cycleSpan
  linarith

end Span

/-!
## What keeps on in one way
-/

/-- The event makes the observations of a device less even: of the other kind, or missing. -/
def JobEvent.Disturbs (ok : Bool) (place : Nat) (s : HeartbeatJob) : JobEvent -> Prop
  | JobEvent.fire ready reads => (JobEvent.fire ready reads).Skips place
  | JobEvent.dialled i outcome => outcome.replied ≠ ok ∧ exists c task since, c ∈ s.cycle ∧
      c.dials.running[i]? = some (task, since) ∧ task.place = place
  | JobEvent.push p _ _ => ok = false ∧ p = place
  | _ => False

/-- From a time on a device answers every dial, or it answers none and sends no push. -/
def Steady (guard : HeartbeatJob -> JobEvent -> Prop) (ok : Bool) (place : Nat) (since : Int) :
    Prop :=
  forall s e, guard s e -> since <= s.clock -> ¬ e.Disturbs ok place s

section Steady

variable {cfg : EngineConfig} {pace : Pace} {s : HeartbeatJob} {e : JobEvent}
variable {ok : Bool} {place : Nat} {since : Int}

theorem disturbs_of_skips (h : e.Skips place) : e.Disturbs ok place s := by
  cases e with
  | fire ready reads => exact h
  | _ => exact h.elim

theorem early_of_disturbs (hsteady : since <= s.clock -> ¬ e.Disturbs ok place s)
    (h : e.Disturbs ok place s) : s.clock < since :=
  Int.lt_of_not_ge (fun hlate => hsteady hlate h)

structure Counted (pace : Pace) (ok : Bool) (place : Nat) (since : Int) (s : HeartbeatJob) :
    Prop where
  due : s.due <= max s.begun (since + pace.settle) + cycleSpan pace s.peers.length
  pending : s.Pending place -> forall peer, s.peers[place]? = some peer -> forall j : Nat,
    since + pace.settle + j * cycleSpan pace s.peers.length < s.begun -> j <= tally ok peer
  counted : ¬ s.Pending place -> forall peer, s.peers[place]? = some peer -> forall j : Nat,
    since + pace.settle + j * cycleSpan pace s.peers.length < s.begun -> j + 1 <= tally ok peer
  old : forall c, c ∈ s.cycle -> forall d, d ∈ c.dialled -> d.task.place = place ->
    d.outcome.replied ≠ ok -> d.ended < since

theorem span_nonneg (pace : Pace) (n : Nat) : 0 <= cycleSpan pace n :=
  pace.hinterval.le.trans (interval_le_span pace n)

theorem counted_start (h : s.Started cfg pace) (hsince : s.clock <= since) :
    Counted pace ok place since s := by
  have hspan := span_nonneg pace s.peers.length
  have hbegun := h.begun
  have hsettle := pace.hsettle
  have hlate : forall j : Nat,
      ¬ since + pace.settle + j * cycleSpan pace s.peers.length < s.begun := by
    intro j hj
    have := mul_nonneg (Int.natCast_nonneg j) hspan
    linarith
  constructor
  · rw [h.due, ← hbegun]
    linarith [le_max_left s.begun (since + pace.settle), interval_le_span pace s.peers.length]
  · exact fun _ _ _ j hj => absurd hj (hlate j)
  · exact fun _ _ _ j hj => absurd hj (hlate j)
  · intro c hc
    rw [h.cycle] at hc
    cases hc

/-- The next run time stays within a span of the last cycle, or of the time itself. -/
theorem Counted.due_step (h : Counted pace ok place since s) (hsound : s.Sound pace)
    (hplace : place < s.peers.length) (hsteady : since <= s.clock -> ¬ e.Disturbs ok place s)
    (hbegun : s.begun <= (s.step cfg pace e).begun) :
    (s.step cfg pace e).due <= max (s.step cfg pace e).begun (since + pace.settle) +
      cycleSpan pace s.peers.length := by
  have hsettle := pace.hsettle
  have hinterval := interval_le_span pace s.peers.length
  have hmax : max s.begun (since + pace.settle) <=
      max (s.step cfg pace e).begun (since + pace.settle) := max_le_max_right _ hbegun
  have hleft := le_max_left (s.step cfg pace e).begun (since + pace.settle)
  have hright := le_max_right (s.step cfg pace e).begun (since + pace.settle)
  rcases (HeartbeatJob.timeStep cfg pace s e).due with
    hsame | ⟨hnext, hdue, hrunning | hbegins | hempty | ⟨reads, hskips⟩⟩
  · rw [hsame]
    linarith [h.due]
  · have := hsound.due_le_span hrunning hdue
    linarith
  · linarith
  · rw [hempty] at hplace
    exact absurd hplace (Nat.not_lt_zero place)
  · have hskipped : e.Skips place := by
      rw [hskips]
      exact Or.inl rfl
    have hearly := early_of_disturbs hsteady (disturbs_of_skips hskipped)
    linarith

theorem Counted.old_step (h : Counted pace ok place since s) (cfg : EngineConfig)
    (hsteady : since <= s.clock -> ¬ e.Disturbs ok place s) {c : RunningCycle}
    (hc : c ∈ (s.step cfg pace e).cycle) {d : DialResult} (hd : d ∈ c.dialled)
    (hplace : d.task.place = place) (hother : d.outcome.replied ≠ ok) : d.ended < since := by
  rcases HeartbeatJob.dialled_step s e hc hd with ⟨c', hc', hold⟩ | hnew
  · exact h.old c' hc' d hold hplace hother
  · rcases hnew with ⟨i, outcome, c', t, rfl, hc', hi, rfl, hended⟩
    rw [hended]
    exact early_of_disturbs hsteady ⟨hother, c', d.task, t, hc', hi, hplace⟩

theorem Counted.step (h : Counted pace ok place since s) (hsound : s.Sound pace)
    (hplace : place < s.peers.length)
    (hsteady : since <= s.clock -> ¬ e.Disturbs ok place s) :
    Counted pace ok place since (s.step cfg pace e) := by
  have hsettle := pace.hsettle
  have hspan := span_nonneg pace s.peers.length
  have hlength := (HeartbeatJob.timeStep cfg pace s e).length
  have hjspan : forall j : Nat, 0 <= (j : Int) * cycleSpan pace s.peers.length :=
    fun j => mul_nonneg (Int.natCast_nonneg j) hspan
  have hold := fun c hc d hd => h.old_step cfg hsteady (c := c) hc (d := d) hd
  rcases HeartbeatJob.deviceStep cfg hsound place e with
    ⟨hbegun, hpeer, hpending⟩ | ⟨hbegun, hpeers, hdue, hbefore, hafter⟩ |
    ⟨c, d, o, hc, hd, hdevice, hbegun, hbefore, hafter, houtcome, hpeer⟩ |
    ⟨trusted, now, hevent, hbegun, hpending, hpeer⟩
  · refine ⟨?_, ?_, ?_, hold⟩
    · rw [hlength]
      exact h.due_step hsound hplace hsteady (Int.le_of_eq hbegun.symm)
    · rw [hlength, hbegun, hpeer, hpending]
      exact h.pending
    · rw [hlength, hbegun, hpeer, hpending]
      exact h.counted
  · -- A cycle begins: its predecessor began no more than a span ago, and is over.
    have hnext := h.due
    refine ⟨?_, ?_, ?_, hold⟩
    · rw [hlength]
      exact h.due_step hsound hplace hsteady (hbegun ▸ hsound.begun)
    · rw [hlength, hbegun, hpeers]
      intro _ peer hpeer j hj
      cases j with
      | zero => exact Nat.zero_le _
      | succ k =>
          apply h.counted hbefore peer hpeer k
          push_cast at hj
          rcases max_choice s.begun (since + pace.settle) with hmax | hmax
          · rw [hmax] at hnext
            linarith
          · rw [hmax] at hnext
            linarith [hjspan k]
    · rw [hlength, hbegun]
      intro hskipped peer _ j hj
      have hskips : e.Skips place :=
        Classical.not_not.mp (fun hnot => hskipped (hafter hplace hnot))
      have hearly := early_of_disturbs hsteady (disturbs_of_skips hskips)
      linarith [hjspan j]
  · -- The probe is counted: one more of the kind, unless its dial was over before.
    refine ⟨?_, fun hstill => absurd hstill hafter, ?_, hold⟩
    · rw [hlength]
      exact h.due_step hsound hplace hsteady (Int.le_of_eq hbegun.symm)
    · rw [hlength, hbegun, hpeer]
      intro _ peer' hpeer' j hj
      rcases Option.map_eq_some_iff.mp hpeer' with ⟨peer, hpeer, rfl⟩
      rw [tally_observed]
      split
      · exact Nat.succ_le_succ (h.pending hbefore peer hpeer j hj)
      · rename_i hother
        rw [houtcome] at hother
        have hended := h.old c hc d hd hdevice hother
        have hlate := ((hsound.cycle c hc).dialled d hd).left
        linarith [hjspan j, hsound.begun]
  · -- A push is a success.
    have hsucceeded : (Observation.push trusted now).succeeded = true := rfl
    have hgrows : forall peer', (s.step cfg pace e).peers[place]? = some peer' -> forall j : Nat,
        since + pace.settle + j * cycleSpan pace s.peers.length < s.begun ->
        exists peer, s.peers[place]? = some peer ∧ tally ok peer <= tally ok peer' := by
      intro peer' hpeer' j hj
      rw [hpeer] at hpeer'
      rcases Option.map_eq_some_iff.mp hpeer' with ⟨peer, hpeer, rfl⟩
      refine ⟨peer, hpeer, ?_⟩
      rw [tally_observed, hsucceeded]
      split
      · exact Nat.le_succ _
      · rename_i hother
        have hfalse : ok = false := by
          cases ok with
          | true => exact absurd rfl hother
          | false => rfl
        have hdisturbs : e.Disturbs ok place s := by
          rw [hevent]
          exact ⟨hfalse, rfl⟩
        have hearly := early_of_disturbs hsteady hdisturbs
        linarith [hjspan j, hsound.begun]
    refine ⟨?_, ?_, ?_, hold⟩
    · rw [hlength]
      exact h.due_step hsound hplace hsteady (Int.le_of_eq hbegun.symm)
    · rw [hlength, hbegun, hpending]
      intro hstill peer' hpeer' j hj
      rcases hgrows peer' hpeer' j hj with ⟨peer, hpeer, hle⟩
      exact (h.pending hstill peer hpeer j hj).trans hle
    · rw [hlength, hbegun, hpending]
      intro hdone peer' hpeer' j hj
      rcases hgrows peer' hpeer' j hj with ⟨peer, hpeer, hle⟩
      exact (h.counted hdone peer hpeer j hj).trans hle

theorem Counted.reached (h : Counted pace ok place since s) (hsound : s.Sound pace)
    {peer : PeerState} (hpeer : s.peers[place]? = some peer) {m : Nat}
    (hlate : since + pace.settle + m * cycleSpan pace s.peers.length +
      cycleBound pace s.peers.length < s.clock) : m <= tally ok peer := by
  have hbound := cycleBound_nonneg pace s.peers.length
  have hspan := span_nonneg pace s.peers.length
  by_cases hpending : s.Pending place
  · apply h.pending hpending peer hpeer
    rcases hpending with ⟨c, hc, _⟩
    linarith [hsound.bounded hc]
  · cases m with
    | zero => exact Nat.zero_le _
    | succ k =>
        apply h.counted hpending peer hpeer
        have hdue := hsound.clock.trans h.due
        have hk := mul_nonneg (Int.natCast_nonneg k) hspan
        push_cast at hlate
        rcases max_choice s.begun (since + pace.settle) with hmax | hmax
        · rw [hmax] at hdue
          linarith
        · rw [hmax] at hdue
          linarith

end Steady

/-!
## What failed since it was heard
-/

def HeartbeatJob.Unfailed (place : Nat) (s : HeartbeatJob) : Prop :=
  exists peer, s.peers[place]? = some peer ∧ peer.consecutiveFailures = 0

/-- And it is `ALIVE`. -/
def HeartbeatJob.Fine (place : Nat) (s : HeartbeatJob) : Prop :=
  exists peer, s.peers[place]? = some peer ∧ peer.consecutiveFailures = 0 ∧
    peer.currentStatus = PeerStatus.alive

section Patience

variable {cfg : EngineConfig} {pace : Pace} {s : HeartbeatJob} {e : JobEvent}
variable {place : Nat} {past : List HeartbeatJob}

structure Patient (cfg : EngineConfig) (pace : Pace) (place : Nat) (past : List HeartbeatJob)
    (s : HeartbeatJob) : Prop where
  clock : forall v, v ∈ past -> v.clock <= s.clock
  pending : s.Pending place -> forall peer, s.peers[place]? = some peer ->
    peer.consecutiveFailures ≠ 0 -> forall v, v ∈ past -> v.Unfailed place ->
    v.clock + peer.consecutiveFailures * pace.interval <=
      s.begun + cycleBound pace s.peers.length
  counted : ¬ s.Pending place -> forall peer, s.peers[place]? = some peer ->
    peer.consecutiveFailures ≠ 0 -> forall v, v ∈ past -> v.Unfailed place ->
    v.clock + peer.consecutiveFailures * pace.interval <=
      s.begun + cycleBound pace s.peers.length + pace.interval
  dead : forall peer, s.peers[place]? = some peer -> peer.currentStatus = PeerStatus.dead ->
    forall v, v ∈ past -> v.Fine place ->
    v.clock + cfg.downAfter * pace.interval <=
      s.clock + cycleBound pace s.peers.length + pace.interval

theorem patient_start (s : HeartbeatJob) : Patient cfg pace place [] s :=
  ⟨fun _ h => (List.not_mem_nil h).elim, fun _ _ _ _ _ h => (List.not_mem_nil h).elim,
    fun _ _ _ _ _ h => (List.not_mem_nil h).elim, fun _ _ _ _ h => (List.not_mem_nil h).elim⟩

theorem Patient.counted_probe (h : Patient cfg pace place past s) (hsound : s.Sound pace)
    (hpending : s.Pending place) {peer : PeerState} (hpeer : s.peers[place]? = some peer)
    {v : HeartbeatJob} (hv : v ∈ s :: past) (hunfailed : v.Unfailed place) :
    v.clock + (peer.consecutiveFailures + 1 : Nat) * pace.interval <=
      s.begun + cycleBound pace s.peers.length + pace.interval := by
  have hclock : v.clock <= s.clock := by
    rcases List.mem_cons.mp hv with rfl | hold
    · exact Int.le_refl _
    · exact h.clock v hold
  have hbounded : s.clock <= s.begun + cycleBound pace s.peers.length := by
    rcases hpending with ⟨c, hc, _⟩
    exact hsound.bounded hc
  push_cast
  by_cases hzero : peer.consecutiveFailures = 0
  · rw [hzero]
    push_cast
    linarith
  · rcases List.mem_cons.mp hv with rfl | hold
    · rcases hunfailed with ⟨peer', hpeer', hnone⟩
      rw [hpeer] at hpeer'
      cases hpeer'
      exact absurd hnone hzero
    · have := h.pending hpending peer hpeer hzero v hold hunfailed
      linarith

theorem Patient.step (h : Patient cfg pace place past s) (hsound : s.Sound pace) :
    Patient cfg pace place (s :: past) (s.step cfg pace e) := by
  have htime := HeartbeatJob.timeStep cfg pace s e
  have hinterval := pace.hinterval
  have hclock : forall v, v ∈ s :: past -> v.clock <= (s.step cfg pace e).clock := by
    intro v hv
    rcases List.mem_cons.mp hv with rfl | hold
    · exact htime.clock
    · exact (h.clock v hold).trans htime.clock
  -- A device that fails, or is given up, has not been heard in this very state.
  have hfailed : forall peer, s.peers[place]? = some peer -> peer.consecutiveFailures ≠ 0 ->
      forall v, v ∈ s :: past -> v.Unfailed place -> v ∈ past := by
    rintro peer hpeer hne v hv ⟨peer', hpeer', hzero⟩
    rcases List.mem_cons.mp hv with rfl | hold
    · rw [hpeer] at hpeer'
      cases hpeer'
      exact absurd hzero hne
    · exact hold
  have hdead : forall peer, s.peers[place]? = some peer ->
      peer.currentStatus = PeerStatus.dead -> forall v, v ∈ s :: past -> v.Fine place ->
      v.clock + cfg.downAfter * pace.interval <=
        (s.step cfg pace e).clock + cycleBound pace s.peers.length + pace.interval := by
    rintro peer hpeer hstatus v hv ⟨peer', hpeer', hzero, halive⟩
    rcases List.mem_cons.mp hv with rfl | hold
    · rw [hpeer] at hpeer'
      cases hpeer'
      rw [hstatus] at halive
      cases halive
    · have := h.dead peer hpeer hstatus v hold ⟨peer', hpeer', hzero, halive⟩
      linarith [htime.clock]
  rcases HeartbeatJob.deviceStep cfg hsound place e with
    ⟨hbegun, hpeer, hpending⟩ | ⟨hbegun, hpeers, hdue, hbefore, hafter⟩ |
    ⟨c, d, o, hc, hd, hdevice, hbegun, hbefore, hafter, houtcome, hpeer⟩ |
    ⟨trusted, now, hevent, hbegun, hpending, hpeer⟩
  · refine ⟨hclock, ?_, ?_, ?_⟩
    · rw [hpending, htime.length, hbegun, hpeer]
      exact fun hstill peer hp hne v hv hu =>
        h.pending hstill peer hp hne v (hfailed peer hp hne v hv hu) hu
    · rw [hpending, htime.length, hbegun, hpeer]
      exact fun hdone peer hp hne v hv hu =>
        h.counted hdone peer hp hne v (hfailed peer hp hne v hv hu) hu
    · rw [htime.length, hpeer]
      exact hdead
  · -- A cycle begins, at least an interval after the one before it.
    have hnext : s.begun + pace.interval <= s.clock := by
      rcases hsound.grid with ⟨i, hi⟩
      have := mul_nonneg (Int.natCast_nonneg i) hinterval.le
      linarith
    have hearlier : forall peer, s.peers[place]? = some peer -> peer.consecutiveFailures ≠ 0 ->
        forall v, v ∈ s :: past -> v.Unfailed place ->
        v.clock + peer.consecutiveFailures * pace.interval <=
          s.clock + cycleBound pace s.peers.length := by
      intro peer hp hne v hv hu
      have := h.counted hbefore peer hp hne v (hfailed peer hp hne v hv hu) hu
      linarith
    refine ⟨hclock, ?_, ?_, ?_⟩
    · rw [htime.length, hbegun, hpeers]
      exact fun _ => hearlier
    · rw [htime.length, hbegun, hpeers]
      exact fun _ peer hp hne v hv hu =>
        (hearlier peer hp hne v hv hu).trans (Int.le_add_of_nonneg_right hinterval.le)
    · rw [htime.length, hpeers]
      exact hdead
  · refine ⟨hclock, fun hstill => absurd hstill hafter, ?_, ?_⟩
    · rw [htime.length, hbegun, hpeer]
      intro _ peer' hpeer' hne v hv hu
      rcases Option.map_eq_some_iff.mp hpeer' with ⟨peer, hp, rfl⟩
      rw [failures_observed] at hne ⊢
      split at hne
      · exact absurd rfl hne
      · rename_i hlost
        rw [if_neg hlost]
        exact h.counted_probe hsound hbefore hp hv hu
    · rw [htime.length, hpeer]
      intro peer' hpeer' hstatus v hv hfine
      rcases Option.map_eq_some_iff.mp hpeer' with ⟨peer, hp, rfl⟩
      rcases dead_observed hstatus with halready | ⟨hlost, henough⟩
      · exact hdead peer hp halready v hv hfine
      · rcases hfine with ⟨peer', hpeer', hzero, _⟩
        have hcounted := h.counted_probe hsound hbefore hp hv ⟨peer', hpeer', hzero⟩
        rw [failures_observed, hlost, if_neg Bool.false_ne_true] at henough
        have hscaled : (cfg.downAfter : Int) * pace.interval <=
            (peer.consecutiveFailures + 1 : Nat) * pace.interval :=
          mul_le_mul_of_nonneg_right (by exact_mod_cast henough) hinterval.le
        linarith [hsound.begun, htime.clock]
  · have hheard : forall peer', (s.step cfg pace e).peers[place]? = some peer' ->
        peer'.consecutiveFailures = 0 := by
      intro peer' hpeer'
      rw [hpeer] at hpeer'
      rcases Option.map_eq_some_iff.mp hpeer' with ⟨peer, hp, rfl⟩
      exact failures_observed cfg (Observation.push trusted now) peer
    refine ⟨hclock, ?_, ?_, ?_⟩
    · exact fun _ peer' hpeer' hne => absurd (hheard peer' hpeer') hne
    · exact fun _ peer' hpeer' hne => absurd (hheard peer' hpeer') hne
    · rw [htime.length, hpeer]
      intro peer' hpeer' hstatus
      rcases Option.map_eq_some_iff.mp hpeer' with ⟨peer, hp, rfl⟩
      rcases dead_observed hstatus with halready | ⟨hlost, _⟩
      · exact hdead peer hp halready
      · cases hlost

end Patience

/-!
## Main result
-/

section Runs

variable {cfg : EngineConfig} {pace : Pace} {guard : HeartbeatJob -> JobEvent -> Prop}
variable {past : List HeartbeatJob} {s : HeartbeatJob}

structure JobInvariant (cfg : EngineConfig) (pace : Pace) (past : List HeartbeatJob)
    (s : HeartbeatJob) : Prop where
  sound : s.Sound pace
  consistent : forall (place : Nat) peer, s.peers[place]? = some peer -> Consistent cfg peer
  patient : forall place, Patient cfg pace place past s

theorem consistent_step (hsound : s.Sound pace) (e : JobEvent)
    (h : forall (place : Nat) peer, s.peers[place]? = some peer -> Consistent cfg peer)
    (place : Nat) (peer : PeerState)
    (hpeer : (s.step cfg pace e).peers[place]? = some peer) : Consistent cfg peer := by
  rcases HeartbeatJob.deviceStep cfg hsound place e with
    ⟨_, hkept, _⟩ | ⟨_, hkept, _, _, _⟩ | ⟨_, _, o, _, _, _, _, _, _, _, hobserved⟩ |
    ⟨trusted, now, _, _, _, hobserved⟩
  · exact h place peer (hkept ▸ hpeer)
  · exact h place peer (hkept ▸ hpeer)
  · rw [hobserved] at hpeer
    rcases Option.map_eq_some_iff.mp hpeer with ⟨before, hbefore, rfl⟩
    exact (h place before hbefore).observed
  · rw [hobserved] at hpeer
    rcases Option.map_eq_some_iff.mp hpeer with ⟨before, hbefore, rfl⟩
    exact (h place before hbefore).observed

theorem jobInvariant (hprompt : forall s e, guard s e -> OnTime pace s e)
    (hrun : (heartbeatJob cfg pace).Run guard past s) : JobInvariant cfg pace past s := by
  apply hrun.invariant_past (I := JobInvariant cfg pace)
  · intro s hstart
    refine ⟨hstart.sound, ?_, fun _ => patient_start s⟩
    intro place peer hpeer
    rcases hstart.peers peer (List.mem_of_getElem? hpeer) with ⟨rows, entry, rfl⟩
    exact consistent_loadDevice rows entry
  · intro past s e h hguard
    exact ⟨h.sound.step (hprompt s e hguard), consistent_step h.sound e h.consistent,
      fun place => (h.patient place).step h.sound⟩

theorem counted_run (hprompt : forall s e, guard s e -> OnTime pace s e)
    (hrun : (heartbeatJob cfg pace).Run guard past s) {ok : Bool} {place : Nat} {since : Int}
    (hplace : place < s.peers.length) (hsteady : Steady guard ok place since)
    (hold : exists v, v ∈ s :: past ∧ v.clock <= since) : Counted pace ok place since s := by
  induction hrun with
  | start hstart =>
      rcases hold with ⟨v, hv, hsince⟩
      rw [List.mem_singleton.mp hv] at hsince
      exact counted_start hstart hsince
  | @step past s e hrun hguard ih =>
      have htime := HeartbeatJob.timeStep cfg pace s e
      have hsound := (jobInvariant hprompt hrun).sound
      have hplace : place < s.peers.length := htime.length ▸ hplace
      have hearlier : exists v, v ∈ s :: past ∧ v.clock <= since := by
        rcases hold with ⟨v, hv, hsince⟩
        rcases List.mem_cons.mp hv with rfl | hbefore
        · exact ⟨s, List.mem_cons_self .., htime.clock.trans hsince⟩
        · exact ⟨v, hbefore, hsince⟩
      exact (ih hplace hearlier).step hsound hplace (hsteady s e hguard)

/--
The timing of the monitor over whole runs.  `guard` says what can happen; what it keeps from
happening is what the results may count on.
-/
structure DetectionLaw (cfg : EngineConfig) (pace : Pace)
    (guard : HeartbeatJob -> JobEvent -> Prop) (past : List HeartbeatJob) (s : HeartbeatJob) :
    Prop where
  /-- So many dials at a time, none of them for a device that is in another one. -/
  capped : forall c, c ∈ s.cycle ->
    c.dials.running.length <= MAX_CONCURRENT_PROBES ∧ c.pending.Nodup
  /-- A cycle is over in bounded time, and if that is short no run time is missed. -/
  bounded : forall c, c ∈ s.cycle -> s.clock <= s.begun + cycleBound pace s.peers.length
  regular : cycleBound pace s.peers.length < pace.interval -> s.due = s.clock -> s.cycle = none
  /-- A device that is given up was not heard for all but one of `down_after` intervals. -/
  patient : forall place peer v, s.peers[place]? = some peer ->
    peer.currentStatus = PeerStatus.dead -> v ∈ past -> v.Fine place ->
    (cfg.downAfter - 1) * pace.interval <= s.clock - v.clock + cycleBound pace s.peers.length
  /-- A device that stays silent is not `ALIVE` any more after `down_after` spans. -/
  detected : forall place peer since, s.peers[place]? = some peer ->
    Steady guard false place since -> (exists v, v ∈ past ∧ v.clock <= since) ->
    since + pace.settle + cfg.downAfter * cycleSpan pace s.peers.length +
      cycleBound pace s.peers.length < s.clock -> peer.currentStatus ≠ PeerStatus.alive
  /-- A device that answers is `ALIVE` after `up_after` spans. -/
  recovered : forall place peer since, s.peers[place]? = some peer ->
    Steady guard true place since -> (exists v, v ∈ past ∧ v.clock <= since) ->
    since + pace.settle + cfg.upAfter * cycleSpan pace s.peers.length +
      cycleBound pace s.peers.length < s.clock -> peer.currentStatus = PeerStatus.alive

theorem detection_law (hprompt : forall s e, guard s e -> OnTime pace s e)
    (hrun : (heartbeatJob cfg pace).Run guard past s) : DetectionLaw cfg pace guard past s := by
  have h := jobInvariant hprompt hrun
  have hlt : forall {place : Nat} {peer : PeerState}, s.peers[place]? = some peer ->
      place < s.peers.length := fun hpeer => (List.getElem?_eq_some_iff.mp hpeer).1
  have hearlier : forall {since : Int}, (exists v, v ∈ past ∧ v.clock <= since) ->
      exists v, v ∈ s :: past ∧ v.clock <= since :=
    fun ⟨v, hv, hsince⟩ => ⟨v, List.mem_cons_of_mem s hv, hsince⟩
  constructor
  · exact fun c hc => ⟨(h.sound.cycle c hc).dials.served, (h.sound.cycle c hc).nodup⟩
  · exact fun c hc => h.sound.bounded hc
  · intro hshort hdue
    cases hcycle : s.cycle with
    | none => rfl
    | some c =>
        have hbounded := h.sound.bounded hcycle
        rcases h.sound.grid with ⟨i, hi⟩
        have := mul_nonneg (Int.natCast_nonneg i) pace.hinterval.le
        linarith
  · intro place peer v hpeer hdead hv hfine
    have := (h.patient place).dead peer hpeer hdead v hv hfine
    linarith
  · intro place peer since hpeer hsteady hold hlate
    have hcounted := counted_run hprompt hrun (hlt hpeer) hsteady (hearlier hold)
    exact (h.consistent place peer hpeer).not_alive (hcounted.reached h.sound hpeer hlate)
  · intro place peer since hpeer hsteady hold hlate
    have hcounted := counted_run hprompt hrun (hlt hpeer) hsteady (hearlier hold)
    exact (h.consistent place peer hpeer).is_alive (hcounted.reached h.sound hpeer hlate)

end Runs

def halfMinute : Pace where
  interval := 30 * microsPerSecond
  settle := microsPerSecond
  batch := microsPerSecond
  hinterval := by decide
  hsettle := by decide
  hbatch := by decide

def oneDevice : HeartbeatJob where
  clock := 0
  due := 30 * microsPerSecond
  begun := 0
  cycle := none
  peers := [loadDevice (EngineConfig.make "node" 1 1 0) (some [⟨"peer", 0, none, PeerStatus.alive⟩])
    ⟨"peer", none⟩]
  lastAlertFired := []
  effects := []

def timeoutCycle : List JobEvent :=
  [JobEvent.tick 30000000, JobEvent.fire true (fun _ => (none, 0)), JobEvent.acquire,
    JobEvent.tick 10000000, JobEvent.dialled 0 (ProbeOutcome.raised "TimeoutError" ""),
    JobEvent.settle 0 none, JobEvent.finished, JobEvent.tick 4000000]

def SilentDevice (s : HeartbeatJob) (e : JobEvent) : Prop :=
  OnTime halfMinute s e ∧ ¬ e.Disturbs false 0 s

theorem detection_law_silent :
    exists past s peer,
      (heartbeatJob (EngineConfig.make "node" 1 1 0) halfMinute).Run SilentDevice past s ∧
        s.peers[0]? = some peer ∧ peer.currentStatus ≠ PeerStatus.alive := by
  have hstart : (heartbeatJob (EngineConfig.make "node" 1 1 0) halfMinute).Run SilentDevice []
      oneDevice := by
    apply Machine.Run.start
    refine ⟨rfl, rfl, rfl, ?_⟩
    exact fun peer hpeer => ⟨_, _, List.mem_singleton.mp hpeer⟩
  have hguard : (heartbeatJob (EngineConfig.make "node" 1 1 0) halfMinute).Guarded SilentDevice
      oneDevice timeoutCycle := by
    refine ⟨⟨by decide, id⟩, ⟨trivial, ?_⟩, ⟨trivial, id⟩, ⟨by decide, id⟩,
      ⟨trivial, fun h => h.left rfl⟩, ⟨trivial, id⟩, ⟨trivial, id⟩, ⟨by decide, id⟩, trivial⟩
    rintro (hready | hwindow)
    · cases hready
    · exact hwindow (fun _ h => by cases h)
  have hrun := hstart.exec timeoutCycle hguard
  have hlaw := detection_law (fun _ _ h => h.left) hrun
  have hsteady : Steady SilentDevice false 0 0 := fun _ _ h _ => h.right
  have hfirst : oneDevice ∈ (heartbeatJob (EngineConfig.make "node" 1 1 0) halfMinute).trail []
      oneDevice timeoutCycle :=
    List.mem_of_getElem? (i := 7) rfl
  exact ⟨_, _, _, hrun, rfl,
    hlaw.detected 0 _ 0 rfl hsteady ⟨oneDevice, hfirst, Int.le_refl 0⟩ (by decide)⟩

end Liveness
end PanicMonitr
