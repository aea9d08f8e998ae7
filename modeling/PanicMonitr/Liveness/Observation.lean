import PanicMonitr.Liveness.Transition

/-!
# Observations

A probe or a push, as one step on the state of its peer.  Outside maintenance
windows the step is determined by the two counters and the threshold decision; the
entries it appends keep `monitor_down` and `monitor_up` paired.
-/

namespace PanicMonitr
namespace Liveness

open Foundation
open Trust

inductive Observation where
  | probe (before after : Option TrustedPeer) (now : Instant) (outcome : ProbeOutcome)
  | push (trusted : Option TrustedPeer) (now : Instant)

namespace Observation

def record : Observation -> LatencyRecord
  | probe _ _ now outcome => probeRecord now outcome
  | push _ now => pushRecord now

def succeeded (o : Observation) : Bool :=
  decide (o.record.status = PeerStatus.alive)

/-- No maintenance window is open when the observation is made. -/
def Quiet : Observation -> Prop
  | probe before after now _ =>
      OutsideMaintenance before now ∧ OutsideMaintenance after now
  | push trusted now => OutsideMaintenance trusted now

instance (o : Observation) : Decidable o.Quiet :=
  match o with
  | probe before after now _ =>
      inferInstanceAs
        (Decidable (OutsideMaintenance before now ∧ OutsideMaintenance after now))
  | push trusted now => inferInstanceAs (Decidable (OutsideMaintenance trusted now))

/-- The counters and the record of an observation, before the transition. -/
def count (peer : PeerState) : Observation -> PeerState
  | probe _ _ now outcome => countProbe peer now outcome
  | push _ now => countPush peer now

end Observation

def observe (cfg : EngineConfig) (m : Monitored) : Observation -> Monitored
  | Observation.probe before after now outcome =>
      (probePeer cfg before after m now outcome).1
  | Observation.push trusted now => recordPushFrom cfg trusted m now

def observeAll (cfg : EngineConfig) (m : Monitored) (obs : List Observation) :
    Monitored :=
  obs.foldl (observe cfg) m

theorem observeAll_snoc (cfg : EngineConfig) (m : Monitored) (obs : List Observation)
    (o : Observation) :
    observeAll cfg m (obs ++ [o]) = observe cfg (observeAll cfg m obs) o := by
  unfold observeAll
  rw [List.foldl_append]
  rfl

/-!
## One observation
-/

/-- The threshold decision as a function of the counters after the observation. -/
def statusAfter (cfg : EngineConfig) (prev : PeerStatus) (failures successes : Nat)
    (succeeded : Bool) : PeerStatus :=
  if succeeded then
    if prev = PeerStatus.unknown ∨ cfg.upAfter <= successes then PeerStatus.alive
    else prev
  else if prev = PeerStatus.alive ∧ cfg.downAfter <= failures then PeerStatus.dead
  else prev

theorem nextStatus_eq (cfg : EngineConfig) (peer : PeerState) (record : LatencyRecord) :
    nextStatus cfg peer record =
      statusAfter cfg peer.currentStatus peer.consecutiveFailures
        peer.consecutiveSuccesses (decide (record.status = PeerStatus.alive)) := by
  unfold nextStatus newState statusAfter
  by_cases hok : record.status = PeerStatus.alive
  · simp only [hok, if_true, decide_true]
    by_cases hunknown : peer.currentStatus = PeerStatus.unknown
    · simp [hunknown]
    · by_cases halive : peer.currentStatus = PeerStatus.alive
      · simp [halive]
      · by_cases hup : cfg.upAfter <= peer.consecutiveSuccesses
        · simp [hunknown, halive, hup]
        · simp [hunknown, hup]
  · simp only [hok, if_false, decide_false]
    by_cases hdown : peer.currentStatus = PeerStatus.alive ∧
        cfg.downAfter <= peer.consecutiveFailures
    · simp [hdown]
    · rw [if_neg hdown]
      simp [hdown]

/-- The observation is made: no window is open when a probe starts. -/
def Observation.Made : Observation -> Prop
  | Observation.probe before _ now _ => OutsideMaintenance before now
  | Observation.push _ _ => True

instance (o : Observation) : Decidable o.Made :=
  match o with
  | Observation.probe before _ now _ =>
      inferInstanceAs (Decidable (OutsideMaintenance before now))
  | Observation.push _ _ => isTrue trivial

/-- What `get_peer` answers in the transition. -/
def Observation.trusted : Observation -> Option TrustedPeer
  | Observation.probe _ after _ _ => after
  | Observation.push trusted _ => trusted

theorem probeRecord_timestamp (now : Instant) (outcome : ProbeOutcome) :
    (probeRecord now outcome).timestamp = now := by
  cases outcome <;> rfl

/-- A probe that is made and a push are the same step on different records. -/
theorem observe_made (cfg : EngineConfig) (m : Monitored) {o : Observation} (hmade : o.Made) :
    observe cfg m o =
      (maybeTransition cfg o.trusted { m with peer := o.count m.peer } o.record
        o.record.timestamp).1 := by
  cases o with
  | push trusted now => rfl
  | probe before after now outcome =>
      have hdialled : observe cfg m (Observation.probe before after now outcome) =
          (maybeTransition cfg after { m with peer := countProbe m.peer now outcome }
            (probeRecord now outcome) now).1 := by
        rw [observe, probePeer]
        rcases outsideMaintenance_cases hmade with hnone | hfalse
        · rw [hnone]
          simp only
          split <;> simp_all
        · rw [hfalse]
          simp only
          split <;> simp_all
      rw [hdialled, Observation.record, probeRecord_timestamp]
      rfl

theorem observe_skipped (cfg : EngineConfig) (m : Monitored) {o : Observation}
    (hskipped : ¬ o.Made) : observe cfg m o = m := by
  cases o with
  | push trusted now => exact absurd trivial hskipped
  | probe before after now outcome =>
      cases before with
      | none =>
          refine absurd ?_ hskipped
          intro peer hpeer
          cases hpeer
      | some peer =>
          rw [observe, probePeer, Option.map_some]
          cases hwindow : peer.inMaintenance now with
          | none => rfl
          | some opened =>
              cases opened with
              | true => rfl
              | false =>
                  refine absurd ?_ hskipped
                  intro peer' hpeer'
                  cases hpeer'
                  exact hwindow

/-- Outside maintenance a probe and a push are the same step on different records. -/
theorem observe_quiet (cfg : EngineConfig) (m : Monitored) {o : Observation}
    (hquiet : o.Quiet) :
    exists trusted, OutsideMaintenance trusted o.record.timestamp ∧
      observe cfg m o =
        (maybeTransition cfg trusted { m with peer := o.count m.peer } o.record
          o.record.timestamp).1 := by
  cases o with
  | push trusted now => exact ⟨trusted, hquiet, observe_made cfg m trivial⟩
  | probe before after now outcome =>
      refine ⟨after, by rw [Observation.record, probeRecord_timestamp]; exact hquiet.right, ?_⟩
      exact observe_made cfg m (o := Observation.probe before after now outcome) hquiet.left

theorem count_failures (peer : PeerState) (o : Observation) :
    (o.count peer).consecutiveFailures =
      if o.succeeded then 0 else peer.consecutiveFailures + 1 := by
  cases o with
  | push => rfl
  | probe _ _ _ outcome => cases outcome <;> rfl

theorem count_successes (peer : PeerState) (o : Observation) :
    (o.count peer).consecutiveSuccesses =
      if o.succeeded then peer.consecutiveSuccesses + 1 else 0 := by
  cases o with
  | push => rfl
  | probe _ _ _ outcome => cases outcome <;> rfl

theorem count_status (peer : PeerState) (o : Observation) :
    (o.count peer).currentStatus = peer.currentStatus := by
  cases o with
  | push => rfl
  | probe _ _ _ outcome => cases outcome <;> rfl

theorem count_entry (peer : PeerState) (o : Observation) :
    (o.count peer).entry = peer.entry := by
  cases o with
  | push => rfl
  | probe _ _ _ outcome => cases outcome <;> rfl

section Quiet

variable (cfg : EngineConfig) (m : Monitored) {o : Observation} (hquiet : o.Quiet)
include hquiet

theorem observe_peer :
    (observe cfg m o).peer =
      { o.count m.peer with
        currentStatus := nextStatus cfg (o.count m.peer) o.record } := by
  rcases observe_quiet cfg m hquiet with ⟨trusted, _hout, hobserve⟩
  rw [hobserve, maybeTransition_peer]

theorem observe_entry : (observe cfg m o).peer.entry = m.peer.entry := by
  rw [observe_peer cfg m hquiet]
  exact count_entry m.peer o

theorem observe_failures :
    (observe cfg m o).peer.consecutiveFailures =
      if o.succeeded then 0 else m.peer.consecutiveFailures + 1 := by
  rw [observe_peer cfg m hquiet]
  exact count_failures m.peer o

theorem observe_successes :
    (observe cfg m o).peer.consecutiveSuccesses =
      if o.succeeded then m.peer.consecutiveSuccesses + 1 else 0 := by
  rw [observe_peer cfg m hquiet]
  exact count_successes m.peer o

theorem observe_status :
    (observe cfg m o).peer.currentStatus =
      statusAfter cfg m.peer.currentStatus (observe cfg m o).peer.consecutiveFailures
        (observe cfg m o).peer.consecutiveSuccesses o.succeeded := by
  have hpeer := observe_peer cfg m hquiet
  rw [hpeer]
  show nextStatus cfg (o.count m.peer) o.record = _
  rw [nextStatus_eq, count_status]
  rfl

theorem observe_monitorOps :
    monitorOps (observe cfg m o).effects =
      monitorOps m.effects ++
        changeOps m.peer.currentStatus (observe cfg m o).peer.currentStatus := by
  have hpeer := observe_peer cfg m hquiet
  rw [hpeer]
  rcases observe_quiet cfg m hquiet with ⟨trusted, hout, hobserve⟩
  rw [hobserve, (maybeTransition_quiet cfg _ o.record hout).right, count_status]

end Quiet

/-!
## Pairing

The last monitor entry says whether an outage is open; every status change keeps it
so, and the entries alternate.
-/

structure Paired (m : Monitored) : Prop where
  known : m.peer.currentStatus ≠ PeerStatus.unreachable
  alternates :
    Alternates MonitorOp.monitorDown MonitorOp.monitorUp (monitorOps m.effects)
  opened : m.peer.currentStatus = PeerStatus.dead <->
    (monitorOps m.effects).getLast? = some MonitorOp.monitorDown

/-- A peer that has just been put on the dashboard. -/
def Monitored.fresh (entry : PeerEntry) (lastAlertFired : List (String × Instant)) :
    Monitored :=
  { peer := PeerState.init entry, lastAlertFired := lastAlertFired, effects := [] }

theorem paired_fresh (entry : PeerEntry) (lastAlertFired : List (String × Instant)) :
    Paired (Monitored.fresh entry lastAlertFired) := by
  constructor
  · exact fun h => by cases h
  · exact trivial
  · exact iff_of_false (fun h => by cases h) (fun h => by cases h)

/-- A failed observation leaves a peer `ALIVE` only with too few failures. -/
theorem failures_lt_of_alive {cfg : EngineConfig} {prev : PeerStatus} {failures successes : Nat}
    (h : statusAfter cfg prev failures successes false = PeerStatus.alive) :
    failures < cfg.downAfter := by
  unfold statusAfter at h
  simp only [Bool.false_eq_true, if_false] at h
  split at h
  · cases h
  · rename_i hshort
    exact Nat.lt_of_not_le (fun hreach => hshort ⟨h, hreach⟩)

theorem statusAfter_cases (cfg : EngineConfig) {prev : PeerStatus}
    (hknown : prev ≠ PeerStatus.unreachable) (failures successes : Nat)
    (succeeded : Bool) :
    let new := statusAfter cfg prev failures successes succeeded
    new = prev ∨ (prev = PeerStatus.unknown ∧ new = PeerStatus.alive) ∨
      (prev = PeerStatus.alive ∧ new = PeerStatus.dead) ∨
      (prev = PeerStatus.dead ∧ new = PeerStatus.alive) := by
  unfold statusAfter
  cases succeeded with
  | true =>
      simp only [if_true]
      split
      · cases prev <;> simp_all
      · exact Or.inl rfl
  | false =>
      simp only [Bool.false_eq_true, if_false]
      split
      · rename_i hdown
        exact Or.inr (Or.inr (Or.inl ⟨hdown.left, rfl⟩))
      · exact Or.inl rfl

theorem Paired.observe (cfg : EngineConfig) {m : Monitored} (h : Paired m)
    {o : Observation} (hquiet : o.Quiet) : Paired (observe cfg m o) := by
  have hops := observe_monitorOps cfg m hquiet
  have hstatus := observe_status cfg m hquiet
  rcases alternates_snoc h.alternates with ⟨hdown, hup⟩
  have hcases := statusAfter_cases cfg h.known
    (Liveness.observe cfg m o).peer.consecutiveFailures
    (Liveness.observe cfg m o).peer.consecutiveSuccesses o.succeeded
  rw [← hstatus] at hcases
  rcases hcases with hsame | ⟨hprev, hnew⟩ | ⟨hprev, hnew⟩ | ⟨hprev, hnew⟩
  · rw [hsame, changeOps, if_pos (Or.inl rfl), List.append_nil] at hops
    exact ⟨by rw [hsame]; exact h.known, by rw [hops]; exact h.alternates,
      by rw [hsame, hops]; exact h.opened⟩
  · rw [hprev, changeOps, if_pos (Or.inr rfl), List.append_nil] at hops
    have hclosed : ¬ (monitorOps m.effects).getLast? = some MonitorOp.monitorDown := by
      rw [← h.opened, hprev]
      decide
    refine ⟨by rw [hnew]; decide, by rw [hops]; exact h.alternates, ?_⟩
    rw [hnew, hops]
    exact iff_of_false (by decide) hclosed
  · have hclosed : ¬ (monitorOps m.effects).getLast? = some MonitorOp.monitorDown := by
      rw [← h.opened, hprev]
      decide
    have hnewops : monitorOps (Liveness.observe cfg m o).effects =
        monitorOps m.effects ++ [MonitorOp.monitorDown] := by
      rw [hops, hprev, hnew]
      rfl
    exact ⟨by rw [hnew]; decide, by rw [hnewops]; exact hdown hclosed,
      by rw [hnew, hnewops]; simp⟩
  · have hopen : (monitorOps m.effects).getLast? = some MonitorOp.monitorDown :=
      h.opened.mp hprev
    have hnewops : monitorOps (Liveness.observe cfg m o).effects =
        monitorOps m.effects ++ [MonitorOp.monitorUp] := by
      rw [hops, hprev, hnew]
      rfl
    exact ⟨by rw [hnew]; decide, by rw [hnewops]; exact hup hopen,
      by rw [hnew, hnewops]; simp⟩

end Liveness
end PanicMonitr
