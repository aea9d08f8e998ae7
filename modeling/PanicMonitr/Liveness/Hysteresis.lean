import PanicMonitr.Liveness.Observation

/-!
# Hysteresis

What the state machine is for, said about the whole sequence of observations: a peer
is down when the last long enough run of failures comes after the last time it came
up.  A fresh peer that only sees probes and pushes follows it.
-/

namespace PanicMonitr
namespace Liveness

open Foundation
open Trust

/-!
## The declarative side
-/

def failureRun (obs : List Observation) : Nat :=
  trailingRun (fun o => !o.succeeded) obs

def successRun (obs : List Observation) : Nat :=
  trailingRun Observation.succeeded obs

def SomeSuccess (obs : List Observation) : Prop :=
  exists o, o ∈ obs ∧ o.succeeded = true

def FirstSuccess (obs : List Observation) : Prop :=
  SomeSuccess obs ∧ ¬ SomeSuccess obs.dropLast

/-- The observations end a failure run that reaches the threshold. -/
def DownHere (cfg : EngineConfig) (obs : List Observation) : Prop :=
  SomeSuccess obs ∧ cfg.downAfter <= failureRun obs

/-- The observations end with the first success, or a run that reaches the threshold. -/
def UpHere (cfg : EngineConfig) (obs : List Observation) : Prop :=
  FirstSuccess obs ∨ cfg.upAfter <= successRun obs

/-- The statuses a peer goes through, the initial one included. -/
def statusTrail (cfg : EngineConfig) : Monitored -> List Observation -> List PeerStatus
  | m, [] => [m.peer.currentStatus]
  | m, o :: obs => m.peer.currentStatus :: statusTrail cfg (observe cfg m o) obs

/-- The status changes from the first `ALIVE` on, each with the entry it is told by. -/
def announcedChanges (trail : List PeerStatus) : List MonitorOp :=
  (changes (trail.dropWhile (fun s => decide (s = PeerStatus.unknown)))).map
    (fun c => eventType c.2)

/-!
## Small facts
-/

theorem failureRun_snoc (obs : List Observation) (o : Observation) :
    failureRun (obs ++ [o]) = if o.succeeded then 0 else failureRun obs + 1 := by
  unfold failureRun
  rw [trailingRun_snoc]
  cases o.succeeded <;> rfl

theorem successRun_snoc (obs : List Observation) (o : Observation) :
    successRun (obs ++ [o]) = if o.succeeded then successRun obs + 1 else 0 := by
  unfold successRun
  rw [trailingRun_snoc]

theorem someSuccess_snoc {obs : List Observation} {o : Observation} :
    SomeSuccess (obs ++ [o]) <-> SomeSuccess obs ∨ o.succeeded = true := by
  constructor
  · rintro ⟨x, hx, hok⟩
    rcases List.mem_append.mp hx with hold | hnew
    · exact Or.inl ⟨x, hold, hok⟩
    · rw [List.mem_singleton] at hnew
      exact Or.inr (hnew ▸ hok)
  · rintro (⟨x, hx, hok⟩ | hok)
    · exact ⟨x, List.mem_append_left _ hx, hok⟩
    · exact ⟨o, List.mem_append_right _ (List.mem_singleton.mpr rfl), hok⟩

theorem not_someSuccess_iff {obs : List Observation} :
    ¬ SomeSuccess obs <-> forall o, o ∈ obs -> o.succeeded = false := by
  constructor
  · intro hnone o ho
    cases hok : o.succeeded with
    | false => rfl
    | true => exact absurd ⟨o, ho, hok⟩ hnone
  · rintro hall ⟨o, ho, hok⟩
    rw [hall o ho] at hok
    cases hok

section Snoc

variable (cfg : EngineConfig) {obs : List Observation} {o : Observation}

theorem downHere_snoc :
    DownHere cfg (obs ++ [o]) <->
      o.succeeded = false ∧ SomeSuccess obs ∧ cfg.downAfter <= failureRun obs + 1 := by
  have hpos := cfg.hdown
  unfold DownHere
  rw [someSuccess_snoc, failureRun_snoc]
  cases o.succeeded with
  | true => simp; omega
  | false => simp

theorem upHere_snoc :
    UpHere cfg (obs ++ [o]) <->
      o.succeeded = true ∧ (¬ SomeSuccess obs ∨ cfg.upAfter <= successRun obs + 1) := by
  have hpos := cfg.hup
  unfold UpHere FirstSuccess
  rw [List.dropLast_concat, someSuccess_snoc, successRun_snoc]
  cases o.succeeded with
  | true => simp
  | false =>
      simp only [Bool.false_eq_true, or_false, if_false, false_and, iff_false]
      rintro (⟨hsome, hnone⟩ | hup)
      · exact hnone hsome
      · omega

end Snoc

/-!
## The invariant
-/

/-- What the state of a fresh peer says about the observations made so far. -/
structure Tracks (cfg : EngineConfig) (obs : List Observation) (m : Monitored) :
    Prop where
  failures : m.peer.consecutiveFailures = failureRun obs
  successes : m.peer.consecutiveSuccesses = successRun obs
  unknown : m.peer.currentStatus = PeerStatus.unknown <-> ¬ SomeSuccess obs
  dead : SomeSuccess obs -> (m.peer.currentStatus = PeerStatus.dead <->
    LastAfter (DownHere cfg) (UpHere cfg) obs)
  paired : Paired m

theorem tracks_fresh (cfg : EngineConfig) (entry : PeerEntry)
    (lastAlertFired : List (String × Instant)) :
    Tracks cfg [] (Monitored.fresh entry lastAlertFired) := by
  have hnone : ¬ SomeSuccess [] := fun ⟨_o, ho, _hok⟩ => by cases ho
  exact {
    failures := rfl
    successes := rfl
    unknown := iff_of_true rfl hnone
    dead := fun hsome => absurd hsome hnone
    paired := paired_fresh entry lastAlertFired }

theorem Tracks.success {cfg : EngineConfig} {obs : List Observation} {m : Monitored}
    (h : Tracks cfg obs m) {o : Observation} (hquiet : o.Quiet)
    (hok : o.succeeded = true) : Tracks cfg (obs ++ [o]) (observe cfg m o) := by
  have hfailures := observe_failures cfg m hquiet
  have hsuccesses := observe_successes cfg m hquiet
  have hstatus := observe_status cfg m hquiet
  have hsome : SomeSuccess (obs ++ [o]) := someSuccess_snoc.mpr (Or.inr hok)
  rw [hsuccesses, h.successes] at hstatus
  simp only [hok, if_true, statusAfter] at hfailures hsuccesses hstatus
  have hpaired : Paired (observe cfg m o) := h.paired.observe cfg hquiet
  refine ⟨?_, ?_, ?_, ?_, hpaired⟩
  · rw [failureRun_snoc, hfailures, if_pos hok]
  · rw [successRun_snoc, hsuccesses, h.successes, if_pos hok]
  · rw [hstatus]
    refine iff_of_false ?_ (not_not_intro hsome)
    split
    · decide
    · rename_i hstay
      exact fun hunknown => hstay (Or.inl hunknown)
  · intro _
    rw [lastAfter_snoc, upHere_snoc, downHere_snoc, hstatus]
    by_cases hfirst : SomeSuccess obs
    · have hknown : m.peer.currentStatus ≠ PeerStatus.unknown :=
        fun hunknown => h.unknown.mp hunknown hfirst
      by_cases hup : cfg.upAfter <= successRun obs + 1
      · rw [if_pos (Or.inr hup)]
        exact iff_of_false (by decide) (fun hlast => hlast.left ⟨hok, Or.inr hup⟩)
      · rw [if_neg (not_or.mpr ⟨hknown, hup⟩), h.dead hfirst]
        simp [hok, hfirst, hup]
    · rw [if_pos (Or.inl (h.unknown.mpr hfirst))]
      exact iff_of_false (by decide) (fun hlast => hlast.left ⟨hok, Or.inl hfirst⟩)

theorem Tracks.failure {cfg : EngineConfig} {obs : List Observation} {m : Monitored}
    (h : Tracks cfg obs m) {o : Observation} (hquiet : o.Quiet)
    (hfail : o.succeeded = false) : Tracks cfg (obs ++ [o]) (observe cfg m o) := by
  have hfailures := observe_failures cfg m hquiet
  have hsuccesses := observe_successes cfg m hquiet
  have hstatus := observe_status cfg m hquiet
  have hsame : SomeSuccess (obs ++ [o]) <-> SomeSuccess obs := by
    rw [someSuccess_snoc, hfail]
    simp
  rw [hfailures, h.failures] at hstatus
  simp only [hfail, Bool.false_eq_true, if_false, statusAfter]
    at hfailures hsuccesses hstatus
  have hpaired : Paired (observe cfg m o) := h.paired.observe cfg hquiet
  refine ⟨?_, ?_, ?_, ?_, hpaired⟩
  · rw [failureRun_snoc, hfailures, h.failures, hfail]
    rfl
  · rw [successRun_snoc, hsuccesses, hfail]
    rfl
  · rw [hsame, ← h.unknown, hstatus]
    split
    · rename_i hdown
      exact iff_of_false (by decide) (by rw [hdown.left]; decide)
    · exact Iff.rfl
  · intro hsome
    have hfirst : SomeSuccess obs := hsame.mp hsome
    rw [lastAfter_snoc, upHere_snoc, downHere_snoc, hstatus, ← h.dead hfirst]
    by_cases hreach : cfg.downAfter <= failureRun obs + 1
    · have hknown : m.peer.currentStatus ≠ PeerStatus.unknown :=
        fun hunknown => h.unknown.mp hunknown hfirst
      have hreal := h.paired.known
      cases hprev : m.peer.currentStatus with
      | alive => simp [hreach, hfail, hfirst]
      | dead => simp [hfail]
      | unknown => exact absurd hprev hknown
      | unreachable => exact absurd hprev hreal
    · simp [hreach, hfail]

theorem tracks_observeAll (cfg : EngineConfig) (entry : PeerEntry)
    (lastAlertFired : List (String × Instant)) (obs : List Observation)
    (hquiet : forall o, o ∈ obs -> o.Quiet) :
    Tracks cfg obs (observeAll cfg (Monitored.fresh entry lastAlertFired) obs) := by
  induction obs using List.reverseRecOn with
  | nil => exact tracks_fresh cfg entry lastAlertFired
  | append_singleton obs o ih =>
      have hbefore := ih (fun x hx => hquiet x (List.mem_append_left _ hx))
      have hlast : o.Quiet :=
        hquiet o (List.mem_append_right _ (List.mem_singleton.mpr rfl))
      rw [observeAll_snoc]
      cases hok : o.succeeded with
      | true => exact hbefore.success hlast hok
      | false => exact hbefore.failure hlast hok

/-!
## The entries are the status changes
-/

/-- An observation never brings `UNKNOWN` back. -/
theorem observe_ne_unknown (cfg : EngineConfig) (m : Monitored) {o : Observation}
    (hquiet : o.Quiet) (hknown : m.peer.currentStatus ≠ PeerStatus.unknown) :
    (observe cfg m o).peer.currentStatus ≠ PeerStatus.unknown := by
  rw [observe_status cfg m hquiet, statusAfter]
  split
  · split
    · decide
    · exact hknown
  · split
    · decide
    · exact hknown

theorem statusTrail_cons (cfg : EngineConfig) (m : Monitored) (obs : List Observation) :
    exists rest, statusTrail cfg m obs = m.peer.currentStatus :: rest := by
  cases obs with
  | nil => exact ⟨[], rfl⟩
  | cons o obs => exact ⟨_, rfl⟩

theorem monitorOps_observeAll (cfg : EngineConfig) (m : Monitored)
    (obs : List Observation) (hquiet : forall o, o ∈ obs -> o.Quiet) :
    monitorOps (observeAll cfg m obs).effects =
      monitorOps m.effects ++ announcedChanges (statusTrail cfg m obs) := by
  induction obs generalizing m with
  | nil =>
      have hnone : announcedChanges [m.peer.currentStatus] = [] := by
        unfold announcedChanges
        rw [List.dropWhile_cons]
        split <;> rfl
      rw [statusTrail, hnone, List.append_nil]
      rfl
  | cons o obs ih =>
      have hhead : o.Quiet := hquiet o (List.mem_cons_self ..)
      have htail := ih (observe cfg m o)
        (fun x hx => hquiet x (List.mem_cons_of_mem o hx))
      have hstep := observe_monitorOps cfg m hhead
      show monitorOps (observeAll cfg (observe cfg m o) obs).effects = _
      rw [htail, hstep, List.append_assoc, statusTrail]
      congr 1
      rcases statusTrail_cons cfg (observe cfg m o) obs with ⟨rest, hrest⟩
      rw [hrest]
      by_cases hunknown : m.peer.currentStatus = PeerStatus.unknown
      · simp [changeOps, announcedChanges, hunknown]
      · have hafter := observe_ne_unknown cfg m hhead hunknown
        unfold announcedChanges changeOps
        rw [List.dropWhile_cons_of_neg (by simpa using hafter),
          List.dropWhile_cons_of_neg (by simpa using hunknown), changes, List.map_append]
        congr 1
        by_cases hsame : (observe cfg m o).peer.currentStatus = m.peer.currentStatus
        · simp [hsame]
        · simp [hsame, hunknown]

/-!
## Main result
-/

/--
A fresh peer without reloads and maintenance: the counters are the trailing runs,
the status is the declarative one, and the monitor entries are the status changes.
-/
theorem observeAll_hysteresis (cfg : EngineConfig) (entry : PeerEntry)
    (lastAlertFired : List (String × Instant)) (obs : List Observation)
    (hquiet : forall o, o ∈ obs -> o.Quiet) :
    let fresh := Monitored.fresh entry lastAlertFired
    let m := observeAll cfg fresh obs
    (m.peer.consecutiveFailures = failureRun obs ∧
      m.peer.consecutiveSuccesses = successRun obs ∧
      (m.peer.consecutiveFailures = 0 ∨ m.peer.consecutiveSuccesses = 0)) ∧
    ((m.peer.currentStatus = PeerStatus.unknown <->
        forall o, o ∈ obs -> o.succeeded = false) ∧
      (SomeSuccess obs ->
        (LastAfter (DownHere cfg) (UpHere cfg) obs ->
          m.peer.currentStatus = PeerStatus.dead) ∧
        (¬ LastAfter (DownHere cfg) (UpHere cfg) obs ->
          m.peer.currentStatus = PeerStatus.alive))) ∧
    (monitorOps m.effects = announcedChanges (statusTrail cfg fresh obs) ∧
      Alternates MonitorOp.monitorDown MonitorOp.monitorUp (monitorOps m.effects)) := by
  intro fresh m
  have htracks : Tracks cfg obs m := tracks_observeAll cfg entry lastAlertFired obs hquiet
  refine ⟨⟨htracks.failures, htracks.successes, ?_⟩, ⟨?_, ?_⟩, ?_, htracks.paired.alternates⟩
  · rw [htracks.failures, htracks.successes]
    rcases List.eq_nil_or_concat obs with hnil | ⟨front, last, hsnoc⟩
    · rw [hnil]
      exact Or.inl rfl
    · rw [hsnoc, List.concat_eq_append, failureRun_snoc, successRun_snoc]
      cases last.succeeded with
      | true => exact Or.inl rfl
      | false => exact Or.inr rfl
  · rw [htracks.unknown, not_someSuccess_iff]
  · intro hsome
    refine ⟨fun hlast => (htracks.dead hsome).mpr hlast, fun hlast => ?_⟩
    have hdead : m.peer.currentStatus ≠ PeerStatus.dead :=
      fun hdead => hlast ((htracks.dead hsome).mp hdead)
    have hunknown : m.peer.currentStatus ≠ PeerStatus.unknown :=
      fun hunknown => htracks.unknown.mp hunknown hsome
    have hknown := htracks.paired.known
    cases hstatus : m.peer.currentStatus with
    | alive => rfl
    | dead => exact absurd hstatus hdead
    | unknown => exact absurd hstatus hunknown
    | unreachable => exact absurd hstatus hknown
  · have hops := monitorOps_observeAll cfg fresh obs hquiet
    rw [hops]
    rfl

/-- Down after two failures, announced once, and up again at the first success. -/
theorem observeAll_hysteresis_outage :
    let obs := [Observation.push none 0,
      Observation.probe none none 1000000 (ProbeOutcome.raised "TimeoutError" ""),
      Observation.probe none none 2000000 (ProbeOutcome.raised "TimeoutError" ""),
      Observation.push none 3000000]
    let m := observeAll (EngineConfig.make "self" 2 1 0)
      (Monitored.fresh { nodeId := "peer", alias_ := none } []) obs
    monitorOps m.effects = [MonitorOp.monitorDown, MonitorOp.monitorUp] ∧
      m.peer.consecutiveSuccesses = successRun obs :=
  ⟨by decide,
    (observeAll_hysteresis (EngineConfig.make "self" 2 1 0)
      { nodeId := "peer", alias_ := none } []
      [Observation.push none 0,
        Observation.probe none none 1000000 (ProbeOutcome.raised "TimeoutError" ""),
        Observation.probe none none 2000000 (ProbeOutcome.raised "TimeoutError" ""),
        Observation.push none 3000000]
      (by decide)).left.right.left⟩

end Liveness
end PanicMonitr
