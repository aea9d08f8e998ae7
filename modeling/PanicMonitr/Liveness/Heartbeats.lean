import PanicMonitr.Foundation.FanOut
import PanicMonitr.Liveness.Reload

/-!
# The heartbeat job in time

The scheduler starts `_run_heartbeat_cycle` once an interval, unless the cycle before still runs.
A cycle dials all its targets, a limited number of them at a time and each for a limited time, and
counts their results one by one.
-/

namespace PanicMonitr
namespace Liveness

open Foundation
open Trust

def PROBE_TIMEOUT_SECONDS : Int := 10
def MAX_CONCURRENT_PROBES : Nat := 50

/-- In microseconds, as all times here. -/
def probeTimeout : Int := PROBE_TIMEOUT_SECONDS * microsPerSecond

/--
The interval of the job, and the time that what the code sets no limit to takes at most: what
follows a dial (the connection type, the lock, the transition with its webhook), and the batch of
rows at the end of a cycle.
-/
structure Pace where
  interval : Int
  settle : Int
  batch : Int
  hinterval : 0 < interval
  hsettle : 0 <= settle
  hbatch : 0 <= batch

/-!
## The job
-/

/-- A `_probe_peer` in flight: the place of its device, and what it read before its dial. -/
structure ProbeTask where
  place : Nat
  before : Option TrustedPeer
  now : Instant

/-- Its dial is over, its result is not counted yet. -/
structure DialResult where
  task : ProbeTask
  outcome : ProbeOutcome
  ended : Int

/-- `last` is the time of the last result that was counted. -/
structure RunningCycle where
  dials : FanOut ProbeTask
  dialled : List DialResult
  last : Int

namespace RunningCycle

/-- `gather` still waits for these. -/
def tasks (c : RunningCycle) : List ProbeTask :=
  c.dials.items ++ c.dialled.map DialResult.task

def pending (c : RunningCycle) : List Nat :=
  c.tasks.map ProbeTask.place

/-- `async with self._probe_semaphore` lets the next dial in. -/
def acquired (c : RunningCycle) (now : Int) : RunningCycle :=
  { c with dials := c.dials.acquire MAX_CONCURRENT_PROBES now }

def ended (c : RunningCycle) (i : Nat) (d : DialResult) : RunningCycle :=
  { c with dials := c.dials.release i, dialled := c.dialled ++ [d] }

def settled (c : RunningCycle) (i : Nat) (now : Int) : RunningCycle :=
  { c with dialled := c.dialled.eraseIdx i, last := now }

/-- Nothing of the cycle is due before this time. -/
def Idle (pace : Pace) (c : RunningCycle) (time : Int) : Prop :=
  c.dials.Idle MAX_CONCURRENT_PROBES probeTimeout time ∧
    (forall d, d ∈ c.dialled -> time <= d.ended + pace.settle) ∧
    (c.pending = [] -> time <= c.last + pace.batch)

instance (pace : Pace) (c : RunningCycle) (time : Int) : Decidable (c.Idle pace time) :=
  inferInstanceAs (Decidable (_ ∧ _ ∧ (_ -> _)))

end RunningCycle

/--
`due` is the next run time the scheduler keeps.  `begun` records when the last cycle began, or the
scheduler itself.
-/
structure HeartbeatJob where
  clock : Int
  due : Int
  begun : Int
  cycle : Option RunningCycle
  peers : List PeerState
  lastAlertFired : List (String × Instant)
  effects : List Effect

/--
What the environment chooses: what `get_peer` and the clock say to each probe of a cycle, which
dial ends how and when, and when the rest of it is done.
-/
inductive JobEvent where
  | tick (dt : Nat)
  | fire (ready : Bool) (reads : Nat -> Option TrustedPeer × Instant)
  | acquire
  | dialled (i : Nat) (outcome : ProbeOutcome)
  | settle (i : Nat) (after : Option TrustedPeer)
  | finished
  | push (place : Nat) (trusted : Option TrustedPeer) (now : Instant)

namespace HeartbeatJob

variable (cfg : EngineConfig)

def observeAt (s : HeartbeatJob) (place : Nat) (o : Observation) : HeartbeatJob :=
  match s.peers[place]? with
  | none => s
  | some peer =>
      let m := observe cfg ⟨peer, s.lastAlertFired, s.effects⟩ o
      { s with
        peers := s.peers.set place m.peer
        lastAlertFired := m.lastAlertFired
        effects := m.effects }

def probes (s : HeartbeatJob) (reads : Nat -> Option TrustedPeer × Instant) : List ProbeTask :=
  ((List.range s.peers.length).map (fun i => ⟨i, (reads i).1, (reads i).2⟩)).filter
    (fun task => decide (OutsideMaintenance task.before task.now))

/-- `_run_heartbeat_cycle`, up to its `gather`; `ready` says whether there is an iroh node. -/
def runHeartbeatCycle (s : HeartbeatJob) (ready : Bool)
    (reads : Nat -> Option TrustedPeer × Instant) : HeartbeatJob :=
  if ready = false ∨ s.peers.isEmpty then s
  else
    { s with
      begun := s.clock
      cycle := some ⟨FanOut.opened s.clock (s.probes reads), [], s.clock⟩ }

/-- The scheduler at the next run time; `max_instances` is 1. -/
def fire (pace : Pace) (s : HeartbeatJob) (ready : Bool)
    (reads : Nat -> Option TrustedPeer × Instant) : HeartbeatJob :=
  if s.due = s.clock then
    let next := { s with due := s.due + pace.interval }
    if s.cycle.isSome then next else next.runHeartbeatCycle ready reads
  else s

def dialled (s : HeartbeatJob) (i : Nat) (outcome : ProbeOutcome) : HeartbeatJob :=
  match s.cycle with
  | none => s
  | some c =>
      match c.dials.running[i]? with
      | none => s
      | some (task, _) => { s with cycle := some (c.ended i ⟨task, outcome, s.clock⟩) }

/-- The rest of `_probe_peer`, under the lock of the device. -/
def settle (s : HeartbeatJob) (i : Nat) (after : Option TrustedPeer) : HeartbeatJob :=
  match s.cycle with
  | none => s
  | some c =>
      match c.dialled[i]? with
      | none => s
      | some d =>
          { s.observeAt cfg d.task.place
              (Observation.probe d.task.before after d.task.now d.outcome) with
            cycle := some (c.settled i s.clock) }

def finished (s : HeartbeatJob) : HeartbeatJob :=
  match s.cycle with
  | none => s
  | some c => if c.pending = [] then { s with cycle := none } else s

def step (pace : Pace) (s : HeartbeatJob) : JobEvent -> HeartbeatJob
  | JobEvent.tick dt => { s with clock := s.clock + dt }
  | JobEvent.fire ready reads => s.fire pace ready reads
  | JobEvent.acquire => { s with cycle := s.cycle.map (fun c => c.acquired s.clock) }
  | JobEvent.dialled i outcome => s.dialled i outcome
  | JobEvent.settle i after => s.settle cfg i after
  | JobEvent.finished => s.finished
  | JobEvent.push place trusted now => s.observeAt cfg place (Observation.push trusted now)

/-- The scheduler has been started, over devices as `_load_devices` builds them. -/
structure Started (pace : Pace) (s : HeartbeatJob) : Prop where
  due : s.due = s.clock + pace.interval
  begun : s.begun = s.clock
  cycle : s.cycle = none
  peers : forall peer, peer ∈ s.peers -> exists rows entry, peer = loadDevice cfg rows entry

end HeartbeatJob

def heartbeatJob (cfg : EngineConfig) (pace : Pace) : Machine HeartbeatJob JobEvent :=
  { start := HeartbeatJob.Started cfg pace, step := HeartbeatJob.step cfg pace }

/-- Time does not pass over what is due. -/
def OnTime (pace : Pace) (s : HeartbeatJob) : JobEvent -> Prop
  | JobEvent.tick dt => s.clock + dt <= s.due ∧
      forall c, c ∈ s.cycle -> c.Idle pace (s.clock + dt)
  | _ => True

instance (pace : Pace) (s : HeartbeatJob) (e : JobEvent) : Decidable (OnTime pace s e) :=
  match e with
  | JobEvent.tick dt => inferInstanceAs (Decidable (s.clock + dt <= s.due ∧
      forall c, c ∈ s.cycle -> c.Idle pace (s.clock + dt)))
  | JobEvent.fire _ _ => isTrue trivial
  | JobEvent.acquire => isTrue trivial
  | JobEvent.dialled _ _ => isTrue trivial
  | JobEvent.settle _ _ => isTrue trivial
  | JobEvent.finished => isTrue trivial
  | JobEvent.push _ _ _ => isTrue trivial

/-!
## A cycle in time
-/

section Cycle

variable {pace : Pace} {n : Nat} {now : Int} {c : RunningCycle} {began : Int}

/-- A cycle over so many devices is over so long after it began. -/
def cycleBound (pace : Pace) (n : Nat) : Int :=
  probeTimeout * (n - 1 + MAX_CONCURRENT_PROBES) / MAX_CONCURRENT_PROBES + pace.settle + pace.batch

/-- The last dial of a cycle is over by then. -/
def DialsOver (n : Nat) (began time : Int) : Prop :=
  MAX_CONCURRENT_PROBES * (time - began) <= probeTimeout * (n - 1 + MAX_CONCURRENT_PROBES)

theorem DialsOver.le {time : Int} (h : DialsOver n began time) :
    time - began <= probeTimeout * (n - 1 + MAX_CONCURRENT_PROBES) / MAX_CONCURRENT_PROBES := by
  rw [Int.le_ediv_iff_mul_le (by decide), mul_comm]
  exact h

structure RunningCycle.Sound (pace : Pace) (n : Nat) (began now : Int) (c : RunningCycle) :
    Prop where
  start : c.dials.began = began
  dials : c.dials.Sound MAX_CONCURRENT_PROBES probeTimeout n now
  nodup : c.pending.Nodup
  made : forall task, task ∈ c.tasks -> OutsideMaintenance task.before task.now
  dialled : forall d, d ∈ c.dialled ->
    now <= d.ended + pace.settle ∧ DialsOver n began d.ended
  last : DialsOver n began (c.last - pace.settle)
  finished : c.pending = [] -> now <= c.last + pace.batch

theorem pending_eq_nil : c.pending = [] <->
    (c.dials.waiting = [] ∧ c.dials.running = []) ∧ c.dialled = [] := by
  unfold RunningCycle.pending RunningCycle.tasks FanOut.items
  simp [and_assoc]

theorem RunningCycle.Sound.bounded (h : c.Sound pace n began now) :
    now <= began + cycleBound pace n := by
  have hsettle := pace.hsettle
  have hbatch := pace.hbatch
  unfold cycleBound
  by_cases hdials : c.dials.waiting = [] ∧ c.dials.running = []
  · cases hdialled : c.dialled with
    | nil =>
        have hfinished := h.finished (pending_eq_nil.mpr ⟨hdials, hdialled⟩)
        have hlast := h.last.le
        linarith
    | cons d rest =>
        rcases h.dialled d (hdialled ▸ List.mem_cons_self ..) with ⟨hlate, hfinished⟩
        have hfinished := hfinished.le
        linarith
  · have hbusy : c.dials.waiting ≠ [] ∨ c.dials.running ≠ [] := by
      rcases Classical.em (c.dials.waiting = []) with hnone | hsome
      · exact Or.inr (fun hrunning => hdials ⟨hnone, hrunning⟩)
      · exact Or.inl hsome
    have hfinished := h.dials.over_by (by decide) hbusy
    rw [h.start] at hfinished
    have hfinished := DialsOver.le hfinished
    linarith

/-!
### Its steps
-/

theorem tasks_opened (now : Int) (tasks : List ProbeTask) :
    (⟨FanOut.opened now tasks, [], now⟩ : RunningCycle).tasks = tasks := by
  simp [RunningCycle.tasks, FanOut.items, FanOut.opened]

theorem tasks_acquired (c : RunningCycle) (now : Int) : (c.acquired now).tasks.Perm c.tasks :=
  (FanOut.items_acquire MAX_CONCURRENT_PROBES now c.dials).append_right _

theorem tasks_ended {i : Nat} {d : DialResult} {since : Int}
    (hi : c.dials.running[i]? = some (d.task, since)) : (c.ended i d).tasks.Perm c.tasks := by
  have hitems : c.dials.items.Perm (d.task :: (c.dials.release i).items) :=
    FanOut.items_release hi
  show ((c.dials.release i).items ++ (c.dialled ++ [d]).map DialResult.task).Perm _
  rw [List.map_append, ← List.append_assoc]
  exact (List.perm_append_singleton d.task _).trans (hitems.symm.append_right _)

theorem tasks_settled {i : Nat} {d : DialResult} (hi : c.dialled[i]? = some d) (now : Int) :
    c.tasks.Perm (d.task :: (c.settled i now).tasks) := by
  rcases List.getElem?_eq_some_iff.mp hi with ⟨hlt, rfl⟩
  have hdialled := ((List.getElem_cons_eraseIdx_perm hlt).symm.map DialResult.task)
  exact (hdialled.append_left _).trans List.perm_middle

theorem RunningCycle.Sound.tick (h : c.Sound pace n began now) {dt : Nat}
    (hidle : c.Idle pace (now + dt)) : c.Sound pace n began (now + dt) :=
  ⟨h.start, h.dials.tick hidle.left, h.nodup, h.made,
    fun d hd => ⟨hidle.right.left d hd, (h.dialled d hd).right⟩, h.last, hidle.right.right⟩

theorem RunningCycle.Sound.acquired (h : c.Sound pace n began now) :
    (c.acquired now).Sound pace n began now := by
  have hperm := tasks_acquired c now
  have hpending : (c.acquired now).pending.Perm c.pending := hperm.map ProbeTask.place
  constructor
  · exact (FanOut.acquire_began MAX_CONCURRENT_PROBES now c.dials).trans h.start
  · exact h.dials.acquire (by decide)
  · exact hpending.nodup_iff.mpr h.nodup
  · exact fun task htask => h.made task (hperm.mem_iff.mp htask)
  · exact h.dialled
  · exact h.last
  · intro hnil
    rw [hnil] at hpending
    exact h.finished hpending.symm.eq_nil

theorem RunningCycle.Sound.ended (h : c.Sound pace n began now) {i : Nat} {task : ProbeTask}
    {since : Int} (hi : c.dials.running[i]? = some (task, since)) (outcome : ProbeOutcome) :
    (c.ended i ⟨task, outcome, now⟩).Sound pace n began now := by
  have hperm := tasks_ended (d := ⟨task, outcome, now⟩) hi
  have hpending : (c.ended i ⟨task, outcome, now⟩).pending.Perm c.pending :=
    hperm.map ProbeTask.place
  have hrunning : c.dials.running ≠ [] := List.ne_nil_of_mem (List.mem_of_getElem? hi)
  constructor
  · exact h.start
  · exact h.dials.release hi
  · exact hpending.nodup_iff.mpr h.nodup
  · exact fun task htask => h.made task (hperm.mem_iff.mp htask)
  · intro d hd
    rcases List.mem_append.mp hd with hold | hnew
    · exact h.dialled d hold
    · rw [List.mem_singleton.mp hnew]
      have hfinished := h.dials.over_by (by decide) (Or.inr hrunning)
      rw [h.start] at hfinished
      exact ⟨Int.le_add_of_nonneg_right pace.hsettle, hfinished⟩
  · exact h.last
  · intro hnil
    rw [hnil] at hpending
    exact absurd (pending_eq_nil.mp hpending.symm.eq_nil).left.right hrunning

theorem RunningCycle.Sound.settled (h : c.Sound pace n began now) {i : Nat} {d : DialResult}
    (hi : c.dialled[i]? = some d) : (c.settled i now).Sound pace n began now := by
  have hperm := tasks_settled hi now
  have hpending : c.pending.Perm (d.task.place :: (c.settled i now).pending) :=
    hperm.map ProbeTask.place
  constructor
  · exact h.start
  · exact h.dials
  · exact (List.nodup_cons.mp (hpending.nodup_iff.mp h.nodup)).right
  · exact fun task htask => h.made task (hperm.mem_iff.mpr (List.mem_cons_of_mem d.task htask))
  · exact fun d' hd' => h.dialled d' (List.mem_of_mem_eraseIdx hd')
  · rcases h.dialled d (List.mem_of_getElem? hi) with ⟨hlate, hfinished⟩
    have hearlier : now - pace.settle <= d.ended := by linarith
    unfold DialsOver at hfinished
    show MAX_CONCURRENT_PROBES * (now - pace.settle - began) <= _
    have hpermits : (0 : Int) <= MAX_CONCURRENT_PROBES := by decide
    have := mul_le_mul_of_nonneg_left (show now - pace.settle - began <= d.ended - began by
      linarith) hpermits
    linarith
  · exact fun _ => Int.le_add_of_nonneg_right pace.hbatch

theorem sound_opened {tasks : List ProbeTask} (hcount : tasks.length <= n) (hn : n ≠ 0)
    (hnodup : (tasks.map ProbeTask.place).Nodup)
    (hmade : forall task, task ∈ tasks -> OutsideMaintenance task.before task.now) :
    (⟨FanOut.opened now tasks, [], now⟩ : RunningCycle).Sound pace n now now := by
  constructor
  · rfl
  · exact FanOut.opened_sound (by decide) hcount
  · unfold RunningCycle.pending
    rw [tasks_opened]
    exact hnodup
  · rw [tasks_opened]
    exact hmade
  · exact fun _ hd => (List.not_mem_nil hd).elim
  · have hpositive : (1 : Int) <= n := by exact_mod_cast Nat.pos_of_ne_zero hn
    have hpermits : (0 : Int) < MAX_CONCURRENT_PROBES := by decide
    have hlimit : (0 : Int) <= probeTimeout := by decide
    have hleft : MAX_CONCURRENT_PROBES * (now - pace.settle - now) <= 0 :=
      mul_nonpos_of_nonneg_of_nonpos hpermits.le (by linarith [pace.hsettle])
    have hright : 0 <= probeTimeout * (n - 1 + MAX_CONCURRENT_PROBES) :=
      mul_nonneg hlimit (by linarith)
    exact hleft.trans hright
  · exact fun _ => Int.le_add_of_nonneg_right pace.hbatch

end Cycle

/-!
## What an action can do
-/

namespace HeartbeatJob

variable (cfg : EngineConfig)

/-- The scheduler has nothing to do, leaves a run out, or starts a cycle. -/
theorem fire_cases (pace : Pace) (s : HeartbeatJob) (ready : Bool)
    (reads : Nat -> Option TrustedPeer × Instant) :
    s.fire pace ready reads = s ∨
      (s.due = s.clock ∧ (s.cycle.isSome ∨ s.peers = [] ∨ ready = false) ∧
        s.fire pace ready reads = { s with due := s.due + pace.interval }) ∨
      (s.due = s.clock ∧ s.cycle = none ∧ s.peers ≠ [] ∧
        s.fire pace ready reads =
          { s with
            due := s.due + pace.interval
            begun := s.clock
            cycle := some ⟨FanOut.opened s.clock (s.probes reads), [], s.clock⟩ }) := by
  unfold fire
  split
  · rename_i hdue
    dsimp only
    split
    · rename_i hrunning
      exact Or.inr (Or.inl ⟨hdue, Or.inl hrunning, rfl⟩)
    · rename_i hrunning
      unfold runHeartbeatCycle
      split
      · rename_i hskips
        rcases hskips with hready | hempty
        · exact Or.inr (Or.inl ⟨hdue, Or.inr (Or.inr hready), rfl⟩)
        · exact Or.inr (Or.inl ⟨hdue, Or.inr (Or.inl (List.isEmpty_iff.mp hempty)), rfl⟩)
      · rename_i hruns
        have hpeers : s.peers ≠ [] :=
          fun hnil => hruns (Or.inr (List.isEmpty_iff.mpr hnil))
        exact Or.inr (Or.inr ⟨hdue, Option.not_isSome_iff_eq_none.mp hrunning, hpeers, rfl⟩)
  · exact Or.inl rfl

theorem dialled_cases (s : HeartbeatJob) (i : Nat) (outcome : ProbeOutcome) :
    s.dialled i outcome = s ∨ exists c task since, s.cycle = some c ∧
      c.dials.running[i]? = some (task, since) ∧
      s.dialled i outcome = { s with cycle := some (c.ended i ⟨task, outcome, s.clock⟩) } := by
  unfold dialled
  split
  · exact Or.inl rfl
  · rename_i c hc
    split
    · exact Or.inl rfl
    · rename_i task since hi
      exact Or.inr ⟨c, task, since, hc, hi, rfl⟩

theorem settle_cases (s : HeartbeatJob) (i : Nat) (after : Option TrustedPeer) :
    s.settle cfg i after = s ∨ exists c d, s.cycle = some c ∧ c.dialled[i]? = some d ∧
      s.settle cfg i after =
        { s.observeAt cfg d.task.place
            (Observation.probe d.task.before after d.task.now d.outcome) with
          cycle := some (c.settled i s.clock) } := by
  unfold settle
  split
  · exact Or.inl rfl
  · rename_i c hc
    split
    · exact Or.inl rfl
    · rename_i d hd
      exact Or.inr ⟨c, d, hc, hd, rfl⟩

theorem finished_cases (s : HeartbeatJob) :
    s.finished = s ∨ exists c, s.cycle = some c ∧ c.pending = [] ∧
      s.finished = { s with cycle := none } := by
  unfold finished
  split
  · exact Or.inl rfl
  · rename_i c hc
    split
    · rename_i hnil
      exact Or.inr ⟨c, hc, hnil, rfl⟩
    · exact Or.inl rfl

/-!
## The job in time
-/

theorem observeAt_frame (s : HeartbeatJob) (place : Nat) (o : Observation) :
    (s.observeAt cfg place o).clock = s.clock ∧ (s.observeAt cfg place o).due = s.due ∧
      (s.observeAt cfg place o).begun = s.begun ∧ (s.observeAt cfg place o).cycle = s.cycle ∧
      (s.observeAt cfg place o).peers.length = s.peers.length := by
  unfold observeAt
  split
  · exact ⟨rfl, rfl, rfl, rfl, rfl⟩
  · exact ⟨rfl, rfl, rfl, rfl, List.length_set⟩

theorem observeAt_other (s : HeartbeatJob) {place p : Nat} (hne : place ≠ p) (o : Observation) :
    (s.observeAt cfg place o).peers[p]? = s.peers[p]? := by
  unfold observeAt
  split
  · rfl
  · exact List.getElem?_set_ne hne

/-- A device after an observation that is made. -/
def observed (o : Observation) (peer : PeerState) : PeerState :=
  { o.count peer with currentStatus := nextStatus cfg (o.count peer) o.record }

theorem observeAt_same (s : HeartbeatJob) {place : Nat} {o : Observation} (hmade : o.Made) :
    (s.observeAt cfg place o).peers[place]? = (s.peers[place]?).map (observed cfg o) := by
  unfold observeAt
  split
  · rename_i hnone
    rw [hnone]
    rfl
  · rename_i peer hpeer
    have hlt : place < s.peers.length := (List.getElem?_eq_some_iff.mp hpeer).1
    show (s.peers.set place _)[place]? = _
    rw [hpeer, List.getElem?_set_self hlt, observe_made cfg _ hmade, maybeTransition_peer]
    rfl

/-- The clock, the next run time and the cycle of a job fit together. -/
structure Sound (pace : Pace) (s : HeartbeatJob) : Prop where
  begun : s.begun <= s.clock
  clock : s.clock <= s.due
  grid : exists i : Nat, s.due = s.begun + (i + 1) * pace.interval
  cycle : forall c, c ∈ s.cycle -> c.Sound pace s.peers.length s.begun s.clock

variable {cfg} {pace : Pace} {s : HeartbeatJob}

theorem Started.sound (h : s.Started cfg pace) : s.Sound pace := by
  have hinterval := pace.hinterval
  constructor
  · exact Int.le_of_eq h.begun
  · rw [h.due]
    exact Int.le_add_of_nonneg_right hinterval.le
  · refine ⟨0, ?_⟩
    rw [h.due, h.begun]
    simp
  · intro c hc
    rw [h.cycle] at hc
    cases hc

theorem length_probes (s : HeartbeatJob) (reads : Nat -> Option TrustedPeer × Instant) :
    (s.probes reads).length <= s.peers.length := by
  unfold probes
  exact (List.length_filter_le _ _).trans (by simp)

theorem nodup_probes (s : HeartbeatJob) (reads : Nat -> Option TrustedPeer × Instant) :
    ((s.probes reads).map ProbeTask.place).Nodup := by
  unfold probes
  have hplaces : ((List.range s.peers.length).map
      (fun i => (⟨i, (reads i).1, (reads i).2⟩ : ProbeTask))).map ProbeTask.place =
        List.range s.peers.length := by
    simp [Function.comp_def]
  apply List.Nodup.sublist (List.filter_sublist.map ProbeTask.place)
  rw [hplaces]
  exact List.nodup_range

theorem mem_probes {reads : Nat -> Option TrustedPeer × Instant} {place : Nat} :
    place ∈ (s.probes reads).map ProbeTask.place <->
      place < s.peers.length ∧ OutsideMaintenance (reads place).1 (reads place).2 := by
  unfold probes
  simp only [List.mem_map, List.mem_filter, List.mem_range, decide_eq_true_eq]
  constructor
  · rintro ⟨task, ⟨⟨i, hi, rfl⟩, hquiet⟩, rfl⟩
    exact ⟨hi, hquiet⟩
  · exact fun ⟨hplace, hquiet⟩ => ⟨_, ⟨⟨place, hplace, rfl⟩, hquiet⟩, rfl⟩

theorem Sound.fire (h : s.Sound pace) (ready : Bool)
    (reads : Nat -> Option TrustedPeer × Instant) : (s.fire pace ready reads).Sound pace := by
  have hinterval := pace.hinterval
  have hlater : s.clock <= s.due + pace.interval := by linarith [h.clock]
  rcases fire_cases pace s ready reads with
    hsame | ⟨_, _, hskipped⟩ | ⟨hdue, _, hpeers, hbegins⟩
  · rw [hsame]
    exact h
  · rw [hskipped]
    refine ⟨h.begun, hlater, ?_, h.cycle⟩
    rcases h.grid with ⟨i, hi⟩
    refine ⟨i + 1, ?_⟩
    show s.due + pace.interval = s.begun + _
    rw [hi]
    push_cast
    ring
  · rw [hbegins]
    constructor
    · exact Int.le_refl s.clock
    · exact hlater
    · refine ⟨0, ?_⟩
      show s.due + pace.interval = s.clock + _
      rw [hdue]
      simp
    · rintro c hc
      cases hc
      have hlength : s.peers.length ≠ 0 :=
        fun hnil => hpeers (List.length_eq_zero_iff.mp hnil)
      apply sound_opened (length_probes s reads) hlength (nodup_probes s reads)
      intro task htask
      exact decide_eq_true_eq.mp (List.mem_filter.mp htask).2

theorem Sound.observeAt (h : s.Sound pace) (cfg : EngineConfig) (place : Nat)
    (o : Observation) : (s.observeAt cfg place o).Sound pace := by
  rcases observeAt_frame cfg s place o with ⟨hclock, hdue, hbegun, hcycle, hlength⟩
  constructor
  · rw [hbegun, hclock]
    exact h.begun
  · rw [hclock, hdue]
    exact h.clock
  · rw [hdue, hbegun]
    exact h.grid
  · rw [hcycle, hlength, hbegun, hclock]
    exact h.cycle

theorem Sound.step (h : s.Sound pace) {e : JobEvent} (hprompt : OnTime pace s e) :
    (s.step cfg pace e).Sound pace := by
  cases e with
  | tick dt =>
      rcases hprompt with ⟨hdue, hidle⟩
      have hlater : s.begun <= s.clock + dt := by linarith [h.begun, Int.natCast_nonneg dt]
      exact ⟨hlater, hdue, h.grid, fun c hc => (h.cycle c hc).tick (hidle c hc)⟩
  | fire ready reads => exact h.fire ready reads
  | acquire =>
      refine ⟨h.begun, h.clock, h.grid, ?_⟩
      intro c hc
      rcases Option.mem_map.mp hc with ⟨c', hc', rfl⟩
      exact (h.cycle c' hc').acquired
  | dialled i outcome =>
      show (s.dialled i outcome).Sound pace
      rcases dialled_cases s i outcome with hsame | ⟨c, task, since, hc, hi, hended⟩
      · rw [hsame]
        exact h
      · rw [hended]
        refine ⟨h.begun, h.clock, h.grid, ?_⟩
        rintro c' hc'
        cases hc'
        exact (h.cycle c hc).ended hi outcome
  | settle i after =>
      show (s.settle cfg i after).Sound pace
      rcases settle_cases cfg s i after with hsame | ⟨c, d, hc, hd, hsettled⟩
      · rw [hsame]
        exact h
      · rw [hsettled]
        have hobserved := h.observeAt cfg d.task.place
          (Observation.probe d.task.before after d.task.now d.outcome)
        refine ⟨hobserved.begun, hobserved.clock, hobserved.grid, ?_⟩
        rintro c' hc'
        cases hc'
        rcases observeAt_frame cfg s d.task.place
          (Observation.probe d.task.before after d.task.now d.outcome) with
          ⟨hclock, _, hbegun, _, hlength⟩
        show (c.settled i s.clock).Sound pace _ _ _
        rw [hlength, hbegun, hclock]
        exact (h.cycle c hc).settled hd
  | finished =>
      show s.finished.Sound pace
      rcases finished_cases s with hsame | ⟨_, _, _, hfinished⟩
      · rw [hsame]
        exact h
      · rw [hfinished]
        exact ⟨h.begun, h.clock, h.grid, fun _ hc => by cases hc⟩
  | push place trusted now => exact h.observeAt cfg place (Observation.push trusted now)

/-!
## One device
-/

def Pending (place : Nat) (s : HeartbeatJob) : Prop :=
  exists c, c ∈ s.cycle ∧ place ∈ c.pending

theorem Sound.bounded (h : s.Sound pace) {c : RunningCycle} (hc : c ∈ s.cycle) :
    s.clock <= s.begun + cycleBound pace s.peers.length :=
  (h.cycle c hc).bounded

end HeartbeatJob

def ProbeOutcome.replied : ProbeOutcome -> Bool
  | reply _ => true
  | raised _ _ => false

theorem succeeded_probe (before after : Option TrustedPeer) (now : Instant)
    (outcome : ProbeOutcome) :
    (Observation.probe before after now outcome).succeeded = outcome.replied := by
  cases outcome <;> rfl

def JobEvent.Skips (place : Nat) : JobEvent -> Prop
  | JobEvent.fire ready reads =>
      ready = false ∨ ¬ OutsideMaintenance (reads place).1 (reads place).2
  | _ => False

namespace HeartbeatJob

variable {cfg : EngineConfig} {pace : Pace} {s : HeartbeatJob}

inductive DeviceStep (cfg : EngineConfig) (place : Nat) (s : HeartbeatJob) (e : JobEvent)
    (s' : HeartbeatJob) : Prop where
  | kept (begun : s'.begun = s.begun) (peer : s'.peers[place]? = s.peers[place]?)
      (pending : s'.Pending place <-> s.Pending place)
  | cycle (begun : s'.begun = s.clock) (peers : s'.peers = s.peers) (due : s.due = s.clock)
      (before : ¬ s.Pending place)
      (after : place < s.peers.length -> ¬ e.Skips place -> s'.Pending place)
  | probed (c : RunningCycle) (d : DialResult) (o : Observation) (running : c ∈ s.cycle)
      (dialled : d ∈ c.dialled) (device : d.task.place = place) (begun : s'.begun = s.begun)
      (before : s.Pending place) (after : ¬ s'.Pending place)
      (outcome : o.succeeded = d.outcome.replied)
      (peer : s'.peers[place]? = (s.peers[place]?).map (observed cfg o))
  | pushed (trusted : Option TrustedPeer) (now : Instant)
      (event : e = JobEvent.push place trusted now) (begun : s'.begun = s.begun)
      (pending : s'.Pending place <-> s.Pending place)
      (peer : s'.peers[place]? =
        (s.peers[place]?).map (observed cfg (Observation.push trusted now)))

theorem not_pending_of_none {place : Nat} (h : s.cycle = none) : ¬ s.Pending place := by
  rintro ⟨c, hc, _⟩
  rw [h] at hc
  cases hc

theorem pending_iff {place : Nat} {c : RunningCycle} (h : s.cycle = some c) :
    s.Pending place <-> place ∈ c.pending := by
  constructor
  · rintro ⟨c', hc', hplace⟩
    rw [h] at hc'
    cases hc'
    exact hplace
  · exact fun hplace => ⟨c, h, hplace⟩

theorem deviceStep_fire (place : Nat) (ready : Bool)
    (reads : Nat -> Option TrustedPeer × Instant) :
    DeviceStep cfg place s (JobEvent.fire ready reads) (s.fire pace ready reads) := by
  rcases fire_cases pace s ready reads with
    hsame | ⟨_, _, hskipped⟩ | ⟨hdue, hnone, _, hbegins⟩
  · rw [hsame]
    exact DeviceStep.kept rfl rfl Iff.rfl
  · rw [hskipped]
    exact DeviceStep.kept rfl rfl Iff.rfl
  · rw [hbegins]
    refine DeviceStep.cycle rfl rfl hdue (not_pending_of_none hnone) ?_
    intro hplace hskips
    have hquiet : OutsideMaintenance (reads place).1 (reads place).2 :=
      Classical.not_not.mp (fun hin => hskips (Or.inr hin))
    refine ⟨_, rfl, ?_⟩
    unfold RunningCycle.pending
    rw [tasks_opened]
    exact mem_probes.mpr ⟨hplace, hquiet⟩

theorem deviceStep_settle (h : s.Sound pace) (place i : Nat) (after : Option TrustedPeer) :
    DeviceStep cfg place s (JobEvent.settle i after) (s.settle cfg i after) := by
  rcases settle_cases cfg s i after with hsame | ⟨c, d, hc, hd, hsettled⟩
  · rw [hsame]
    exact DeviceStep.kept rfl rfl Iff.rfl
  · rw [hsettled]
    have hsound := h.cycle c hc
    have hpending : c.pending.Perm (d.task.place :: (c.settled i s.clock).pending) :=
      (tasks_settled hd s.clock).map ProbeTask.place
    have hnodup := List.nodup_cons.mp (hpending.nodup_iff.mp hsound.nodup)
    have hmade : OutsideMaintenance d.task.before d.task.now :=
      hsound.made d.task ((tasks_settled hd s.clock).mem_iff.mpr (List.mem_cons_self ..))
    rcases observeAt_frame cfg s d.task.place
      (Observation.probe d.task.before after d.task.now d.outcome) with ⟨_, _, hbegun, _, _⟩
    by_cases hplace : d.task.place = place
    · refine DeviceStep.probed c d
        (Observation.probe d.task.before after d.task.now d.outcome) hc
        (List.mem_of_getElem? hd) hplace hbegun ?_ ?_ ?_ ?_
      · exact (pending_iff hc).mpr (hpending.mem_iff.mpr (hplace ▸ List.mem_cons_self ..))
      · rw [pending_iff (c := c.settled i s.clock) rfl, ← hplace]
        exact hnodup.left
      · exact succeeded_probe d.task.before after d.task.now d.outcome
      · rw [← hplace]
        exact observeAt_same cfg s
          (o := Observation.probe d.task.before after d.task.now d.outcome) hmade
    · refine DeviceStep.kept hbegun (observeAt_other cfg s hplace _) ?_
      rw [pending_iff (c := c.settled i s.clock) rfl, pending_iff hc, hpending.mem_iff,
        List.mem_cons]
      exact ⟨Or.inr, fun hor => hor.resolve_left (fun heq => hplace heq.symm)⟩

theorem deviceStep (cfg : EngineConfig) (h : s.Sound pace) (place : Nat) (e : JobEvent) :
    DeviceStep cfg place s e (s.step cfg pace e) := by
  cases e with
  | tick dt => exact DeviceStep.kept rfl rfl Iff.rfl
  | fire ready reads => exact deviceStep_fire place ready reads
  | acquire =>
      refine DeviceStep.kept rfl rfl ?_
      constructor
      · rintro ⟨c, hc, hplace⟩
        rcases Option.mem_map.mp hc with ⟨c', hc', rfl⟩
        have hperm := (tasks_acquired c' s.clock).map ProbeTask.place
        exact ⟨c', hc', hperm.mem_iff.mp hplace⟩
      · rintro ⟨c, hc, hplace⟩
        have hperm := (tasks_acquired c s.clock).map ProbeTask.place
        exact ⟨c.acquired s.clock, Option.mem_map.mpr ⟨c, hc, rfl⟩, hperm.mem_iff.mpr hplace⟩
  | dialled i outcome =>
      show DeviceStep cfg place s _ (s.dialled i outcome)
      rcases dialled_cases s i outcome with hsame | ⟨c, task, since, hc, hi, hended⟩
      · rw [hsame]
        exact DeviceStep.kept rfl rfl Iff.rfl
      · rw [hended]
        have hperm := (tasks_ended (d := ⟨task, outcome, s.clock⟩) hi).map ProbeTask.place
        refine DeviceStep.kept rfl rfl ?_
        rw [pending_iff (c := c.ended i ⟨task, outcome, s.clock⟩) rfl, pending_iff hc]
        exact hperm.mem_iff
  | settle i after => exact deviceStep_settle h place i after
  | finished =>
      show DeviceStep cfg place s _ s.finished
      rcases finished_cases s with hsame | ⟨c, hc, hnil, hfinished⟩
      · rw [hsame]
        exact DeviceStep.kept rfl rfl Iff.rfl
      · rw [hfinished]
        refine DeviceStep.kept rfl rfl ?_
        rw [pending_iff hc, hnil]
        exact iff_of_false (not_pending_of_none rfl) (List.not_mem_nil)
  | push p trusted now =>
      rcases observeAt_frame cfg s p (Observation.push trusted now) with
        ⟨_, _, hbegun, hcycle, _⟩
      have hpending : (s.observeAt cfg p (Observation.push trusted now)).Pending place <->
          s.Pending place := by
        unfold Pending
        rw [hcycle]
      by_cases hp : p = place
      · subst hp
        exact DeviceStep.pushed trusted now rfl hbegun hpending
          (observeAt_same cfg s (o := Observation.push trusted now) trivial)
      · exact DeviceStep.kept hbegun (observeAt_other cfg s hp _) hpending

structure TimeStep (pace : Pace) (s : HeartbeatJob) (e : JobEvent) (s' : HeartbeatJob) : Prop where
  clock : s.clock <= s'.clock
  length : s'.peers.length = s.peers.length
  due : s'.due = s.due ∨ s'.due = s.due + pace.interval ∧ s.due = s.clock ∧
    (s.cycle.isSome ∨ s'.begun = s.clock ∨ s.peers = [] ∨
      exists reads, e = JobEvent.fire false reads)

theorem timeStep_fire (ready : Bool) (reads : Nat -> Option TrustedPeer × Instant) :
    TimeStep pace s (JobEvent.fire ready reads) (s.fire pace ready reads) := by
  rcases fire_cases pace s ready reads with
    hsame | ⟨hdue, hrunning | hempty | hready, hskipped⟩ | ⟨hdue, _, _, hbegins⟩
  · rw [hsame]
    exact ⟨Int.le_refl _, rfl, Or.inl rfl⟩
  · rw [hskipped]
    exact ⟨Int.le_refl _, rfl, Or.inr ⟨rfl, hdue, Or.inl hrunning⟩⟩
  · rw [hskipped]
    exact ⟨Int.le_refl _, rfl, Or.inr ⟨rfl, hdue, Or.inr (Or.inr (Or.inl hempty))⟩⟩
  · rw [hskipped]
    refine ⟨Int.le_refl _, rfl, Or.inr ⟨rfl, hdue, Or.inr (Or.inr (Or.inr ⟨reads, ?_⟩))⟩⟩
    rw [hready]
  · rw [hbegins]
    exact ⟨Int.le_refl _, rfl, Or.inr ⟨rfl, hdue, Or.inr (Or.inl rfl)⟩⟩

theorem timeStep_observeAt (cfg : EngineConfig) (pace : Pace) (s : HeartbeatJob) (e : JobEvent)
    (place : Nat) (o : Observation) :
    TimeStep pace s e (s.observeAt cfg place o) := by
  rcases observeAt_frame cfg s place o with ⟨hclock, hdue, _, _, hlength⟩
  exact ⟨Int.le_of_eq hclock.symm, hlength, Or.inl hdue⟩

theorem timeStep (cfg : EngineConfig) (pace : Pace) (s : HeartbeatJob) (e : JobEvent) :
    TimeStep pace s e (s.step cfg pace e) := by
  cases e with
  | tick dt => exact ⟨Int.le_add_of_nonneg_right (Int.natCast_nonneg dt), rfl, Or.inl rfl⟩
  | fire ready reads => exact timeStep_fire ready reads
  | acquire => exact ⟨Int.le_refl _, rfl, Or.inl rfl⟩
  | dialled i outcome =>
      show TimeStep pace s _ (s.dialled i outcome)
      rcases dialled_cases s i outcome with hsame | ⟨_, _, _, _, _, hended⟩
      · rw [hsame]
        exact ⟨Int.le_refl _, rfl, Or.inl rfl⟩
      · rw [hended]
        exact ⟨Int.le_refl _, rfl, Or.inl rfl⟩
  | settle i after =>
      show TimeStep pace s _ (s.settle cfg i after)
      rcases settle_cases cfg s i after with hsame | ⟨_, d, _, _, hsettled⟩
      · rw [hsame]
        exact ⟨Int.le_refl _, rfl, Or.inl rfl⟩
      · rw [hsettled]
        have hobserved := timeStep_observeAt cfg pace s (JobEvent.settle i after) d.task.place
          (Observation.probe d.task.before after d.task.now d.outcome)
        exact ⟨hobserved.clock, hobserved.length,
          Or.inl (observeAt_frame cfg s _ _).right.left⟩
  | finished =>
      show TimeStep pace s _ s.finished
      rcases finished_cases s with hsame | ⟨_, _, _, hfinished⟩
      · rw [hsame]
        exact ⟨Int.le_refl _, rfl, Or.inl rfl⟩
      · rw [hfinished]
        exact ⟨Int.le_refl _, rfl, Or.inl rfl⟩
  | push place trusted now =>
      exact timeStep_observeAt cfg pace s _ place (Observation.push trusted now)

theorem dialled_step (s : HeartbeatJob) (e : JobEvent) {c : RunningCycle} {d : DialResult}
    (hc : c ∈ (s.step cfg pace e).cycle) (hd : d ∈ c.dialled) :
    (exists c', c' ∈ s.cycle ∧ d ∈ c'.dialled) ∨
      exists i outcome c' since, e = JobEvent.dialled i outcome ∧ c' ∈ s.cycle ∧
        c'.dials.running[i]? = some (d.task, since) ∧ d.outcome = outcome ∧
        d.ended = s.clock := by
  cases e with
  | tick dt => exact Or.inl ⟨c, hc, hd⟩
  | fire ready reads =>
      apply Or.inl
      change c ∈ (s.fire pace ready reads).cycle at hc
      rcases fire_cases pace s ready reads with hsame | ⟨_, _, hskipped⟩ | ⟨_, _, _, hbegins⟩
      · rw [hsame] at hc
        exact ⟨c, hc, hd⟩
      · rw [hskipped] at hc
        exact ⟨c, hc, hd⟩
      · rw [hbegins] at hc
        cases hc
        cases hd
  | acquire =>
      rcases Option.mem_map.mp hc with ⟨c', hc', rfl⟩
      exact Or.inl ⟨c', hc', hd⟩
  | dialled i outcome =>
      change c ∈ (s.dialled i outcome).cycle at hc
      rcases dialled_cases s i outcome with hsame | ⟨c', task, since, hc', hi, hended⟩
      · rw [hsame] at hc
        exact Or.inl ⟨c, hc, hd⟩
      · rw [hended] at hc
        cases hc
        rcases List.mem_append.mp hd with hold | hnew
        · exact Or.inl ⟨c', hc', hold⟩
        · rw [List.mem_singleton.mp hnew]
          exact Or.inr ⟨i, outcome, c', since, rfl, hc', hi, rfl, rfl⟩
  | settle i after =>
      apply Or.inl
      change c ∈ (s.settle cfg i after).cycle at hc
      rcases settle_cases cfg s i after with hsame | ⟨c', _, hc', _, hsettled⟩
      · rw [hsame] at hc
        exact ⟨c, hc, hd⟩
      · rw [hsettled] at hc
        cases hc
        exact ⟨c', hc', List.mem_of_mem_eraseIdx hd⟩
  | finished =>
      apply Or.inl
      change c ∈ s.finished.cycle at hc
      rcases finished_cases s with hsame | ⟨_, _, _, hfinished⟩
      · rw [hsame] at hc
        exact ⟨c, hc, hd⟩
      · rw [hfinished] at hc
        cases hc
  | push place trusted now =>
      apply Or.inl
      change c ∈ (s.observeAt cfg place (Observation.push trusted now)).cycle at hc
      rw [(observeAt_frame cfg s place _).right.right.right.left] at hc
      exact ⟨c, hc, hd⟩

end HeartbeatJob

end Liveness
end PanicMonitr
