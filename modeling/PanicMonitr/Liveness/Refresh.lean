import PanicMonitr.Foundation.Machine
import PanicMonitr.Foundation.Sequences
import PanicMonitr.Liveness.Transition

/-!
# The node refresh

When the pulls from a peer that answers its probes keep failing, the engine tears its
iroh node down and builds a new one.  The machine has the periodic cycles, what they have
in flight, and the refresh tasks; between two awaits of the code nothing else runs.
-/

namespace PanicMonitr
namespace Liveness

open Foundation

/-!
## State
-/

/-- The options of the refresh as the engine keeps them: clamped at construction. -/
structure RefreshConfig where
  refreshAfterFailures : Nat
  refreshCooldownSeconds : Nat
  pushToTargets : List String

def RefreshConfig.make (refreshAfterFailures refreshCooldownSeconds : Int)
    (pushTo : List String) : RefreshConfig :=
  { refreshAfterFailures := (max 0 refreshAfterFailures).toNat
    refreshCooldownSeconds := (max 0 refreshCooldownSeconds).toNat
    pushToTargets := pushTo }

/-- The fields of a `PeerState` the refresh reads. -/
structure PullState where
  currentStatus : PeerStatus
  consecutivePullFailures : Nat
  deriving DecidableEq

/-- `_pull_one_peer_dashboard`: it waits for the semaphore, then holds on to its `state`. -/
inductive PullTask where
  | queued (nodeId : String)
  | running (nodeId : String) (state : Option Nat)
  deriving DecidableEq

/-- `_maybe_rebuild_iroh`, before the first check, at the lock, and past the teardown. -/
inductive RebuildStage where
  | scheduled
  | waiting
  | building
  deriving DecidableEq

structure RebuildTask where
  triggerPeerId : String
  stage : RebuildStage
  deriving DecidableEq

/-- How `_build_iroh_node` ends; it may raise after it has assigned `self._iroh`. -/
inductive BuildOutcome (node : Type) where
  | built (iroh : node)
  | raised
  | raisedAfter (iroh : node)
  deriving DecidableEq

/--
The engine.  `devices` and the tasks refer to the `PeerState` objects by their place in
`objects`.  `builds` and `failed` are history variables: the calls of `_build_iroh_node`,
and the peer that triggered the last rebuild if it failed.
-/
structure RefreshState (node : Type) where
  iroh : Option node
  lastIrohRebuild : Option Instant
  objects : List PullState
  devices : List (String × Nat)
  probes : List Nat
  pushes : List String
  pulls : List PullTask
  rebuilds : List RebuildTask
  builds : Nat
  failed : Option String
  deriving DecidableEq

/-- How a pull ends: with an answer, with an exception, or with an answer that is no dict. -/
inductive PullOutcome where
  | answered
  | raised
  | dropped
  deriving DecidableEq

inductive RefreshEvent (node : Type) where
  | heartbeatCycle (reload : Option (List (String × PeerStatus)))
  | pushCycle
  | dashboardPull (now : Instant) (viewers monitors : List String)
  | probed (task : Nat) (status : PeerStatus)
  | pushed (task : Nat)
  | received (nodeId : String) (status : PeerStatus)
  | admitted (task : Nat)
  | pulled (task : Nat) (outcome : PullOutcome)
  | reload (peers : List (String × PeerStatus))
  | rebuild (task : Nat) (now : Instant)
  | build (task : Nat) (now : Instant) (outcome : BuildOutcome node)

namespace RefreshState

variable {node : Type} (cfg : RefreshConfig)

/-!
## Devices
-/

/-- `_load_devices()`: new objects, whose status is hydrated from history. -/
def loadDevices (peers : List (String × PeerStatus)) (s : RefreshState node) :
    RefreshState node :=
  { s with
    objects := s.objects ++ peers.map (fun peer =>
      { currentStatus := peer.2, consecutivePullFailures := 0 })
    devices := (peers.map Prod.fst).zip (List.range' s.objects.length peers.length) }

def setStatus (i : Nat) (status : PeerStatus) (s : RefreshState node) : RefreshState node :=
  { s with
    objects := s.objects.modify i (fun peer => { peer with currentStatus := status }) }

def setPullFailures (i n : Nat) (s : RefreshState node) : RefreshState node :=
  { s with
    objects := s.objects.modify i (fun peer => { peer with consecutivePullFailures := n }) }

/-!
## The cycles
-/

/-- `_run_heartbeat_cycle()`, with what `_check_reload` found. -/
def runHeartbeatCycle (reload : Option (List (String × PeerStatus)))
    (s : RefreshState node) : RefreshState node :=
  match s.iroh with
  | none => s
  | some _ =>
      let s :=
        match reload with
        | none => s
        | some peers => s.loadDevices peers
      { s with probes := s.probes ++ s.devices.map Prod.snd }

/-- `_run_push_cycle()` -/
def runPushCycle (s : RefreshState node) : RefreshState node :=
  match s.iroh with
  | none => s
  | some _ => { s with pushes := s.pushes ++ cfg.pushToTargets }

/-- `_run_peer_dashboard_pull()`: each peer once, in the order of the two lists. -/
def runPeerDashboardPull (viewers monitors : List String) (s : RefreshState node) :
    RefreshState node :=
  match s.iroh with
  | none => s
  | some _ =>
      { s with pulls := s.pulls ++ (viewers ++ monitors).eraseDups.map PullTask.queued }

/-!
## Pulls
-/

/-- `_record_pull_failure(state, node_id)` -/
def recordPullFailure (state : Option Nat) (nodeId : String) (s : RefreshState node) :
    RefreshState node :=
  match state with
  | none => s
  | some i =>
      match s.objects[i]? with
      | none => s
      | some peer =>
          let failures := peer.consecutivePullFailures + 1
          let s := s.setPullFailures i failures
          if cfg.refreshAfterFailures = 0 then s
          else if failures < cfg.refreshAfterFailures then s
          else if peer.currentStatus ≠ PeerStatus.alive then s
          else
            { s with
              rebuilds := s.rebuilds ++
                [{ triggerPeerId := nodeId, stage := RebuildStage.scheduled }] }

/-- The semaphore lets a pull in; without a node the fetch raises at once. -/
def startPull (task : Nat) (s : RefreshState node) : RefreshState node :=
  match s.pulls[task]? with
  | some (PullTask.queued nodeId) =>
      let state := Assoc.get? nodeId s.devices
      match s.iroh with
      | none => recordPullFailure cfg state nodeId { s with pulls := s.pulls.eraseIdx task }
      | some _ => { s with pulls := s.pulls.set task (PullTask.running nodeId state) }
  | _ => s

/-- The end of `_pull_one_peer_dashboard_inner`, its relay retry included. -/
def endPull (task : Nat) (outcome : PullOutcome) (s : RefreshState node) :
    RefreshState node :=
  match s.pulls[task]? with
  | some (PullTask.running nodeId state) =>
      let s := { s with pulls := s.pulls.eraseIdx task }
      match outcome with
      | PullOutcome.answered =>
          match state with
          | none => s
          | some i => s.setPullFailures i 0
      | PullOutcome.raised => recordPullFailure cfg state nodeId s
      | PullOutcome.dropped => s
  | _ => s

/-!
## The rebuild
-/

def coolingDown (now : Instant) (s : RefreshState node) : Bool :=
  match s.lastIrohRebuild with
  | none => false
  | some last => now - last < (cfg.refreshCooldownSeconds : Int) * microsPerSecond

/-- `self._iroh_rebuild_lock.locked()` -/
def locked (s : RefreshState node) : Bool :=
  s.rebuilds.any (fun task => decide (task.stage = RebuildStage.building))

/-- The checks of `_maybe_rebuild_iroh`; the second one, under the lock, tears the node down. -/
def maybeRebuildIroh (task : Nat) (now : Instant) (s : RefreshState node) :
    RefreshState node :=
  match s.rebuilds[task]? with
  | some ⟨triggerPeerId, RebuildStage.scheduled⟩ =>
      if coolingDown cfg now s then { s with rebuilds := s.rebuilds.eraseIdx task }
      else { s with rebuilds := s.rebuilds.set task ⟨triggerPeerId, RebuildStage.waiting⟩ }
  | some ⟨triggerPeerId, RebuildStage.waiting⟩ =>
      if s.locked then s
      else if coolingDown cfg now s then { s with rebuilds := s.rebuilds.eraseIdx task }
      else
        { s with
          iroh := none
          rebuilds := s.rebuilds.set task ⟨triggerPeerId, RebuildStage.building⟩ }
  | _ => s

/-- Every peer of the dashboard gets its pull-failure counter reset. -/
def resetPullFailures (s : RefreshState node) : RefreshState node :=
  s.devices.foldl (fun s device => s.setPullFailures device.2 0) s

/-- The call of `_build_iroh_node`, and the rest of the task. -/
def buildIrohNode (task : Nat) (now : Instant) (outcome : BuildOutcome node)
    (s : RefreshState node) : RefreshState node :=
  match s.rebuilds[task]? with
  | some ⟨triggerPeerId, RebuildStage.building⟩ =>
      let s :=
        { s with
          rebuilds := s.rebuilds.eraseIdx task
          lastIrohRebuild := some now
          builds := s.builds + 1 }
      match outcome with
      | BuildOutcome.built iroh =>
          { s.resetPullFailures with iroh := some iroh, failed := none }
      | BuildOutcome.raised => { s with failed := some triggerPeerId }
      | BuildOutcome.raisedAfter iroh =>
          { s with iroh := some iroh, failed := some triggerPeerId }
  | _ => s

def receive (nodeId : String) (status : PeerStatus) (s : RefreshState node) :
    RefreshState node :=
  match s.iroh, Assoc.get? nodeId s.devices with
  | some _, some i => s.setStatus i status
  | _, _ => s

def endProbe (task : Nat) (status : PeerStatus) (s : RefreshState node) :
    RefreshState node :=
  match s.probes[task]? with
  | none => s
  | some i => { s.setStatus i status with probes := s.probes.eraseIdx task }

def step (s : RefreshState node) : RefreshEvent node -> RefreshState node
  | RefreshEvent.heartbeatCycle reload => s.runHeartbeatCycle reload
  | RefreshEvent.pushCycle => s.runPushCycle cfg
  | RefreshEvent.dashboardPull _ viewers monitors => s.runPeerDashboardPull viewers monitors
  | RefreshEvent.probed task status => s.endProbe task status
  | RefreshEvent.pushed task => { s with pushes := s.pushes.eraseIdx task }
  | RefreshEvent.received nodeId status => s.receive nodeId status
  | RefreshEvent.admitted task => s.startPull cfg task
  | RefreshEvent.pulled task outcome => s.endPull cfg task outcome
  | RefreshEvent.reload peers => s.loadDevices peers
  | RefreshEvent.rebuild task now => s.maybeRebuildIroh cfg task now
  | RefreshEvent.build task now outcome => s.buildIrohNode task now outcome

/-- Nothing is in flight. -/
structure Idle (s : RefreshState node) : Prop where
  probes : s.probes = []
  pushes : s.pushes = []
  pulls : s.pulls = []
  rebuilds : s.rebuilds = []

/-- After `init()`: a node, the dashboard, and nothing in flight. -/
structure Start (s : RefreshState node) : Prop where
  built : s.iroh ≠ none
  fresh : s.lastIrohRebuild = none ∧ s.failed = none ∧ s.builds = 1
  idle : s.Idle

end RefreshState

def refresh (node : Type) (cfg : RefreshConfig) :
    Machine (RefreshState node) (RefreshEvent node) :=
  { start := RefreshState.Start, step := RefreshState.step cfg }

/-!
## A node that is always there

As long as every build gets to assign `self._iroh`, the engine is without a node only
while a rebuild is under way.
-/

namespace RefreshState

variable {node : Type} (cfg : RefreshConfig)

theorem locked_iff {s : RefreshState node} :
    s.locked = true <-> exists task, task ∈ s.rebuilds ∧ task.stage = RebuildStage.building := by
  unfold locked
  rw [List.any_eq_true]
  simp only [decide_eq_true_iff]

/-- What `_record_pull_failure` leaves alone; at most it schedules a task. -/
theorem recordPullFailure_keeps (state : Option Nat) (nodeId : String)
    (s : RefreshState node) :
    (recordPullFailure cfg state nodeId s).iroh = s.iroh ∧
      forall task, task ∈ s.rebuilds -> task ∈ (recordPullFailure cfg state nodeId s).rebuilds := by
  unfold recordPullFailure
  cases state with
  | none => exact ⟨rfl, fun task htask => htask⟩
  | some i =>
      simp only
      split
      · exact ⟨rfl, fun task htask => htask⟩
      · split
        · exact ⟨rfl, fun task htask => htask⟩
        split
        · exact ⟨rfl, fun task htask => htask⟩
        split
        · exact ⟨rfl, fun task htask => htask⟩
        · exact ⟨rfl, fun task htask => List.mem_append_left _ htask⟩

def Served (s : RefreshState node) : Prop :=
  s.iroh = none -> s.locked = true

theorem Served.of_kept {s s' : RefreshState node} (h : Served s) (hiroh : s'.iroh = s.iroh)
    (hkept : forall task, task ∈ s.rebuilds -> task.stage = RebuildStage.building ->
      task ∈ s'.rebuilds) : Served s' := by
  intro hnone
  rw [hiroh] at hnone
  rcases locked_iff.mp (h hnone) with ⟨task, htask, hstage⟩
  exact locked_iff.mpr ⟨task, hkept task htask hstage, hstage⟩

theorem Served.maybeRebuildIroh {s : RefreshState node} (h : Served s) (task : Nat)
    (now : Instant) : Served (s.maybeRebuildIroh cfg task now) := by
  unfold RefreshState.maybeRebuildIroh
  split
  · rename_i triggerPeerId htask
    have hother : forall t : RebuildTask, t.stage = RebuildStage.building ->
        t ≠ ⟨triggerPeerId, RebuildStage.scheduled⟩ := by
      intro t ht heq
      rw [heq] at ht
      cases ht
    split
    · exact h.of_kept rfl (fun t ht hstage => mem_eraseIdx_of_ne htask ht (hother t hstage))
    · exact h.of_kept rfl (fun t ht hstage => mem_set_of_ne htask ht (hother t hstage))
  · rename_i triggerPeerId htask
    split
    · exact h
    rename_i hfree
    split
    · -- the lock is free, so a node is there
      intro hnone
      exact absurd (h hnone) hfree
    · intro _
      have hlt : task < s.rebuilds.length := (List.getElem?_eq_some_iff.mp htask).choose
      exact locked_iff.mpr ⟨_, List.mem_set hlt _, rfl⟩
  · exact h

/-- The build gets as far as assigning `self._iroh`. -/
def Assigns (_ : RefreshState node) : RefreshEvent node -> Prop
  | RefreshEvent.build _ _ BuildOutcome.raised => False
  | _ => True

theorem Served.buildIrohNode {s : RefreshState node} (h : Served s) (task : Nat)
    (now : Instant) {outcome : BuildOutcome node}
    (hassigns : Assigns s (RefreshEvent.build task now outcome)) :
    Served (s.buildIrohNode task now outcome) := by
  unfold RefreshState.buildIrohNode
  split
  · cases outcome with
    | built iroh =>
        intro hnone
        cases hnone
    | raised => exact False.elim hassigns
    | raisedAfter iroh =>
        intro hnone
        cases hnone
  · exact h

theorem Served.step {s : RefreshState node} (h : Served s) {e : RefreshEvent node}
    (hassigns : Assigns s e) : Served (s.step cfg e) := by
  have hsame : forall {s' : RefreshState node}, s'.iroh = s.iroh ->
      s'.rebuilds = s.rebuilds -> Served s' := by
    intro s' hiroh hrebuilds
    refine h.of_kept hiroh (fun task htask _ => ?_)
    rw [hrebuilds]
    exact htask
  have hfailed : forall {s' : RefreshState node} (state : Option Nat) (nodeId : String),
      s'.iroh = s.iroh -> s'.rebuilds = s.rebuilds ->
        Served (recordPullFailure cfg state nodeId s') := by
    intro s' state nodeId hiroh hrebuilds
    rcases recordPullFailure_keeps cfg state nodeId s' with ⟨hnode, htasks⟩
    refine h.of_kept (hnode.trans hiroh) (fun task htask _ => htasks task ?_)
    rw [hrebuilds]
    exact htask
  cases e with
  | heartbeatCycle reload =>
      show Served (s.runHeartbeatCycle reload)
      unfold runHeartbeatCycle
      split
      · exact h
      · cases reload <;> exact hsame rfl rfl
  | pushCycle =>
      show Served (s.runPushCycle cfg)
      unfold runPushCycle
      split
      · exact h
      · exact hsame rfl rfl
  | dashboardPull now viewers monitors =>
      show Served (s.runPeerDashboardPull viewers monitors)
      unfold runPeerDashboardPull
      split
      · exact h
      · exact hsame rfl rfl
  | probed task status =>
      show Served (s.endProbe task status)
      unfold endProbe
      split
      · exact h
      · exact hsame rfl rfl
  | pushed task => exact hsame rfl rfl
  | received nodeId status =>
      show Served (s.receive nodeId status)
      unfold receive
      split
      · exact hsame rfl rfl
      · exact h
  | admitted task =>
      show Served (s.startPull cfg task)
      unfold startPull
      split
      · simp only
        split
        · exact hfailed _ _ rfl rfl
        · exact hsame rfl rfl
      · exact h
  | pulled task outcome =>
      show Served (s.endPull cfg task outcome)
      unfold endPull
      split
      · rename_i nodeId state _
        cases outcome with
        | answered => cases state <;> exact hsame rfl rfl
        | raised => exact hfailed _ _ rfl rfl
        | dropped => exact hsame rfl rfl
      · exact h
  | reload peers => exact hsame rfl rfl
  | rebuild task now => exact h.maybeRebuildIroh cfg task now
  | build task now outcome => exact h.buildIrohNode task now hassigns

/-- In a run whose builds all assign the node, it is missing only during a rebuild. -/
theorem served_of_assigned {past : List (RefreshState node)} {s : RefreshState node}
    (hrun : (refresh node cfg).Run Assigns past s) (hidle : s.Idle) : s.iroh ≠ none := by
  have hserved : Served s :=
    hrun.invariant (fun s (hs : s.Start) hnone => absurd hnone hs.built)
      (fun s e h he => h.step cfg he)
  intro hnone
  have hlocked := hserved hnone
  rw [locked, hidle.rebuilds] at hlocked
  cases hlocked

/-!
## A node that is never there again

Every cycle looks at `self._iroh` first, and only a pull that has failed schedules a
rebuild: once the node is gone and nothing is in flight, nothing brings it back.
-/

/-- A failed rebuild has left the engine without a node, and its peer is `ALIVE`. -/
structure Stranded (triggerPeerId : String) (s : RefreshState node) : Prop where
  enabled : 0 < cfg.refreshAfterFailures
  idle : s.Idle
  missing : s.iroh = none
  failed : s.failed = some triggerPeerId
  target : exists i, Assoc.get? triggerPeerId s.devices = some i ∧
    (s.objects[i]?).map PullState.currentStatus = some PeerStatus.alive

def cooledPulls (triggerPeerId : String) (s : RefreshState node)
    (es : List (RefreshEvent node)) : Nat :=
  es.countP (fun
    | RefreshEvent.dashboardPull now _ monitors =>
        decide (triggerPeerId ∈ monitors) && !s.coolingDown cfg now
    | _ => false)

/--
Once `refresh_after_failures` pull cycles have run after the cooldown and have ended,
`_build_iroh_node` has been called again.
-/
def Retried (triggerPeerId : String) (s : RefreshState node) : Prop :=
  forall es, ((refresh node cfg).exec s es).Idle ->
    cfg.refreshAfterFailures <= cooledPulls cfg triggerPeerId s es ->
      s.builds < ((refresh node cfg).exec s es).builds

/-- `_run_heartbeat_cycle`, `_run_push_cycle`, `_run_peer_dashboard_pull`. -/
def IsCycle : RefreshEvent node -> Prop
  | RefreshEvent.heartbeatCycle _ => True
  | RefreshEvent.pushCycle => True
  | RefreshEvent.dashboardPull _ _ _ => True
  | _ => False

/-- Whatever happens, every later cycle returns without doing anything. -/
def Absorbed (s : RefreshState node) : Prop :=
  forall es e, IsCycle e ->
    (refresh node cfg).step ((refresh node cfg).exec s es) e = (refresh node cfg).exec s es

structure Down (s : RefreshState node) : Prop where
  missing : s.iroh = none
  idle : s.Idle

theorem Down.cycle {s : RefreshState node} (h : Down s) {e : RefreshEvent node}
    (hcycle : IsCycle e) : s.step cfg e = s := by
  cases e with
  | heartbeatCycle reload =>
      show s.runHeartbeatCycle reload = s
      unfold runHeartbeatCycle
      rw [h.missing]
  | pushCycle =>
      show s.runPushCycle cfg = s
      rw [runPushCycle, h.missing]
  | dashboardPull now viewers monitors =>
      show s.runPeerDashboardPull viewers monitors = s
      rw [runPeerDashboardPull, h.missing]
  | _ => exact False.elim hcycle

theorem Down.step {s : RefreshState node} (h : Down s) (e : RefreshEvent node) :
    Down (s.step cfg e) ∧ (s.step cfg e).builds = s.builds := by
  have hsame : forall {s' : RefreshState node}, s' = s -> Down s' ∧ s'.builds = s.builds := by
    intro s' heq
    rw [heq]
    exact ⟨h, rfl⟩
  cases e with
  | heartbeatCycle reload => exact hsame (h.cycle cfg trivial)
  | pushCycle => exact hsame (h.cycle cfg trivial)
  | dashboardPull now viewers monitors => exact hsame (h.cycle cfg trivial)
  | probed task status =>
      apply hsame
      show s.endProbe task status = s
      rw [endProbe, h.idle.probes]
      rfl
  | pushed task =>
      refine ⟨⟨h.missing, h.idle.probes, ?_, h.idle.pulls, h.idle.rebuilds⟩, rfl⟩
      show s.pushes.eraseIdx task = []
      rw [h.idle.pushes]
      rfl
  | received nodeId status =>
      apply hsame
      show s.receive nodeId status = s
      rw [receive, h.missing]
  | admitted task =>
      apply hsame
      show s.startPull cfg task = s
      rw [startPull, h.idle.pulls]
      rfl
  | pulled task outcome =>
      apply hsame
      show s.endPull cfg task outcome = s
      rw [endPull, h.idle.pulls]
      rfl
  | reload peers =>
      exact ⟨⟨h.missing, h.idle.probes, h.idle.pushes, h.idle.pulls, h.idle.rebuilds⟩, rfl⟩
  | rebuild task now =>
      apply hsame
      show s.maybeRebuildIroh cfg task now = s
      rw [RefreshState.maybeRebuildIroh, h.idle.rebuilds]
      rfl
  | build task now outcome =>
      apply hsame
      show s.buildIrohNode task now outcome = s
      rw [RefreshState.buildIrohNode, h.idle.rebuilds]
      rfl

theorem Down.exec {s : RefreshState node} (h : Down s) (es : List (RefreshEvent node)) :
    Down ((refresh node cfg).exec s es) ∧ ((refresh node cfg).exec s es).builds = s.builds := by
  induction es generalizing s with
  | nil => exact ⟨h, rfl⟩
  | cons e es ih =>
      rcases h.step cfg e with ⟨hdown, hbuilds⟩
      rcases ih hdown with ⟨hlater, hsame⟩
      exact ⟨hlater, hsame.trans hbuilds⟩

theorem Down.absorbed {s : RefreshState node} (h : Down s) : Absorbed cfg s :=
  fun es _ hcycle => (h.exec cfg es).left.cycle cfg hcycle

theorem Stranded.down {triggerPeerId : String} {s : RefreshState node}
    (h : Stranded cfg triggerPeerId s) : Down s :=
  ⟨h.missing, h.idle⟩

theorem exists_cooled (s : RefreshState node) : exists now, s.coolingDown cfg now = false := by
  unfold coolingDown
  cases s.lastIrohRebuild with
  | none => exact ⟨0, rfl⟩
  | some last =>
      refine ⟨last + (cfg.refreshCooldownSeconds : Int) * microsPerSecond, ?_⟩
      simp

end RefreshState

open RefreshState

/-- A failed rebuild is never retried, and from then on no cycle does anything. -/
theorem failed_rebuild_not_retried (node : Type) (cfg : RefreshConfig)
    {triggerPeerId : String} {s : RefreshState node} (h : Stranded cfg triggerPeerId s) :
    ¬ Retried cfg triggerPeerId s ∧ Absorbed cfg s := by
  refine ⟨?_, (h.down cfg).absorbed cfg⟩
  intro hretried
  rcases exists_cooled cfg s with ⟨now, hcooled⟩
  let pull : RefreshEvent node := RefreshEvent.dashboardPull now [] [triggerPeerId]
  rcases (h.down cfg).exec cfg (List.replicate cfg.refreshAfterFailures pull) with
    ⟨hdown, hbuilds⟩
  have hcount : cooledPulls cfg triggerPeerId s
      (List.replicate cfg.refreshAfterFailures pull) = cfg.refreshAfterFailures := by
    rw [cooledPulls, List.countP_replicate]
    apply if_pos
    simp only [pull, hcooled, List.mem_singleton, decide_true, Bool.not_false, Bool.and_true]
  have hagain := hretried _ hdown.idle (Nat.le_of_eq hcount.symm)
  rw [hbuilds] at hagain
  exact Nat.lt_irrefl _ hagain

/-! One failed pull, and a build that raises. -/

def refreshOnce : RefreshConfig :=
  RefreshConfig.make 1 60 []

def running : RefreshState Unit where
  iroh := some ()
  lastIrohRebuild := none
  objects := [{ currentStatus := PeerStatus.alive, consecutivePullFailures := 0 }]
  devices := [("peer", 0)]
  probes := []
  pushes := []
  pulls := []
  rebuilds := []
  builds := 1
  failed := none

def failedRebuild : List (RefreshEvent Unit) :=
  [RefreshEvent.dashboardPull 0 [] ["peer"], RefreshEvent.admitted 0,
    RefreshEvent.pulled 0 PullOutcome.raised, RefreshEvent.rebuild 0 1000,
    RefreshEvent.rebuild 0 2000, RefreshEvent.build 0 3000 BuildOutcome.raised]

theorem stranded_failedRebuild :
    Stranded refreshOnce "peer" ((refresh Unit refreshOnce).exec running failedRebuild) :=
  ⟨by decide, ⟨rfl, rfl, rfl, rfl⟩, rfl, rfl, ⟨0, rfl, rfl⟩⟩

theorem failed_rebuild_not_retried_once :
    Stranded refreshOnce "peer" ((refresh Unit refreshOnce).exec running failedRebuild) ∧
      ¬ Retried refreshOnce "peer" ((refresh Unit refreshOnce).exec running failedRebuild) ∧
        Absorbed refreshOnce ((refresh Unit refreshOnce).exec running failedRebuild) :=
  ⟨stranded_failedRebuild, failed_rebuild_not_retried Unit refreshOnce stranded_failedRebuild⟩

/-- The engine comes to such a state, whatever the error message says. -/
theorem failed_rebuild_retry_fails :
    ¬ forall (cfg : RefreshConfig) (triggerPeerId : String) (s : RefreshState Unit),
      (refresh Unit cfg).Reachable (fun _ _ => True) s -> Stranded cfg triggerPeerId s ->
        Retried cfg triggerPeerId s ∧ ¬ Absorbed cfg s := by
  intro hclaim
  have hstart : (refresh Unit refreshOnce).Run (fun _ _ => True) [] running :=
    Machine.Run.start ⟨by decide, ⟨rfl, rfl, rfl⟩, ⟨rfl, rfl, rfl, rfl⟩⟩
  have hguarded : (refresh Unit refreshOnce).Guarded (fun _ _ => True) running failedRebuild :=
    ⟨trivial, trivial, trivial, trivial, trivial, trivial, trivial⟩
  have hretried := hclaim refreshOnce "peer" _ ⟨_, hstart.exec failedRebuild hguarded⟩
    stranded_failedRebuild
  exact hretried.right ((stranded_failedRebuild.down refreshOnce).absorbed refreshOnce)

end Liveness
end PanicMonitr
