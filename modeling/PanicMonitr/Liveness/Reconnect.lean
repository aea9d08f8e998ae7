import PanicMonitr.Liveness.Observation
import PanicMonitr.Foundation.Machine

/-!
# The sync after a reconnect

A transition from `DEAD` to `ALIVE` starts a task that compares the time of the
reconnect with `last_seen` and pulls what was missed.  By then the observation that
caused the reconnect has written its own time into `last_seen`.
-/

namespace PanicMonitr
namespace Liveness

open Foundation
open Trust

/-!
## `_maybe_schedule_reconnect_sync`
-/

inductive SyncStatus where
  | live
  | syncing
  | gap
  | synced
  deriving DecidableEq

/-- The fields of a peer that only syncing writes. -/
structure SyncState where
  syncStatus : SyncStatus
  hasDashboardGap : Bool
  deriving DecidableEq

/-- How a call of `sync_peer` ended. -/
inductive SyncOutcome where
  | merged
  | raised
  deriving DecidableEq

/-- What `sync_peer` leaves of the fields, called with a gap on record. -/
def syncPeer : SyncOutcome -> SyncState
  | SyncOutcome.merged => { syncStatus := SyncStatus.synced, hasDashboardGap := false }
  | SyncOutcome.raised => { syncStatus := SyncStatus.gap, hasDashboardGap := true }

/-- `5 * max(1, interval)` seconds. -/
def gapThreshold (interval : Int) : Int :=
  5 * max 1 interval * microsPerSecond

/-- `_maybe_schedule_reconnect_sync(peer, now)`; the flag says that `sync_peer` is called. -/
def maybeScheduleReconnectSync (logstore : Bool) (interval : Int) (lastSeen : Option Instant)
    (now : Instant) (outcome : SyncOutcome) (sync : SyncState) : SyncState × Bool :=
  if logstore = false then (sync, false)
  else
    match lastSeen with
    | none => (sync, false)
    | some lastSeen =>
        if now - lastSeen < gapThreshold interval then (sync, false)
        else (syncPeer outcome, true)

/-!
## Runs of a peer

The engine makes observations, and the tasks it has started run some time later.
-/

/-- A task of a reconnect at `now`; `called` is known once it has run. -/
structure SyncTask where
  now : Instant
  called : Option Bool
  deriving DecidableEq

/-- An observation that moved the peer from `DEAD` to `ALIVE`, and the success before it. -/
structure Reconnect where
  now : Instant
  previous : Option Instant
  deriving DecidableEq

/--
A peer with its tasks.  The effects are the calls of the last observation; the last two
fields keep what has been observed, for the property alone.
-/
structure SyncHost where
  monitored : Monitored
  sync : SyncState
  tasks : List SyncTask
  reconnects : List Reconnect
  previous : Option Instant

inductive SyncEvent where
  | observe (o : Observation)
  | run (i : Nat) (outcome : SyncOutcome)

def reconnectTimes (effects : List Effect) : List Instant :=
  effects.filterMap (fun
    | Effect.reconnectSync now => some now
    | _ => none)

/-- The peer after an observation, with the calls of this observation. -/
def Monitored.observed (cfg : EngineConfig) (m : Monitored) (o : Observation) : Monitored :=
  observe cfg { m with effects := [] } o

/-- The status went from `DEAD` to `ALIVE`. -/
def Reconnects (m m' : Monitored) : Prop :=
  m.peer.currentStatus = PeerStatus.dead ∧ m'.peer.currentStatus = PeerStatus.alive

instance (m m' : Monitored) : Decidable (Reconnects m m') :=
  inferInstanceAs (Decidable (_ ∧ _))

namespace SyncHost

def observe (cfg : EngineConfig) (o : Observation) (w : SyncHost) : SyncHost :=
  let m := w.monitored.observed cfg o
  { w with
    monitored := m
    tasks := w.tasks ++ (reconnectTimes m.effects).map (fun now => { now := now, called := none })
    reconnects :=
      if Reconnects w.monitored m then
        w.reconnects ++ [{ now := o.record.timestamp, previous := w.previous }]
      else w.reconnects
    previous := if o.Made ∧ o.succeeded then some o.record.timestamp else w.previous }

/-- A task that has not run yet runs; `last_seen` is the one it finds. -/
def runTask (logstore : Bool) (interval : Int) (i : Nat) (outcome : SyncOutcome)
    (w : SyncHost) : SyncHost :=
  match w.tasks[i]? with
  | some { now := now, called := none } =>
      let (sync, called) := maybeScheduleReconnectSync logstore interval
        w.monitored.peer.lastSeen now outcome w.sync
      { w with
        sync := sync
        tasks := w.tasks.set i { now := now, called := some called } }
  | _ => w

end SyncHost

/-- Runs from any state of the peer and any sighting before, with no task started. -/
def syncHosts (cfg : EngineConfig) (logstore : Bool) (interval : Int) :
    Machine SyncHost SyncEvent where
  start w := w.tasks = [] ∧ w.reconnects = []
  step w e :=
    match e with
    | SyncEvent.observe o => w.observe cfg o
    | SyncEvent.run i outcome => w.runTask logstore interval i outcome

/-!
## The property
-/

/-- The success before was long enough ago. -/
def Overdue (interval : Int) (r : Reconnect) : Prop :=
  exists t, t ∈ r.previous ∧ gapThreshold interval <= r.now - t

/-- The task of this reconnect, deciding by the success before it. -/
structure Decides (interval : Int) (r : Reconnect) (task : SyncTask) : Prop where
  now : task.now = r.now
  called : forall called, task.called = some called -> (called = true <-> Overdue interval r)

/-- Every reconnect has its task, which calls `sync_peer` when it should and only then. -/
def GapFilled (interval : Int) (w : SyncHost) : Prop :=
  List.Forall₂ (Decides interval) w.reconnects w.tasks

/-!
## The condition
-/

/-- A task finds a `last_seen` that is not that much older than its reconnect. -/
def Prompt (interval : Int) (w : SyncHost) : SyncEvent -> Prop
  | SyncEvent.observe _ => True
  | SyncEvent.run i _ => forall task, w.tasks[i]? = some task -> task.called = none ->
      forall t, t ∈ w.monitored.peer.lastSeen -> task.now - t < gapThreshold interval

/-- The reconnects whose task has run came soon after a success, or after none. -/
def SoonBack (interval : Int) (w : SyncHost) : Prop :=
  List.Forall₂ (fun r task => task.called ≠ none -> ¬ Overdue interval r) w.reconnects w.tasks

/-!
## What an observation starts
-/

theorem alert_reconnectTimes (cfg : EngineConfig) (m : Monitored) (op : MonitorOp)
    (data : TransitionData) (now : Instant) :
    reconnectTimes (alert cfg m op data now).effects = reconnectTimes m.effects := by
  unfold alert
  split
  · rfl
  · simp [reconnectTimes]

theorem syncOnReconnect_reconnectTimes {m : Monitored} (hcalls : m.effects = [])
    (prev new : PeerStatus) (now : Instant) :
    reconnectTimes (syncOnReconnect m prev new now).effects =
      if prev = PeerStatus.dead ∧ new = PeerStatus.alive then [now] else [] := by
  unfold syncOnReconnect
  by_cases hmove : new = PeerStatus.alive ∧ prev = PeerStatus.dead
  · rw [if_pos hmove, if_pos hmove.symm, Monitored.call_effects, hcalls]
    rfl
  · rw [if_neg hmove, if_neg (fun h => hmove h.symm), hcalls]
    rfl

/-- One sync for a move from `DEAD` to `ALIVE`, and none otherwise. -/
theorem maybeTransition_reconnectTimes (cfg : EngineConfig) (trusted : Option TrustedPeer)
    {m : Monitored} (hcalls : m.effects = []) (record : LatencyRecord) (now : Instant) :
    reconnectTimes (maybeTransition cfg trusted m record now).1.effects =
      if m.peer.currentStatus = PeerStatus.dead ∧
          nextStatus cfg m.peer record = PeerStatus.alive then [now] else [] := by
  have hstay : m.peer.currentStatus = nextStatus cfg m.peer record ->
      reconnectTimes m.effects =
        if m.peer.currentStatus = PeerStatus.dead ∧
          nextStatus cfg m.peer record = PeerStatus.alive then [now] else [] := by
    intro hsame
    rw [if_neg, hcalls]
    · rfl
    · intro h
      have hmove := h.left.symm.trans (hsame.trans h.right)
      cases hmove
  unfold maybeTransition nextStatus at *
  cases hnew : newState cfg m.peer record with
  | none =>
      rw [hnew] at hstay
      exact hstay rfl
  | some new =>
      rw [hnew] at hstay
      simp only [Option.getD_some] at hstay ⊢
      split
      · rename_i hsame
        exact hstay hsame.symm
      · have hmoved := syncOnReconnect_reconnectTimes (m := m.setStatus new) hcalls
          m.peer.currentStatus new now
        split
        · exact hmoved
        · split
          · exact hmoved
          · exact hmoved
          · rw [alert_reconnectTimes, ← hmoved, Monitored.call_effects, reconnectTimes,
              List.filterMap_append]
            exact List.append_nil _

theorem observed_reconnectTimes (cfg : EngineConfig) (m : Monitored) (o : Observation) :
    reconnectTimes (m.observed cfg o).effects =
      if Reconnects m (m.observed cfg o) then [o.record.timestamp] else [] := by
  unfold Monitored.observed
  by_cases hmade : o.Made
  · rw [observe_made cfg _ hmade, maybeTransition_reconnectTimes cfg o.trusted rfl]
    apply if_congr _ rfl rfl
    rw [Reconnects, maybeTransition_peer]
    show (o.count m.peer).currentStatus = _ ∧ _ <-> _
    rw [count_status]
  · rw [observe_skipped cfg _ hmade, if_neg]
    · rfl
    · intro h
      have hmove := h.left.symm.trans h.right
      cases hmove

/-!
## Main result
-/

/-- A reconnect with its task, which has not called `sync_peer`. -/
structure Passed (r : Reconnect) (task : SyncTask) : Prop where
  now : task.now = r.now
  called : forall called, task.called = some called -> called = false

section Runs

variable {cfg : EngineConfig} {interval : Int} {w : SyncHost}

theorem passed_observe (h : List.Forall₂ Passed w.reconnects w.tasks) (o : Observation) :
    List.Forall₂ Passed (w.observe cfg o).reconnects (w.observe cfg o).tasks := by
  unfold SyncHost.observe
  simp only [observed_reconnectTimes]
  split
  · refine List.rel_append h (List.Forall₂.cons ⟨rfl, ?_⟩ List.Forall₂.nil)
    intro called hcalled
    cases hcalled
  · rw [List.map_nil, List.append_nil]
    exact h

/-- A task that finds a recent `last_seen` does not call `sync_peer`. -/
theorem maybeSchedule_recent {logstore : Bool} {lastSeen : Option Instant} {now : Instant}
    (hrecent : forall t, t ∈ lastSeen -> now - t < gapThreshold interval)
    (outcome : SyncOutcome) (sync : SyncState) :
    maybeScheduleReconnectSync logstore interval lastSeen now outcome sync = (sync, false) := by
  unfold maybeScheduleReconnectSync
  split
  · rfl
  · cases lastSeen with
    | none => rfl
    | some t => exact if_pos (hrecent t rfl)

theorem passed_runTask (h : List.Forall₂ Passed w.reconnects w.tasks) (logstore : Bool)
    {i : Nat} {outcome : SyncOutcome} (hprompt : Prompt interval w (SyncEvent.run i outcome)) :
    List.Forall₂ Passed (w.runTask logstore interval i outcome).reconnects
      (w.runTask logstore interval i outcome).tasks := by
  unfold SyncHost.runTask
  split
  · rename_i now htask
    have hrecent := hprompt _ htask rfl
    rw [maybeSchedule_recent hrecent]
    apply forall₂_set h htask
    intro r hpassed
    refine ⟨hpassed.now, ?_⟩
    intro called hcalled
    cases hcalled
    rfl
  · exact h

theorem passed_step (h : List.Forall₂ Passed w.reconnects w.tasks) (logstore : Bool)
    {e : SyncEvent} (hprompt : Prompt interval w e) :
    List.Forall₂ Passed ((syncHosts cfg logstore interval).step w e).reconnects
      ((syncHosts cfg logstore interval).step w e).tasks := by
  cases e with
  | observe o => exact passed_observe h o
  | run i outcome => exact passed_runTask h logstore hprompt

/--
In every run whose tasks find a `last_seen` of their reconnect's time or near it, the
gap is filled exactly if no reconnect came long after the success before it.
-/
theorem gap_filled_iff {past : List SyncHost}
    (hrun : (syncHosts cfg true interval).Run (Prompt interval) past w) :
    GapFilled interval w <-> SoonBack interval w := by
  have hpassed : List.Forall₂ Passed w.reconnects w.tasks := by
    apply hrun.invariant (I := fun w => List.Forall₂ Passed w.reconnects w.tasks)
    · intro w hstart
      rw [hstart.left, hstart.right]
      exact List.Forall₂.nil
    · intro w e h hprompt
      exact passed_step h true hprompt
  constructor
  · intro hfilled
    refine List.Forall₂.mp ?_ hpassed hfilled
    intro r task hnot hdecides hrun hoverdue
    rcases Option.ne_none_iff_exists'.mp hrun with ⟨called, hcalled⟩
    have htrue := (hdecides.called called hcalled).mpr hoverdue
    rw [hnot.called called hcalled] at htrue
    cases htrue
  · intro hsoon
    refine List.Forall₂.mp ?_ hpassed hsoon
    intro r task hnot hback
    refine ⟨hnot.now, ?_⟩
    intro called hcalled
    rw [hnot.called called hcalled]
    apply iff_of_false (fun h => by cases h)
    apply hback
    rw [hcalled]
    exact Option.some_ne_none called

end Runs

/-!
A peer that is seen, then down, and seen again: after twenty seconds, and after a thousand.
-/

def reconnectConfig : EngineConfig :=
  EngineConfig.make "n" 1 1 0

def seenHost : SyncHost where
  monitored := Monitored.fresh { nodeId := "n", alias_ := none } []
  sync := { syncStatus := SyncStatus.live, hasDashboardGap := false }
  tasks := []
  reconnects := []
  previous := none

/-- A push, a failed probe ten seconds later, a push after `seconds`, and the task. -/
def backScript (seconds : Int) : List SyncEvent :=
  [SyncEvent.observe (Observation.push none 0),
    SyncEvent.observe (Observation.probe none none (10 * microsPerSecond)
      (ProbeOutcome.raised "TimeoutError" "")),
    SyncEvent.observe (Observation.push none (seconds * microsPerSecond)),
    SyncEvent.run 0 SyncOutcome.merged]

theorem gap_filled_soon :
    let w := (syncHosts reconnectConfig true 30).exec seenHost (backScript 20)
    w.reconnects = [{ now := 20 * microsPerSecond, previous := some 0 }] ∧
      GapFilled 30 w := by
  have hstart : (syncHosts reconnectConfig true 30).Run (Prompt 30) [] seenHost :=
    Machine.Run.start ⟨rfl, rfl⟩
  have hprompt : (syncHosts reconnectConfig true 30).Guarded (Prompt 30) seenHost
      (backScript 20) := by
    refine ⟨trivial, trivial, trivial, ?_, trivial⟩
    intro task htask _ t ht
    cases htask
    cases ht
    decide
  refine ⟨rfl, (gap_filled_iff (hstart.exec (backScript 20) hprompt)).mpr ?_⟩
  refine List.Forall₂.cons ?_ List.Forall₂.nil
  rintro _ ⟨previous, hprevious, hoverdue⟩
  cases hprevious
  revert hoverdue
  decide

/-- The reconnect comes long after the first push, and its task does nothing. -/
theorem gap_not_filled :
    exists w, (syncHosts reconnectConfig true 30).exec seenHost (backScript 1000) = w ∧
      w.reconnects = [{ now := 1000 * microsPerSecond, previous := some 0 }] ∧
      w.tasks = [{ now := 1000 * microsPerSecond, called := some false }] ∧
      ¬ GapFilled 30 w := by
  refine ⟨_, rfl, rfl, rfl, ?_⟩
  intro h
  have hone : List.Forall₂ (Decides 30)
      [{ now := 1000 * microsPerSecond, previous := some 0 }]
      [{ now := 1000 * microsPerSecond, called := some false }] := h
  cases hone with
  | cons hdecides _ =>
      have hoverdue : Overdue 30 { now := 1000 * microsPerSecond, previous := some 0 } :=
        ⟨0, rfl, by decide⟩
      have hcalled := (hdecides.called false rfl).mpr hoverdue
      cases hcalled

end Liveness
end PanicMonitr
