import PanicMonitr.Liveness.Refresh

/-!
# When the node is rebuilt

The refresh with a record of what bears on it: pulls that failed or succeeded, tasks that
were scheduled, and rebuilds with the clock readings at their two ends.
-/

namespace PanicMonitr
namespace Liveness

open Foundation

/-!
## The record
-/

/--
Peers stand for their `PeerState` objects; `current` says that the dashboard still has the
object, which a reload replaces while pulls hold on to it.  A rebuild begins at the reading of its second
check and has ended at the reading that is kept as `_last_iroh_rebuild`.
-/
inductive Note where
  | failed (peer : Nat)
  | succeeded (peer : Nat)
  | scheduled (triggerPeerId : String) (peer : Nat) (status : PeerStatus) (current : Bool)
  | begun (now : Instant)
  | ended (now : Instant) (succeeded : Bool)
  | reloaded
  deriving DecidableEq

def lastEnd : List Note -> Option Instant
  | [] => none
  | Note.ended now _ :: _ => some now
  | _ :: notes => lastEnd notes

def underWay : List Note -> Bool
  | [] => false
  | Note.begun _ :: _ => true
  | Note.ended _ _ :: _ => false
  | _ :: notes => underWay notes

/-- The failures of a peer since a note that `stops` the count; notes stand newest first. -/
def failuresSince (stops : Note -> Bool) (peer : Nat) : List Note -> Nat
  | [] => 0
  | note :: notes =>
      if stops note = true then 0
      else (if note = Note.failed peer then 1 else 0) + failuresSince stops peer notes

def isSuccess (peer : Nat) (note : Note) : Bool :=
  note = Note.succeeded peer

def isFresh (peer : Nat) : Note -> Bool
  | Note.ended _ succeeded => succeeded
  | note => isSuccess peer note

/-- What holds of a note when it is made. -/
def NoteLaw (cfg : RefreshConfig) (earlier : List Note) : Note -> Prop
  | Note.begun now =>
      underWay earlier = false ∧ forall last, lastEnd earlier = some last ->
        last + (cfg.refreshCooldownSeconds : Int) * microsPerSecond <= now
  | Note.scheduled _ peer status current =>
      status = PeerStatus.alive ∧ 0 < cfg.refreshAfterFailures ∧
        cfg.refreshAfterFailures <= failuresSince (isSuccess peer) peer earlier ∧
        (current = true ->
          cfg.refreshAfterFailures <= failuresSince (isFresh peer) peer earlier) ∧
        (Note.reloaded ∉ earlier -> current = true)
  | _ => True

/-- Every note was lawful when it was made. -/
def Lawful (cfg : RefreshConfig) : List Note -> Prop
  | [] => True
  | note :: earlier => NoteLaw cfg earlier note ∧ Lawful cfg earlier

/-!
## The engine with its record
-/

namespace RefreshState

variable {node : Type} (cfg : RefreshConfig)

/-- What `_record_pull_failure` is recorded as: the failure, and the task if one was added. -/
def failureNotes (state : Option Nat) (nodeId : String) (s : RefreshState node) : List Note :=
  match state with
  | none => []
  | some i =>
      match s.objects[i]? with
      | none => []
      | some peer =>
          if s.rebuilds.length < (recordPullFailure cfg state nodeId s).rebuilds.length then
            [Note.scheduled nodeId i peer.currentStatus (decide (i ∈ s.devices.map Prod.snd)),
              Note.failed i]
          else [Note.failed i]

def stageOf (task : Nat) (s : RefreshState node) : Option RebuildStage :=
  (s.rebuilds[task]?).map RebuildTask.stage

def notesOf (s : RefreshState node) : RefreshEvent node -> List Note
  | RefreshEvent.heartbeatCycle (some _) => if s.iroh = none then [] else [Note.reloaded]
  | RefreshEvent.reload _ => [Note.reloaded]
  | RefreshEvent.admitted task =>
      match s.pulls[task]?, s.iroh with
      | some (PullTask.queued nodeId), none =>
          failureNotes cfg (Assoc.get? nodeId s.devices) nodeId s
      | _, _ => []
  | RefreshEvent.pulled task outcome =>
      match s.pulls[task]?, outcome with
      | some (PullTask.running _ (some i)), PullOutcome.answered => [Note.succeeded i]
      | some (PullTask.running nodeId state), PullOutcome.raised =>
          failureNotes cfg state nodeId s
      | _, _ => []
  | RefreshEvent.rebuild task now =>
      if s.locked = false ∧ (s.maybeRebuildIroh cfg task now).locked = true then
        [Note.begun now]
      else []
  | RefreshEvent.build task now outcome =>
      if s.stageOf task = some RebuildStage.building then
        [Note.ended now (match outcome with
          | BuildOutcome.built _ => true
          | _ => false)]
      else []
  | _ => []

end RefreshState

structure Recorded (node : Type) where
  engine : RefreshState node
  notes : List Note

def recorded (node : Type) (cfg : RefreshConfig) :
    Machine (Recorded node) (RefreshEvent node) where
  start w := w.engine.Start ∧
    (forall peer, peer ∈ w.engine.objects -> peer.consecutivePullFailures = 0) ∧ w.notes = []
  step w e :=
    { engine := w.engine.step cfg e
      notes := w.engine.notesOf cfg e ++ w.notes }

/-!
## What a step does
-/

namespace RefreshState

variable {node : Type} {cfg : RefreshConfig} {s s' : RefreshState node}

def failuresOf (s : RefreshState node) (i : Nat) : Nat :=
  ((s.objects[i]?).map PullState.consecutivePullFailures).getD 0

def peers (s : RefreshState node) : List Nat :=
  s.devices.map Prod.snd

def building (s : RefreshState node) : Nat :=
  s.rebuilds.countP (fun task => decide (task.stage = RebuildStage.building))

/-- A pull that is under way, or the dashboard, refers to the peer. -/
def Refers (s : RefreshState node) (i : Nat) : Prop :=
  (exists nodeId, PullTask.running nodeId (some i) ∈ s.pulls) ∨ i ∈ s.peers

/-- What neither a failure nor a rebuild does to the peers, the stamp and the lock. -/
structure Untouched (s s' : RefreshState node) : Prop where
  devices : s'.devices = s.devices
  stamp : s'.lastIrohRebuild = s.lastIrohRebuild
  building : s'.building = s.building

/-- What a step does, by what it is recorded as. -/
inductive Noted (cfg : RefreshConfig) (s s' : RefreshState node) : List Note -> Prop where
  | quiet : Untouched s s' -> (forall j, s'.failuresOf j = s.failuresOf j) -> Noted cfg s s' []
  | reloaded : s'.lastIrohRebuild = s.lastIrohRebuild -> s'.building = s.building ->
      (forall j, s'.failuresOf j = s.failuresOf j) ->
      (forall j, j ∈ s'.peers -> s'.failuresOf j = 0) -> Noted cfg s s' [Note.reloaded]
  | succeeded (i : Nat) : Untouched s s' ->
      (forall j, s'.failuresOf j = if j = i then 0 else s.failuresOf j) ->
        Noted cfg s s' [Note.succeeded i]
  | failed (i : Nat) : Untouched s s' ->
      (forall j, s'.failuresOf j = (if j = i then 1 else 0) + s.failuresOf j) ->
        Noted cfg s s' [Note.failed i]
  | scheduled (nodeId : String) (i : Nat) : Untouched s s' -> s.Refers i ->
      0 < cfg.refreshAfterFailures -> cfg.refreshAfterFailures <= s'.failuresOf i ->
      (forall j, s'.failuresOf j = (if j = i then 1 else 0) + s.failuresOf j) ->
        Noted cfg s s'
          [Note.scheduled nodeId i PeerStatus.alive (decide (i ∈ s.peers)), Note.failed i]
  | begun (now : Instant) : s'.devices = s.devices -> s'.lastIrohRebuild = s.lastIrohRebuild ->
      s.building = 0 -> s'.building = 1 -> s.coolingDown cfg now = false ->
      (forall j, s'.failuresOf j = s.failuresOf j) -> Noted cfg s s' [Note.begun now]
  | ended (now : Instant) (succeeded : Bool) : s'.devices = s.devices ->
      s'.lastIrohRebuild = some now -> s'.building + 1 = s.building ->
      (forall j, s'.failuresOf j =
        if succeeded = true ∧ j ∈ s.peers then 0 else s.failuresOf j) ->
        Noted cfg s s' [Note.ended now succeeded]

theorem Untouched.of_rebuilds (hdevices : s'.devices = s.devices)
    (hstamp : s'.lastIrohRebuild = s.lastIrohRebuild) (hrebuilds : s'.rebuilds = s.rebuilds) :
    Untouched s s' where
  devices := hdevices
  stamp := hstamp
  building := by unfold RefreshState.building; rw [hrebuilds]

theorem failuresOf_of_objects (hobjects : s'.objects = s.objects) (j : Nat) :
    s'.failuresOf j = s.failuresOf j := by
  unfold failuresOf
  rw [hobjects]

theorem failuresOf_setStatus (i : Nat) (status : PeerStatus) (s : RefreshState node) (j : Nat) :
    (s.setStatus i status).failuresOf j = s.failuresOf j := by
  unfold setStatus failuresOf
  simp only [List.getElem?_modify]
  split
  · cases s.objects[j]? <;> rfl
  · simp

theorem failuresOf_setPullFailures_ne {i j : Nat} (h : j ≠ i) (n : Nat) (s : RefreshState node) :
    (s.setPullFailures i n).failuresOf j = s.failuresOf j := by
  unfold setPullFailures failuresOf
  simp only [List.getElem?_modify_ne _ _ (Ne.symm h)]

theorem failuresOf_setPullFailures_self {i : Nat} {peer : PullState}
    (h : s.objects[i]? = some peer) (n : Nat) : (s.setPullFailures i n).failuresOf i = n := by
  unfold setPullFailures failuresOf
  simp only [List.getElem?_modify, h, if_pos]
  rfl

theorem failuresOf_of_some {i : Nat} {peer : PullState} (h : s.objects[i]? = some peer) :
    s.failuresOf i = peer.consecutivePullFailures := by
  unfold failuresOf
  rw [h]
  rfl

theorem failuresOf_setPullFailures_zero (i : Nat) (s : RefreshState node) (j : Nat) :
    (s.setPullFailures i 0).failuresOf j = if j = i then 0 else s.failuresOf j := by
  by_cases hj : j = i
  · subst hj
    rw [if_pos rfl]
    cases hpeer : s.objects[j]? with
    | none =>
        unfold setPullFailures failuresOf
        simp only [List.getElem?_modify, hpeer]
        rfl
    | some peer => exact failuresOf_setPullFailures_self hpeer 0
  · rw [if_neg hj, failuresOf_setPullFailures_ne hj]

theorem failuresOf_foldl (devices : List (String × Nat)) (s : RefreshState node) (j : Nat) :
    (devices.foldl (fun s device => s.setPullFailures device.2 0) s).failuresOf j =
      if j ∈ devices.map Prod.snd then 0 else s.failuresOf j := by
  induction devices generalizing s with
  | nil => rfl
  | cons device devices ih =>
      rw [List.foldl_cons, ih, failuresOf_setPullFailures_zero]
      by_cases hlater : j ∈ devices.map Prod.snd
      · rw [if_pos hlater, if_pos (by rw [List.map_cons]; exact List.mem_cons_of_mem _ hlater)]
      · by_cases hfirst : j = device.2
        · rw [if_neg hlater, if_pos hfirst, if_pos (by rw [List.map_cons, hfirst]; simp)]
        · rw [if_neg hlater, if_neg hfirst,
            if_neg (by rw [List.map_cons, List.mem_cons]; exact fun h => h.elim hfirst hlater)]

theorem failuresOf_loadDevices (peers : List (String × PeerStatus)) (s : RefreshState node)
    (j : Nat) : (s.loadDevices peers).failuresOf j = s.failuresOf j := by
  unfold loadDevices failuresOf
  by_cases hj : j < s.objects.length
  · simp only [List.getElem?_append_left hj]
  · have hold : s.objects[j]? = none := List.getElem?_eq_none (Nat.le_of_not_lt hj)
    rw [hold, List.getElem?_append_right (Nat.le_of_not_lt hj), List.getElem?_map]
    cases peers[j - s.objects.length]? <;> rfl

theorem fresh_loadDevices (peers : List (String × PeerStatus)) (s : RefreshState node) (j : Nat)
    (hj : j ∈ (s.loadDevices peers).peers) : (s.loadDevices peers).failuresOf j = 0 := by
  rcases List.mem_map.mp hj with ⟨⟨nodeId, i⟩, hdevice, rfl⟩
  have hplace := List.mem_range'_1.mp (List.of_mem_zip hdevice).right
  rw [failuresOf_loadDevices]
  unfold failuresOf
  rw [List.getElem?_eq_none hplace.left]
  rfl

/-- A failure of this peer schedules a task. -/
def Triggers (cfg : RefreshConfig) (peer : PullState) : Prop :=
  0 < cfg.refreshAfterFailures ∧ cfg.refreshAfterFailures <= peer.consecutivePullFailures + 1 ∧
    peer.currentStatus = PeerStatus.alive

theorem recordPullFailure_triggers {t : RefreshState node} {i : Nat} {nodeId : String}
    {peer : PullState} (hpeer : t.objects[i]? = some peer) (h : Triggers cfg peer) :
    recordPullFailure cfg (some i) nodeId t =
      { t.setPullFailures i (peer.consecutivePullFailures + 1) with
        rebuilds := t.rebuilds ++
          [{ triggerPeerId := nodeId, stage := RebuildStage.scheduled }] } := by
  rcases h with ⟨henabled, henough, halive⟩
  simp only [recordPullFailure, hpeer]
  rw [if_neg (Nat.ne_of_gt henabled), if_neg (Nat.not_lt.mpr henough),
    if_neg (not_not_intro halive)]
  rfl

theorem recordPullFailure_counts {t : RefreshState node} {i : Nat} {nodeId : String}
    {peer : PullState} (hpeer : t.objects[i]? = some peer) (h : ¬ Triggers cfg peer) :
    recordPullFailure cfg (some i) nodeId t =
      t.setPullFailures i (peer.consecutivePullFailures + 1) := by
  simp only [recordPullFailure, hpeer]
  split
  · rfl
  · rename_i henabled
    split
    · rfl
    · rename_i henough
      split
      · rfl
      · rename_i halive
        exact absurd ⟨Nat.pos_of_ne_zero henabled, Nat.le_of_not_lt henough,
          Decidable.of_not_not halive⟩ h

theorem failureNotes_triggers {i : Nat} {nodeId : String} {peer : PullState}
    (hpeer : s.objects[i]? = some peer) (h : Triggers cfg peer) :
    failureNotes cfg (some i) nodeId s =
      [Note.scheduled nodeId i PeerStatus.alive (decide (i ∈ s.peers)), Note.failed i] := by
  simp only [failureNotes, hpeer, recordPullFailure_triggers hpeer h]
  rw [if_pos (by rw [List.length_append]; exact Nat.lt_succ_self _), h.2.2]
  rfl

theorem failureNotes_counts {i : Nat} {nodeId : String} {peer : PullState}
    (hpeer : s.objects[i]? = some peer) (h : ¬ Triggers cfg peer) :
    failureNotes cfg (some i) nodeId s = [Note.failed i] := by
  simp only [failureNotes, hpeer, recordPullFailure_counts hpeer h]
  exact if_neg (Nat.lt_irrefl _)

/-- A failure is counted, and a task is added when the peer is `ALIVE` and has enough of them. -/
theorem noted_recordPullFailure {t : RefreshState node} {state : Option Nat} {nodeId : String}
    (hobjects : t.objects = s.objects) (hdevices : t.devices = s.devices)
    (hstamp : t.lastIrohRebuild = s.lastIrohRebuild) (hrebuilds : t.rebuilds = s.rebuilds)
    (hrefers : forall i, state = some i -> s.Refers i) :
    Noted cfg s (recordPullFailure cfg state nodeId t) (failureNotes cfg state nodeId s) := by
  cases state with
  | none =>
      exact Noted.quiet (Untouched.of_rebuilds hdevices hstamp hrebuilds)
        (failuresOf_of_objects hobjects)
  | some i =>
      cases hpeer : s.objects[i]? with
      | none =>
          have hquiet : recordPullFailure cfg (some i) nodeId t = t := by
            simp only [recordPullFailure, hobjects, hpeer]
          have hnotes : failureNotes cfg (some i) nodeId s = [] := by
            simp only [failureNotes, hpeer]
          rw [hquiet, hnotes]
          exact Noted.quiet (Untouched.of_rebuilds hdevices hstamp hrebuilds)
            (failuresOf_of_objects hobjects)
      | some peer =>
          have hpeer' : t.objects[i]? = some peer := by rw [hobjects, hpeer]
          have hcounted : forall j,
              (t.setPullFailures i (peer.consecutivePullFailures + 1)).failuresOf j =
                (if j = i then 1 else 0) + s.failuresOf j := by
            intro j
            by_cases hj : j = i
            · subst hj
              rw [failuresOf_setPullFailures_self hpeer', failuresOf_of_some hpeer, if_pos rfl,
                Nat.add_comm]
            · rw [failuresOf_setPullFailures_ne hj, failuresOf_of_objects hobjects, if_neg hj,
                Nat.zero_add]
          by_cases htriggers : Triggers cfg peer
          · rw [recordPullFailure_triggers hpeer' htriggers, failureNotes_triggers hpeer htriggers]
            refine Noted.scheduled nodeId i ⟨hdevices, hstamp, ?_⟩ (hrefers i rfl)
              htriggers.left ?_ hcounted
            · unfold RefreshState.building
              rw [List.countP_append, hrebuilds]
              rfl
            · show _ <= (t.setPullFailures i (peer.consecutivePullFailures + 1)).failuresOf i
              rw [failuresOf_setPullFailures_self hpeer']
              exact htriggers.right.left
          · rw [recordPullFailure_counts hpeer' htriggers, failureNotes_counts hpeer htriggers]
            exact Noted.failed i (Untouched.of_rebuilds hdevices hstamp hrebuilds) hcounted

theorem Refers.of_device {nodeId : String} {i : Nat}
    (h : Assoc.get? nodeId s.devices = some i) : s.Refers i :=
  Or.inr (List.mem_map.mpr ⟨(nodeId, i), Assoc.mem_of_get?_eq_some h, rfl⟩)

/-- What a changed list of tasks does to the number of rebuilds that hold the lock. -/
theorem building_set {task : Nat} {old : RebuildTask} (h : s.rebuilds[task]? = some old)
    (new : RebuildTask) {s' : RefreshState node} (hs' : s'.rebuilds = s.rebuilds.set task new) :
    s'.building + (if old.stage = RebuildStage.building then 1 else 0) =
      s.building + (if new.stage = RebuildStage.building then 1 else 0) := by
  have hcount := countP_set_add (p := fun task : RebuildTask =>
    decide (task.stage = RebuildStage.building)) h new
  simp only [decide_eq_true_eq] at hcount
  unfold RefreshState.building
  rw [hs']
  exact hcount

theorem building_eraseIdx {task : Nat} {old : RebuildTask} (h : s.rebuilds[task]? = some old)
    {s' : RefreshState node} (hs' : s'.rebuilds = s.rebuilds.eraseIdx task) :
    s'.building + (if old.stage = RebuildStage.building then 1 else 0) = s.building := by
  have hcount := countP_eraseIdx_add (p := fun task : RebuildTask =>
    decide (task.stage = RebuildStage.building)) h
  simp only [decide_eq_true_eq] at hcount
  unfold RefreshState.building
  rw [hs']
  exact hcount

theorem locked_iff_building : s.locked = true <-> 0 < s.building := by
  rw [locked_iff]
  unfold RefreshState.building
  rw [List.countP_pos_iff]
  simp only [decide_eq_true_eq]

theorem noted_rebuild_idle {task : Nat} {now : Instant}
    (hdevices : (s.maybeRebuildIroh cfg task now).devices = s.devices)
    (hstamp : (s.maybeRebuildIroh cfg task now).lastIrohRebuild = s.lastIrohRebuild)
    (hobjects : (s.maybeRebuildIroh cfg task now).objects = s.objects)
    (hbuilding : (s.maybeRebuildIroh cfg task now).building = s.building) :
    Noted cfg s (s.maybeRebuildIroh cfg task now)
      (s.notesOf cfg (RefreshEvent.rebuild task now)) := by
  have hnotes : s.notesOf cfg (RefreshEvent.rebuild task now) = [] := by
    refine if_neg (fun h => ?_)
    rw [locked_iff_building, hbuilding, <- locked_iff_building, h.left] at h
    cases h.right
  rw [hnotes]
  exact Noted.quiet ⟨hdevices, hstamp, hbuilding⟩ (failuresOf_of_objects hobjects)

/-- A task stays, ends, comes to the lock, or takes it when the cooldown is over. -/
theorem maybeRebuildIroh_cases (cfg : RefreshConfig) (s : RefreshState node) (task : Nat)
    (now : Instant) :
    s.maybeRebuildIroh cfg task now = s ∨
    (exists old, s.rebuilds[task]? = some old ∧ old.stage ≠ RebuildStage.building ∧
      s.maybeRebuildIroh cfg task now = { s with rebuilds := s.rebuilds.eraseIdx task }) ∨
    (exists triggerPeerId, s.rebuilds[task]? = some ⟨triggerPeerId, RebuildStage.scheduled⟩ ∧
      s.maybeRebuildIroh cfg task now =
        { s with rebuilds := s.rebuilds.set task ⟨triggerPeerId, RebuildStage.waiting⟩ }) ∨
    (exists triggerPeerId, s.rebuilds[task]? = some ⟨triggerPeerId, RebuildStage.waiting⟩ ∧
      s.locked = false ∧ s.coolingDown cfg now = false ∧
      s.maybeRebuildIroh cfg task now =
        { s with
          iroh := none
          rebuilds := s.rebuilds.set task ⟨triggerPeerId, RebuildStage.building⟩ }) := by
  cases htask : s.rebuilds[task]? with
  | none => exact Or.inl (by simp only [maybeRebuildIroh, htask])
  | some rebuild =>
      rcases rebuild with ⟨triggerPeerId, stage⟩
      cases stage with
      | scheduled =>
          by_cases hcooling : s.coolingDown cfg now = true
          · refine Or.inr (Or.inl ⟨_, rfl, by simp, ?_⟩)
            simp only [maybeRebuildIroh, htask, hcooling, if_true]
          · refine Or.inr (Or.inr (Or.inl ⟨triggerPeerId, rfl, ?_⟩))
            simp only [maybeRebuildIroh, htask, hcooling]
            rfl
      | waiting =>
          by_cases hlocked : s.locked = true
          · exact Or.inl (by simp only [maybeRebuildIroh, htask, hlocked, if_true])
          · by_cases hcooling : s.coolingDown cfg now = true
            · refine Or.inr (Or.inl ⟨_, rfl, by simp, ?_⟩)
              simp only [maybeRebuildIroh, htask, hlocked, hcooling, if_true]
              rfl
            · refine Or.inr (Or.inr (Or.inr ⟨triggerPeerId, rfl,
                Bool.eq_false_iff.mpr hlocked, Bool.eq_false_iff.mpr hcooling, ?_⟩))
              simp only [maybeRebuildIroh, htask, hlocked, hcooling]
              rfl
      | building => exact Or.inl (by simp only [maybeRebuildIroh, htask])

theorem noted_maybeRebuildIroh (task : Nat) (now : Instant) :
    Noted cfg s (s.maybeRebuildIroh cfg task now)
      (s.notesOf cfg (RefreshEvent.rebuild task now)) := by
  rcases maybeRebuildIroh_cases cfg s task now with
    hnext | ⟨old, htask, hold, hnext⟩ | ⟨triggerPeerId, htask, hnext⟩ |
      ⟨triggerPeerId, htask, hfree, hcooled, hnext⟩
  · exact noted_rebuild_idle (by rw [hnext]) (by rw [hnext]) (by rw [hnext]) (by rw [hnext])
  · have hrebuilds : (s.maybeRebuildIroh cfg task now).rebuilds = s.rebuilds.eraseIdx task := by
      rw [hnext]
    have hbuilding := building_eraseIdx htask hrebuilds
    rw [if_neg hold] at hbuilding
    exact noted_rebuild_idle (by rw [hnext]) (by rw [hnext]) (by rw [hnext]) hbuilding
  · exact noted_rebuild_idle (by rw [hnext]) (by rw [hnext]) (by rw [hnext])
      (building_set htask ⟨triggerPeerId, RebuildStage.waiting⟩ (by rw [hnext]))
  · have hzero : s.building = 0 := by
      refine Nat.eq_zero_of_not_pos (fun hpos => ?_)
      rw [locked_iff_building.mpr hpos] at hfree
      cases hfree
    have hone : (s.maybeRebuildIroh cfg task now).building = 1 := by
      have hrebuilds : (s.maybeRebuildIroh cfg task now).rebuilds =
          s.rebuilds.set task ⟨triggerPeerId, RebuildStage.building⟩ := by
        rw [hnext]
      have hset := building_set htask ⟨triggerPeerId, RebuildStage.building⟩ hrebuilds
      rw [hzero] at hset
      exact hset
    have hnotes : s.notesOf cfg (RefreshEvent.rebuild task now) = [Note.begun now] :=
      if_pos ⟨hfree, locked_iff_building.mpr (by rw [hone]; exact Nat.zero_lt_one)⟩
    rw [hnotes]
    exact Noted.begun now (by rw [hnext]) (by rw [hnext]) hzero hone hcooled
      (failuresOf_of_objects (by rw [hnext]))

theorem failuresOf_resetPullFailures (s : RefreshState node) (j : Nat) :
    s.resetPullFailures.failuresOf j = if j ∈ s.peers then 0 else s.failuresOf j :=
  failuresOf_foldl s.devices s j

theorem resetPullFailures_keeps (s : RefreshState node) :
    s.resetPullFailures.devices = s.devices ∧ s.resetPullFailures.rebuilds = s.rebuilds ∧
      s.resetPullFailures.lastIrohRebuild = s.lastIrohRebuild ∧
      s.resetPullFailures.pulls = s.pulls := by
  have hfold : forall (devices : List (String × Nat)) (t : RefreshState node),
      (devices.foldl (fun s device => s.setPullFailures device.2 0) t).devices = t.devices ∧
      (devices.foldl (fun s device => s.setPullFailures device.2 0) t).rebuilds = t.rebuilds ∧
      (devices.foldl (fun s device => s.setPullFailures device.2 0) t).lastIrohRebuild =
        t.lastIrohRebuild ∧
      (devices.foldl (fun s device => s.setPullFailures device.2 0) t).pulls = t.pulls := by
    intro devices
    induction devices with
    | nil => exact fun t => ⟨rfl, rfl, rfl, rfl⟩
    | cons device devices ih => exact fun t => ih (t.setPullFailures device.2 0)
  exact hfold s.devices s

theorem noted_buildIrohNode (task : Nat) (now : Instant) (outcome : BuildOutcome node) :
    Noted cfg s (s.buildIrohNode task now outcome)
      (s.notesOf cfg (RefreshEvent.build task now outcome)) := by
  by_cases hstage : s.stageOf task = some RebuildStage.building
  · rcases Option.map_eq_some_iff.mp hstage with ⟨rebuild, htask, hbuilding⟩
    rcases rebuild with ⟨triggerPeerId, stage⟩
    cases hbuilding
    have hgone : forall {s' : RefreshState node}, s'.rebuilds = s.rebuilds.eraseIdx task ->
        s'.building + 1 = s.building := building_eraseIdx htask
    cases outcome with
    | built iroh =>
        have hnotes : s.notesOf cfg (RefreshEvent.build task now (BuildOutcome.built iroh)) =
            [Note.ended now true] := if_pos hstage
        rw [hnotes]
        simp only [buildIrohNode, htask]
        rcases resetPullFailures_keeps
          { s with
            rebuilds := s.rebuilds.eraseIdx task
            lastIrohRebuild := some now
            builds := s.builds + 1 } with ⟨hdevices, hrebuilds, hstamp, _⟩
        refine Noted.ended now true hdevices hstamp (hgone hrebuilds) (fun j => ?_)
        exact (failuresOf_resetPullFailures _ j).trans (by simp only [true_and]; rfl)
    | raised =>
        have hnotes : s.notesOf cfg (RefreshEvent.build task now BuildOutcome.raised) =
            [Note.ended now false] := if_pos hstage
        rw [hnotes]
        simp only [buildIrohNode, htask]
        exact Noted.ended now false rfl rfl (hgone rfl) (fun _ => rfl)
    | raisedAfter iroh =>
        have hnotes : s.notesOf cfg (RefreshEvent.build task now (BuildOutcome.raisedAfter iroh)) =
            [Note.ended now false] := if_pos hstage
        rw [hnotes]
        simp only [buildIrohNode, htask]
        exact Noted.ended now false rfl rfl (hgone rfl) (fun _ => rfl)
  · have hsame : s.buildIrohNode task now outcome = s := by
      unfold buildIrohNode
      split
      · rename_i triggerPeerId htask
        exact absurd (by unfold stageOf; rw [htask]; rfl) hstage
      · rfl
    have hnotes : s.notesOf cfg (RefreshEvent.build task now outcome) = [] := if_neg hstage
    rw [hsame, hnotes]
    exact Noted.quiet ⟨rfl, rfl, rfl⟩ (fun _ => rfl)

theorem noted_startPull (task : Nat) :
    Noted cfg s (s.startPull cfg task) (s.notesOf cfg (RefreshEvent.admitted task)) := by
  cases htask : s.pulls[task]? with
  | none =>
      simp only [startPull, notesOf, htask]
      exact Noted.quiet ⟨rfl, rfl, rfl⟩ (fun _ => rfl)
  | some pull =>
      cases pull with
      | queued nodeId =>
          cases hiroh : s.iroh with
          | none =>
              simp only [startPull, notesOf, htask, hiroh]
              exact noted_recordPullFailure rfl rfl rfl rfl (fun i hi => Refers.of_device hi)
          | some iroh =>
              simp only [startPull, notesOf, htask, hiroh]
              exact Noted.quiet (Untouched.of_rebuilds rfl rfl rfl) (fun _ => rfl)
      | running nodeId state =>
          simp only [startPull, notesOf, htask]
          exact Noted.quiet ⟨rfl, rfl, rfl⟩ (fun _ => rfl)

theorem noted_endPull (task : Nat) (outcome : PullOutcome) :
    Noted cfg s (s.endPull cfg task outcome) (s.notesOf cfg (RefreshEvent.pulled task outcome)) := by
  cases htask : s.pulls[task]? with
  | none =>
      simp only [endPull, notesOf, htask]
      exact Noted.quiet ⟨rfl, rfl, rfl⟩ (fun _ => rfl)
  | some pull =>
      cases pull with
      | queued nodeId =>
          simp only [endPull, notesOf, htask]
          exact Noted.quiet ⟨rfl, rfl, rfl⟩ (fun _ => rfl)
      | running nodeId state =>
          cases outcome with
          | answered =>
              cases state with
              | none =>
                  simp only [endPull, notesOf, htask]
                  exact Noted.quiet (Untouched.of_rebuilds rfl rfl rfl) (fun _ => rfl)
              | some i =>
                  simp only [endPull, notesOf, htask]
                  exact Noted.succeeded i (Untouched.of_rebuilds rfl rfl rfl)
                    (failuresOf_setPullFailures_zero i _)
          | raised =>
              simp only [endPull, notesOf, htask]
              refine noted_recordPullFailure rfl rfl rfl rfl (fun i hi => Or.inl ⟨nodeId, ?_⟩)
              rw [<- hi]
              exact List.mem_of_getElem? htask
          | dropped =>
              simp only [endPull, notesOf, htask]
              exact Noted.quiet (Untouched.of_rebuilds rfl rfl rfl) (fun _ => rfl)

theorem noted_step (s : RefreshState node) (e : RefreshEvent node) :
    Noted cfg s (s.step cfg e) (s.notesOf cfg e) := by
  have hsame : forall {s' : RefreshState node}, s'.devices = s.devices ->
      s'.lastIrohRebuild = s.lastIrohRebuild -> s'.rebuilds = s.rebuilds ->
      (forall j, s'.failuresOf j = s.failuresOf j) -> Noted cfg s s' [] :=
    fun hdevices hstamp hrebuilds hcounted =>
      Noted.quiet (Untouched.of_rebuilds hdevices hstamp hrebuilds) hcounted
  cases e with
  | heartbeatCycle reload =>
      show Noted cfg s (s.runHeartbeatCycle reload) _
      cases hiroh : s.iroh with
      | none =>
          have hidle : s.runHeartbeatCycle reload = s := by
            simp only [runHeartbeatCycle, hiroh]
          have hnotes : s.notesOf cfg (RefreshEvent.heartbeatCycle reload) = [] := by
            cases reload with
            | none => rfl
            | some peers => exact if_pos hiroh
          rw [hidle, hnotes]
          exact hsame rfl rfl rfl (fun _ => rfl)
      | some iroh =>
          simp only [runHeartbeatCycle, hiroh]
          cases reload with
          | none => exact hsame rfl rfl rfl (fun _ => rfl)
          | some peers =>
              have hnotes : s.notesOf cfg (RefreshEvent.heartbeatCycle (some peers)) =
                  [Note.reloaded] := if_neg (by rw [hiroh]; simp)
              rw [hnotes]
              exact Noted.reloaded rfl rfl (failuresOf_loadDevices peers s)
                (fresh_loadDevices peers s)
  | pushCycle =>
      show Noted cfg s (s.runPushCycle cfg) []
      unfold runPushCycle
      split
      · exact hsame rfl rfl rfl (fun _ => rfl)
      · exact hsame rfl rfl rfl (fun _ => rfl)
  | dashboardPull now viewers monitors =>
      show Noted cfg s (s.runPeerDashboardPull viewers monitors) []
      unfold runPeerDashboardPull
      split
      · exact hsame rfl rfl rfl (fun _ => rfl)
      · exact hsame rfl rfl rfl (fun _ => rfl)
  | probed task status =>
      show Noted cfg s (s.endProbe task status) []
      unfold endProbe
      split
      · exact hsame rfl rfl rfl (fun _ => rfl)
      · exact hsame rfl rfl rfl (failuresOf_setStatus _ status s)
  | pushed task => exact hsame rfl rfl rfl (fun _ => rfl)
  | received nodeId status =>
      show Noted cfg s (s.receive nodeId status) []
      unfold receive
      split
      · exact hsame rfl rfl rfl (failuresOf_setStatus _ status s)
      · exact hsame rfl rfl rfl (fun _ => rfl)
  | admitted task =>
      exact noted_startPull task
  | pulled task outcome =>
      exact noted_endPull task outcome
  | reload peers =>
      exact Noted.reloaded rfl rfl (failuresOf_loadDevices peers s) (fresh_loadDevices peers s)
  | rebuild task now => exact noted_maybeRebuildIroh task now
  | build task now outcome => exact noted_buildIrohNode task now outcome

/-!
## Where pulls and tasks come from
-/

theorem recordPullFailure_pulls (cfg : RefreshConfig) (state : Option Nat) (nodeId : String)
    (s : RefreshState node) : (recordPullFailure cfg state nodeId s).pulls = s.pulls := by
  cases state with
  | none => rfl
  | some i =>
      cases hpeer : s.objects[i]? with
      | none => simp only [recordPullFailure, hpeer]
      | some peer =>
          by_cases htriggers : Triggers cfg peer
          · rw [recordPullFailure_triggers hpeer htriggers]
            rfl
          · rw [recordPullFailure_counts hpeer htriggers]
            rfl

theorem recordPullFailure_tasks {t : RefreshState node} {state : Option Nat} {nodeId : String}
    {task : RebuildTask} (htask : task ∈ (recordPullFailure cfg state nodeId t).rebuilds)
    (hobjects : t.objects = s.objects) (hrebuilds : t.rebuilds = s.rebuilds) :
    task ∈ s.rebuilds ∨ exists i status current,
      Note.scheduled task.triggerPeerId i status current ∈ failureNotes cfg state nodeId s := by
  cases state with
  | none => exact Or.inl (hrebuilds ▸ htask)
  | some i =>
      cases hpeer : s.objects[i]? with
      | none =>
          have hpeer' : t.objects[i]? = none := by rw [hobjects, hpeer]
          simp only [recordPullFailure, hpeer'] at htask
          exact Or.inl (hrebuilds ▸ htask)
      | some peer =>
          have hpeer' : t.objects[i]? = some peer := by rw [hobjects, hpeer]
          by_cases htriggers : Triggers cfg peer
          · rw [recordPullFailure_triggers hpeer' htriggers] at htask
            rcases List.mem_append.mp htask with hold | hnew
            · exact Or.inl (hrebuilds ▸ hold)
            · refine Or.inr ⟨i, PeerStatus.alive, decide (i ∈ s.peers), ?_⟩
              rw [List.mem_singleton.mp hnew, failureNotes_triggers hpeer htriggers]
              exact List.mem_cons_self
          · rw [recordPullFailure_counts hpeer' htriggers] at htask
            exact Or.inl (hrebuilds ▸ htask)

def Between : RefreshEvent node -> Prop
  | RefreshEvent.admitted _ => False
  | RefreshEvent.pulled _ _ => False
  | RefreshEvent.rebuild _ _ => False
  | RefreshEvent.build _ _ _ => False
  | _ => True

theorem between_keeps {e : RefreshEvent node} (h : Between e) :
    (s.step cfg e).rebuilds = s.rebuilds ∧ forall nodeId state,
      PullTask.running nodeId state ∈ (s.step cfg e).pulls ->
        PullTask.running nodeId state ∈ s.pulls := by
  cases e with
  | heartbeatCycle reload =>
      show (s.runHeartbeatCycle reload).rebuilds = _ ∧ forall _ _, _ ∈ (s.runHeartbeatCycle reload).pulls -> _
      unfold runHeartbeatCycle
      split
      · exact ⟨rfl, fun _ _ hmem => hmem⟩
      · cases reload with
        | none => exact ⟨rfl, fun _ _ hmem => hmem⟩
        | some peers => exact ⟨rfl, fun _ _ hmem => hmem⟩
  | pushCycle =>
      show (s.runPushCycle cfg).rebuilds = _ ∧ forall _ _, _ ∈ (s.runPushCycle cfg).pulls -> _
      unfold runPushCycle
      split
      · exact ⟨rfl, fun _ _ hmem => hmem⟩
      · exact ⟨rfl, fun _ _ hmem => hmem⟩
  | dashboardPull now viewers monitors =>
      show (s.runPeerDashboardPull viewers monitors).rebuilds = _ ∧
        forall _ _, _ ∈ (s.runPeerDashboardPull viewers monitors).pulls -> _
      unfold runPeerDashboardPull
      split
      · exact ⟨rfl, fun _ _ hmem => hmem⟩
      · refine ⟨rfl, fun nodeId state hmem => ?_⟩
        rcases List.mem_append.mp hmem with hold | hnew
        · exact hold
        · rcases List.mem_map.mp hnew with ⟨_, _, hqueued⟩
          cases hqueued
  | probed task status =>
      show (s.endProbe task status).rebuilds = _ ∧ forall _ _, _ ∈ (s.endProbe task status).pulls -> _
      unfold endProbe
      split
      · exact ⟨rfl, fun _ _ hmem => hmem⟩
      · exact ⟨rfl, fun _ _ hmem => hmem⟩
  | pushed task => exact ⟨rfl, fun _ _ hmem => hmem⟩
  | received nodeId status =>
      show (s.receive nodeId status).rebuilds = _ ∧ forall _ _, _ ∈ (s.receive nodeId status).pulls -> _
      unfold receive
      split
      · exact ⟨rfl, fun _ _ hmem => hmem⟩
      · exact ⟨rfl, fun _ _ hmem => hmem⟩
  | reload peers => exact ⟨rfl, fun _ _ hmem => hmem⟩
  | admitted task => exact h.elim
  | pulled task outcome => exact h.elim
  | rebuild task now => exact h.elim
  | build task now outcome => exact h.elim

/-- A pull under way was under way before, or has its peer from the dashboard. -/
theorem pulls_step {e : RefreshEvent node} {nodeId : String} {i : Nat}
    (h : PullTask.running nodeId (some i) ∈ (s.step cfg e).pulls) : s.Refers i := by
  have hkept : PullTask.running nodeId (some i) ∈ s.pulls -> s.Refers i :=
    fun hmem => Or.inl ⟨nodeId, hmem⟩
  have hother : Between e -> s.Refers i :=
    fun hbetween => hkept ((between_keeps hbetween).right _ _ h)
  cases e with
  | admitted task =>
      replace h : PullTask.running nodeId (some i) ∈ (s.startPull cfg task).pulls := h
      unfold startPull at h
      split at h
      · simp only at h
        split at h
        · rw [recordPullFailure_pulls] at h
          exact hkept (List.mem_of_mem_eraseIdx h)
        · rcases List.mem_or_eq_of_mem_set h with h | h
          · exact hkept h
          · exact Refers.of_device (PullTask.running.inj h).right.symm
      · exact hkept h
  | pulled task outcome =>
      replace h : PullTask.running nodeId (some i) ∈ (s.endPull cfg task outcome).pulls := h
      unfold endPull at h
      split at h
      · cases outcome with
        | answered =>
            simp only at h
            split at h
            · exact hkept (List.mem_of_mem_eraseIdx h)
            · exact hkept (List.mem_of_mem_eraseIdx h)
        | raised =>
            simp only at h
            rw [recordPullFailure_pulls] at h
            exact hkept (List.mem_of_mem_eraseIdx h)
        | dropped => exact hkept (List.mem_of_mem_eraseIdx h)
      · exact hkept h
  | rebuild task now =>
      have hpulls : (s.maybeRebuildIroh cfg task now).pulls = s.pulls := by
        rcases maybeRebuildIroh_cases cfg s task now with
          hnext | ⟨_, _, _, hnext⟩ | ⟨_, _, hnext⟩ | ⟨_, _, _, _, hnext⟩ <;> rw [hnext]
      exact hkept (hpulls ▸ h)
  | build task now outcome =>
      have hpulls : (s.buildIrohNode task now outcome).pulls = s.pulls := by
        unfold buildIrohNode
        split
        · cases outcome with
          | built iroh => exact (resetPullFailures_keeps _).2.2.2
          | raised => rfl
          | raisedAfter iroh => rfl
        · rfl
      exact hkept (hpulls ▸ h)
  | heartbeatCycle reload => exact hother trivial
  | pushCycle => exact hother trivial
  | dashboardPull now viewers monitors => exact hother trivial
  | probed task status => exact hother trivial
  | pushed task => exact hother trivial
  | received nodeId status => exact hother trivial
  | reload peers => exact hother trivial

/-- A task was there before, with the same trigger, or is recorded as scheduled. -/
def TaskFrom (s : RefreshState node) (notes : List Note) (task : RebuildTask) : Prop :=
  (exists old, old ∈ s.rebuilds ∧ old.triggerPeerId = task.triggerPeerId) ∨
    exists i status current, Note.scheduled task.triggerPeerId i status current ∈ notes

theorem TaskFrom.kept {notes : List Note} {task : RebuildTask} (h : task ∈ s.rebuilds) :
    s.TaskFrom notes task :=
  Or.inl ⟨task, h, rfl⟩

theorem TaskFrom.set {notes : List Note} {task : RebuildTask} {place : Nat} {nodeId : String}
    {old new : RebuildStage} (hplace : s.rebuilds[place]? = some ⟨nodeId, old⟩)
    (h : task ∈ s.rebuilds.set place ⟨nodeId, new⟩) : s.TaskFrom notes task := by
  rcases List.mem_or_eq_of_mem_set h with hmem | rfl
  · exact TaskFrom.kept hmem
  · exact Or.inl ⟨_, List.mem_of_getElem? hplace, rfl⟩

theorem tasks_startPull {place : Nat} {task : RebuildTask}
    (h : task ∈ (s.startPull cfg place).rebuilds) :
    s.TaskFrom (s.notesOf cfg (RefreshEvent.admitted place)) task := by
  cases hplace : s.pulls[place]? with
  | none =>
      simp only [startPull, hplace] at h
      exact TaskFrom.kept h
  | some pull =>
      cases pull with
      | queued nodeId =>
          cases hiroh : s.iroh with
          | none =>
              simp only [startPull, hplace, hiroh] at h
              simp only [notesOf, hplace, hiroh]
              exact (recordPullFailure_tasks (s := s) h rfl rfl).elim TaskFrom.kept Or.inr
          | some iroh =>
              simp only [startPull, hplace, hiroh] at h
              exact TaskFrom.kept h
      | running nodeId state =>
          simp only [startPull, hplace] at h
          exact TaskFrom.kept h

theorem tasks_endPull {place : Nat} {outcome : PullOutcome} {task : RebuildTask}
    (h : task ∈ (s.endPull cfg place outcome).rebuilds) :
    s.TaskFrom (s.notesOf cfg (RefreshEvent.pulled place outcome)) task := by
  cases hplace : s.pulls[place]? with
  | none =>
      simp only [endPull, hplace] at h
      exact TaskFrom.kept h
  | some pull =>
      cases pull with
      | queued nodeId =>
          simp only [endPull, hplace] at h
          exact TaskFrom.kept h
      | running nodeId state =>
          cases outcome with
          | answered =>
              simp only [endPull, hplace] at h
              split at h
              · exact TaskFrom.kept h
              · exact TaskFrom.kept h
          | raised =>
              simp only [endPull, hplace] at h
              simp only [notesOf, hplace]
              exact (recordPullFailure_tasks (s := s) h rfl rfl).elim TaskFrom.kept Or.inr
          | dropped =>
              simp only [endPull, hplace] at h
              exact TaskFrom.kept h

theorem tasks_maybeRebuildIroh {place : Nat} {now : Instant} {notes : List Note}
    {task : RebuildTask} (h : task ∈ (s.maybeRebuildIroh cfg place now).rebuilds) :
    s.TaskFrom notes task := by
  rcases maybeRebuildIroh_cases cfg s place now with
    hnext | ⟨old, _, _, hnext⟩ | ⟨nodeId, hplace, hnext⟩ | ⟨nodeId, hplace, _, _, hnext⟩
  · rw [hnext] at h
    exact TaskFrom.kept h
  · rw [hnext] at h
    exact TaskFrom.kept (List.mem_of_mem_eraseIdx h)
  · rw [hnext] at h
    exact TaskFrom.set hplace h
  · rw [hnext] at h
    exact TaskFrom.set hplace h

theorem tasks_buildIrohNode {place : Nat} {now : Instant} {outcome : BuildOutcome node}
    {notes : List Note} {task : RebuildTask}
    (h : task ∈ (s.buildIrohNode place now outcome).rebuilds) : s.TaskFrom notes task := by
  unfold buildIrohNode at h
  split at h
  · cases outcome with
    | built iroh =>
        simp only at h
        rw [(resetPullFailures_keeps _).2.1] at h
        exact TaskFrom.kept (List.mem_of_mem_eraseIdx h)
    | raised => exact TaskFrom.kept (List.mem_of_mem_eraseIdx h)
    | raisedAfter iroh => exact TaskFrom.kept (List.mem_of_mem_eraseIdx h)
  · exact TaskFrom.kept h

theorem tasks_step {e : RefreshEvent node} {task : RebuildTask}
    (h : task ∈ (s.step cfg e).rebuilds) : s.TaskFrom (s.notesOf cfg e) task := by
  have hother : Between e -> s.TaskFrom (s.notesOf cfg e) task :=
    fun hbetween => TaskFrom.kept ((between_keeps hbetween).left ▸ h)
  cases e with
  | admitted place => exact tasks_startPull h
  | pulled place outcome => exact tasks_endPull h
  | rebuild place now => exact tasks_maybeRebuildIroh h
  | build place now outcome => exact tasks_buildIrohNode h
  | heartbeatCycle reload => exact hother trivial
  | pushCycle => exact hother trivial
  | dashboardPull now viewers monitors => exact hother trivial
  | probed place status => exact hother trivial
  | pushed place => exact hother trivial
  | received nodeId status => exact hother trivial
  | reload peers => exact hother trivial

end RefreshState

end Liveness
end PanicMonitr
