import PanicMonitr.Liveness.Reload

/-!
# Reloads in the middle of a cycle

One heartbeat cycle over all targets.  The cycle keeps the `PeerState` objects it found in
`_devices`, and a reload puts other objects there, hydrated from a history that has no row
of the cycle yet.
-/

namespace PanicMonitr
namespace Liveness

open Foundation
open Trust

/-!
## The cycle
-/

/--
A cycle in progress.  `devices` and `peers` refer to the `PeerState` objects by their
place in `objects`; `results` has the probes that have ended, with the record each has
handed over.
-/
structure HeartbeatCycle where
  objects : List PeerState
  devices : List (String × Nat)
  lastAlertFired : List (String × Instant)
  effects : List Effect
  history : List ProbeRow
  peers : List Nat
  results : List (Nat × Option LatencyRecord)

inductive CycleEvent where
  | probe (i : Nat) (before after : Option TrustedPeer) (now : Instant)
      (outcome : ProbeOutcome)
  | reload (now : Instant) (entries : List PeerEntry) (readable : Bool)

namespace HeartbeatCycle

variable (cfg : EngineConfig)

/-- What `recent_rows` returns for a peer, unless it raises. -/
def recent (s : HeartbeatCycle) (now : Instant) (readable : Bool) (nodeId : String) :
    Option (List ProbeRow) :=
  if readable then some (recentRows s.history nodeId 24 now) else none

/-- `_probe_peer` of the object at a place, from its dial to its transition. -/
def probePeer (s : HeartbeatCycle) (i : Nat) (before after : Option TrustedPeer)
    (now : Instant) (outcome : ProbeOutcome) : HeartbeatCycle :=
  match s.objects[i]? with
  | none => s
  | some peer =>
      if i ∈ s.peers ∧ i ∉ Assoc.keys s.results then
        let probed := Liveness.probePeer cfg before after
          { peer := peer, lastAlertFired := s.lastAlertFired, effects := s.effects } now outcome
        { s with
          objects := s.objects.set i probed.1.peer
          lastAlertFired := probed.1.lastAlertFired
          effects := probed.1.effects
          results := s.results ++ [(i, probed.2)] }
      else s

/-- `_apply_devices_reload`: `_load_devices` builds an object for each monitored peer. -/
def applyDevicesReload (s : HeartbeatCycle) (now : Instant) (entries : List PeerEntry)
    (readable : Bool) : HeartbeatCycle :=
  { s with
    objects := s.objects ++ entries.map (fun entry =>
      loadDevice cfg (s.recent now readable entry.nodeId) entry)
    devices := (entries.map PeerEntry.nodeId).zip
      (List.range' s.objects.length entries.length) }

def step (s : HeartbeatCycle) : CycleEvent -> HeartbeatCycle
  | CycleEvent.probe i before after now outcome => s.probePeer cfg i before after now outcome
  | CycleEvent.reload now entries readable => s.applyDevicesReload cfg now entries readable

/-- The row of a target in the batch, if its probe has handed over a record. -/
def batchRow (s : HeartbeatCycle) (i : Nat) : Option ProbeRow :=
  match s.objects[i]?, Assoc.get? i s.results with
  | some peer, some (some record) => some (rowOf peer.entry.nodeId record)
  | _, _ => none

/-- `record_many`, in the order of the targets. -/
def finish (s : HeartbeatCycle) : HeartbeatCycle :=
  { s with history := s.history ++ s.peers.filterMap s.batchRow }

/-- Every target has a name and an object of its own, and nothing has been probed yet. -/
structure Started (s : HeartbeatCycle) : Prop where
  peers : s.peers = s.devices.map Prod.snd
  names : (Assoc.keys s.devices).Nodup
  places : s.peers.Nodup
  objects : forall name i, (name, i) ∈ s.devices ->
    exists peer, s.objects[i]? = some peer ∧ peer.entry.nodeId = name
  effects : s.effects = []
  results : s.results = []
  outcomes : Outcomes s.history

/-- The probe of a target has ended and has handed over a record. -/
def Recorded (s : HeartbeatCycle) (nodeId : String) (record : LatencyRecord) : Prop :=
  exists i peer, i ∈ s.peers ∧ s.objects[i]? = some peer ∧ peer.entry.nodeId = nodeId ∧
    Assoc.get? i s.results = some (some record)

end HeartbeatCycle

def heartbeatCycle (cfg : EngineConfig) : Machine HeartbeatCycle CycleEvent :=
  { start := HeartbeatCycle.Started, step := HeartbeatCycle.step cfg }

def CycleEvent.IsReload : CycleEvent -> Prop
  | CycleEvent.probe _ _ _ _ _ => False
  | CycleEvent.reload _ _ _ => True

/-!
## The claim of the cycle
-/

def aliveRows (rows : List ProbeRow) : Nat :=
  trailingRun (fun row => decide (row.status = PeerStatus.alive)) rows

/-- The monitor entries about a peer, oldest first. -/
def opsFor (nodeId : String) (effects : List Effect) : List MonitorOp :=
  effects.filterMap (fun
    | Effect.logAppend op data => if data.nodeId = nodeId then some op else none
    | _ => none)

/-- The status a monitor entry announces. -/
def MonitorOp.announced : MonitorOp -> PeerStatus
  | MonitorOp.monitorDown => PeerStatus.dead
  | MonitorOp.monitorUp => PeerStatus.alive

/-- At the end of the cycle the device counts its rows and has the announced status. -/
def HeartbeatCycle.Kept (s : HeartbeatCycle) (nodeId : String) : Prop :=
  forall i peer, Assoc.get? nodeId s.devices = some i -> s.objects[i]? = some peer ->
    peer.consecutiveFailures = failedRows (rowsFor nodeId s.history) ∧
      peer.consecutiveSuccesses = aliveRows (rowsFor nodeId s.history) ∧
        forall op, (opsFor nodeId s.effects).getLast? = some op ->
          peer.currentStatus = op.announced

/-- The counter that a record goes on with is the run of the rows. -/
def HeartbeatCycle.Agrees (s : HeartbeatCycle) (nodeId : String)
    (record : LatencyRecord) : Prop :=
  forall i peer, Assoc.get? nodeId s.devices = some i -> s.objects[i]? = some peer ->
    if record.status = PeerStatus.alive then
      peer.consecutiveSuccesses = aliveRows (rowsFor nodeId s.history)
    else peer.consecutiveFailures = failedRows (rowsFor nodeId s.history)

/-!
## What a transition writes

Every call is about the peer itself, and a monitor entry announces the status the
peer has when the transition is over.
-/

theorem opsFor_append (nodeId : String) (before after : List Effect) :
    opsFor nodeId (before ++ after) = opsFor nodeId before ++ opsFor nodeId after :=
  List.filterMap_append

theorem alert_opsFor (cfg : EngineConfig) (m : Monitored) (op : MonitorOp)
    (data : TransitionData) (now : Instant) (nodeId : String) :
    opsFor nodeId (alert cfg m op data now).effects = opsFor nodeId m.effects := by
  unfold alert
  split
  · rfl
  · simp [opsFor]

theorem syncOnReconnect_opsFor (m : Monitored) (prev new : PeerStatus) (now : Instant)
    (nodeId : String) :
    opsFor nodeId (syncOnReconnect m prev new now).effects = opsFor nodeId m.effects := by
  unfold syncOnReconnect
  split
  · simp [opsFor]
  · rfl

theorem announced_eventType {cfg : EngineConfig} {peer : PeerState} {record : LatencyRecord}
    {new : PeerStatus} (h : newState cfg peer record = some new) :
    (eventType new).announced = new := by
  unfold newState at h
  simp only at h
  split at h
  · split at h
    · cases h
      rfl
    · split at h
      · cases h
        rfl
      · cases h
  · split at h
    · cases h
      rfl
    · cases h

/-- A transition adds no entry, or the one of its decision about the peer. -/
theorem maybeTransition_opsFor (cfg : EngineConfig) (trusted : Option TrustedPeer)
    (m : Monitored) (record : LatencyRecord) (now : Instant) (nodeId : String) :
    opsFor nodeId (maybeTransition cfg trusted m record now).1.effects =
        opsFor nodeId m.effects ∨
      (m.peer.entry.nodeId = nodeId ∧ exists new, newState cfg m.peer record = some new ∧
        opsFor nodeId (maybeTransition cfg trusted m record now).1.effects =
          opsFor nodeId m.effects ++ [eventType new]) := by
  unfold maybeTransition
  cases newState cfg m.peer record with
  | none => exact Or.inl rfl
  | some new =>
      have hmoved := syncOnReconnect_opsFor (m.setStatus new) m.peer.currentStatus new now
        nodeId
      have hentry : (syncOnReconnect (m.setStatus new) m.peer.currentStatus new now).peer.entry =
          m.peer.entry := by
        rw [syncOnReconnect_peer]
        rfl
      simp only
      split
      · exact Or.inl rfl
      · split
        · exact Or.inl hmoved
        · split
          · exact Or.inl hmoved
          · exact Or.inl hmoved
          · rw [alert_opsFor, Monitored.call_effects, opsFor_append, hmoved]
            by_cases hown : m.peer.entry.nodeId = nodeId
            · refine Or.inr ⟨hown, new, rfl, ?_⟩
              simp [opsFor, transitionData, hentry, hown]
              rfl
            · refine Or.inl ?_
              simp [opsFor, transitionData, hentry, hown]
              rfl

/-!
## One probe
-/

/-- A probe hands nothing over and changes nothing, or it is one transition. -/
theorem probePeer_cases (cfg : EngineConfig) (before after : Option TrustedPeer)
    (m : Monitored) (now : Instant) (outcome : ProbeOutcome) :
    probePeer cfg before after m now outcome = (m, none) ∨
      exists raised, probePeer cfg before after m now outcome =
        ((maybeTransition cfg after { m with peer := countProbe m.peer now outcome }
            (probeRecord now outcome) now).1,
          if raised = true then none else some (probeRecord now outcome)) := by
  unfold probePeer
  split
  · exact Or.inl rfl
  · exact Or.inl rfl
  · refine Or.inr ⟨(maybeTransition cfg after
      { m with peer := countProbe m.peer now outcome } (probeRecord now outcome) now).2, ?_⟩
    simp only
    split
    · rename_i hended
      rw [hended]
      rfl
    · rename_i hraised
      rw [hraised]
      rfl

theorem countProbe_entry (peer : PeerState) (now : Instant) (outcome : ProbeOutcome) :
    (countProbe peer now outcome).entry = peer.entry := by
  cases outcome <;> rfl

theorem probePeer_entry (cfg : EngineConfig) (before after : Option TrustedPeer)
    (m : Monitored) (now : Instant) (outcome : ProbeOutcome) :
    (probePeer cfg before after m now outcome).1.peer.entry = m.peer.entry := by
  rcases probePeer_cases cfg before after m now outcome with hskipped | ⟨raised, hmade⟩
  · rw [hskipped]
  · rw [hmade, maybeTransition_peer]
    exact countProbe_entry m.peer now outcome

theorem probePeer_opsFor_other (cfg : EngineConfig) (before after : Option TrustedPeer)
    (m : Monitored) (now : Instant) (outcome : ProbeOutcome) {nodeId : String}
    (hother : m.peer.entry.nodeId ≠ nodeId) :
    opsFor nodeId (probePeer cfg before after m now outcome).1.effects =
      opsFor nodeId m.effects := by
  rcases probePeer_cases cfg before after m now outcome with hskipped | ⟨raised, hmade⟩
  · rw [hskipped]
  · rw [hmade]
    rcases maybeTransition_opsFor cfg after
      { m with peer := countProbe m.peer now outcome } (probeRecord now outcome) now nodeId with
      hsame | ⟨hown, _⟩
    · exact hsame
    · rw [countProbe_entry] at hown
      exact absurd hown hother

/-- The counters of a peer that go on from another's with a record. -/
structure Continues (peer : PeerState) (record : LatencyRecord) (peer' : PeerState) : Prop where
  outcome : record.status = PeerStatus.alive ∨ record.status = PeerStatus.dead
  failures : peer'.consecutiveFailures =
    if record.status = PeerStatus.alive then 0 else peer.consecutiveFailures + 1
  successes : peer'.consecutiveSuccesses =
    if record.status = PeerStatus.alive then peer.consecutiveSuccesses + 1 else 0

/-- A probe that hands over a record has counted it, and its entry announces the status. -/
theorem probePeer_recorded (cfg : EngineConfig) (before after : Option TrustedPeer)
    (m : Monitored) (now : Instant) (outcome : ProbeOutcome) {record : LatencyRecord}
    (h : (probePeer cfg before after m now outcome).2 = some record) :
    let m' := (probePeer cfg before after m now outcome).1
    Continues m.peer record m'.peer ∧
      forall nodeId, opsFor nodeId m'.effects = opsFor nodeId m.effects ∨
        exists op, opsFor nodeId m'.effects = opsFor nodeId m.effects ++ [op] ∧
          m'.peer.currentStatus = op.announced := by
  intro m'
  rcases probePeer_cases cfg before after m now outcome with hskipped | ⟨raised, hmade⟩
  · rw [hskipped] at h
    cases h
  · have hrecord : probeRecord now outcome = record := by
      rw [hmade] at h
      simp only at h
      split at h
      · cases h
      · exact Option.some.inj h
    have hm' : m' = (maybeTransition cfg after
        { m with peer := countProbe m.peer now outcome } (probeRecord now outcome) now).1 :=
      congrArg Prod.fst hmade
    have hpeer : m'.peer = { countProbe m.peer now outcome with
        currentStatus := nextStatus cfg (countProbe m.peer now outcome)
          (probeRecord now outcome) } := by
      rw [hm', maybeTransition_peer]
    constructor
    · rw [hpeer, ← hrecord]
      cases outcome with
      | reply rttUs => exact ⟨Or.inl rfl, rfl, rfl⟩
      | raised failType failMsg => exact ⟨Or.inr rfl, rfl, rfl⟩
    · intro nodeId
      rw [hm']
      rcases maybeTransition_opsFor cfg after
        { m with peer := countProbe m.peer now outcome } (probeRecord now outcome) now
        nodeId with hsame | ⟨_, new, hnew, hadded⟩
      · exact Or.inl hsame
      · refine Or.inr ⟨eventType new, hadded, ?_⟩
        rw [maybeTransition_peer, announced_eventType hnew]
        show nextStatus cfg _ _ = new
        rw [nextStatus, hnew, Option.getD_some]

/-!
## A target during the cycle

Whatever is reloaded, a target keeps its object until its own probe ends, and after
that nothing touches the object or adds an entry about the peer.
-/

namespace HeartbeatCycle

variable (cfg : EngineConfig)

/-- The cycle reads the same history and targets, under the same names. -/
structure Extends (s0 s : HeartbeatCycle) : Prop where
  history : s.history = s0.history
  peers : s.peers = s0.peers
  names : forall (j : Nat) (peer : PeerState), s0.objects[j]? = some peer ->
    exists peer', s.objects[j]? = some peer' ∧ peer'.entry.nodeId = peer.entry.nodeId

/-- A target at place `i`, with the state it had when the cycle began. -/
structure Follows (i : Nat) (peer : PeerState) (s : HeartbeatCycle) : Prop where
  waiting : Assoc.get? i s.results = none ->
    s.objects[i]? = some peer ∧ opsFor peer.entry.nodeId s.effects = []
  ended : forall record, Assoc.get? i s.results = some (some record) ->
    exists peer', s.objects[i]? = some peer' ∧ Continues peer record peer' ∧
      forall op, (opsFor peer.entry.nodeId s.effects).getLast? = some op ->
        peer'.currentStatus = op.announced

/-- The targets all have objects, and no two have one name. -/
structure Distinct (s : HeartbeatCycle) : Prop where
  placed : forall i, i ∈ s.peers -> exists peer, s.objects[i]? = some peer
  distinct : forall (i j : Nat) (peer peer' : PeerState), i ∈ s.peers -> j ∈ s.peers ->
    s.objects[i]? = some peer -> s.objects[j]? = some peer' ->
    peer.entry.nodeId = peer'.entry.nodeId -> i = j

/-- What a probe does to the cycle, if it is one of a target that has not ended. -/
theorem probePeer_spec (s : HeartbeatCycle) (i : Nat) (before after : Option TrustedPeer)
    (now : Instant) (outcome : ProbeOutcome) :
    s.probePeer cfg i before after now outcome = s ∨
      exists peer probed, s.objects[i]? = some peer ∧ i ∈ s.peers ∧
        i ∉ Assoc.keys s.results ∧
        probed = Liveness.probePeer cfg before after
          { peer := peer, lastAlertFired := s.lastAlertFired, effects := s.effects } now outcome ∧
        s.probePeer cfg i before after now outcome =
          { s with
            objects := s.objects.set i probed.1.peer
            lastAlertFired := probed.1.lastAlertFired
            effects := probed.1.effects
            results := s.results ++ [(i, probed.2)] } := by
  unfold HeartbeatCycle.probePeer
  cases hpeer : s.objects[i]? with
  | none => exact Or.inl rfl
  | some peer =>
      simp only
      split
      · rename_i hopen
        exact Or.inr ⟨peer, _, rfl, hopen.left, hopen.right, rfl, rfl⟩
      · exact Or.inl rfl

theorem Extends.refl (s : HeartbeatCycle) : Extends s s :=
  ⟨rfl, rfl, fun _ peer hpeer => ⟨peer, hpeer, rfl⟩⟩

theorem Extends.step {s0 s : HeartbeatCycle} (h : Extends s0 s) (e : CycleEvent) :
    Extends s0 (s.step cfg e) := by
  cases e with
  | reload now entries readable =>
      refine ⟨h.history, h.peers, ?_⟩
      intro j peer hj
      rcases h.names j peer hj with ⟨peer', hj', hname⟩
      refine ⟨peer', ?_, hname⟩
      exact (List.getElem?_append_left (List.getElem?_eq_some_iff.mp hj').1).trans hj'
  | probe i before after now outcome =>
      rcases s.probePeer_spec cfg i before after now outcome with hsame | hprobed
      · show Extends s0 (s.probePeer cfg i before after now outcome)
        rw [hsame]
        exact h
      · rcases hprobed with ⟨old, probed, hold, _, _, hprobed, hstep⟩
        show Extends s0 (s.probePeer cfg i before after now outcome)
        rw [hstep]
        refine ⟨h.history, h.peers, ?_⟩
        intro j peer hj
        rcases h.names j peer hj with ⟨peer', hj', hname⟩
        by_cases hij : i = j
        · subst hij
          rw [hold] at hj'
          cases hj'
          refine ⟨probed.1.peer, List.getElem?_set_self (List.getElem?_eq_some_iff.mp hold).1, ?_⟩
          rw [hprobed, probePeer_entry]
          exact hname
        · exact ⟨peer', (List.getElem?_set_ne hij).trans hj', hname⟩

theorem Distinct.extends {s0 s : HeartbeatCycle} (h : Distinct s0) (hext : Extends s0 s) :
    Distinct s := by
  constructor
  · intro i hi
    rw [hext.peers] at hi
    rcases h.placed i hi with ⟨peer, hpeer⟩
    rcases hext.names i peer hpeer with ⟨peer', hpeer', _⟩
    exact ⟨peer', hpeer'⟩
  · intro i j peer peer' hi hj hpeer hpeer' hname
    rw [hext.peers] at hi hj
    rcases h.placed i hi with ⟨first, hfirst⟩
    rcases h.placed j hj with ⟨second, hsecond⟩
    rcases hext.names i first hfirst with ⟨_, hi', hnamei⟩
    rcases hext.names j second hsecond with ⟨_, hj', hnamej⟩
    rw [hpeer] at hi'
    rw [hpeer'] at hj'
    cases hi'
    cases hj'
    exact h.distinct i j first second hi hj hfirst hsecond
      (hnamei.symm.trans (hname.trans hnamej))

theorem Follows.reload {s : HeartbeatCycle} {i : Nat} {peer : PeerState}
    (h : Follows i peer s) (now : Instant) (entries : List PeerEntry) (readable : Bool) :
    Follows i peer (s.step cfg (CycleEvent.reload now entries readable)) := by
  have hkept : forall old : PeerState, s.objects[i]? = some old ->
      (s.step cfg (CycleEvent.reload now entries readable)).objects[i]? = some old :=
    fun old hold =>
      (List.getElem?_append_left (List.getElem?_eq_some_iff.mp hold).1).trans hold
  constructor
  · intro hopen
    rcases h.waiting hopen with ⟨hobject, hops⟩
    exact ⟨hkept peer hobject, hops⟩
  · intro record hrecord
    rcases h.ended record hrecord with ⟨peer', hobject, hrest⟩
    exact ⟨peer', hkept peer' hobject, hrest⟩

theorem Follows.probe {s0 s : HeartbeatCycle} {i : Nat} {peer : PeerState}
    (hpeer : s0.objects[i]? = some peer) (hi : i ∈ s0.peers) (hdistinct : Distinct s0)
    (hext : Extends s0 s) (h : Follows i peer s) (j : Nat) (before after : Option TrustedPeer)
    (now : Instant) (outcome : ProbeOutcome) :
    Follows i peer (s.probePeer cfg j before after now outcome) := by
  rcases s.probePeer_spec cfg j before after now outcome with hsame | hprobed
  · rw [hsame]
    exact h
  · rcases hprobed with ⟨old, probed, hold, hj, hopen, hprobed, hstep⟩
    rw [← Assoc.set_of_not_mem hopen] at hstep
    rw [hstep]
    by_cases hij : j = i
    · subst hij
      rcases h.waiting (Assoc.get?_eq_none_iff.mpr hopen) with ⟨hobject, hops⟩
      rw [hold] at hobject
      cases hobject
      constructor
      · intro hnone
        rw [Assoc.get?_set_self] at hnone
        cases hnone
      · intro record hrecord
        rw [Assoc.get?_set_self] at hrecord
        have hhanded : probed.2 = some record := Option.some.inj hrecord
        rw [hprobed] at hhanded
        rcases probePeer_recorded cfg before after _ now outcome hhanded with
          ⟨hcounted, hwritten⟩
        rw [← hprobed] at hcounted hwritten
        refine ⟨probed.1.peer,
          List.getElem?_set_self (List.getElem?_eq_some_iff.mp hold).1, hcounted, ?_⟩
        intro op hop
        rcases hwritten peer.entry.nodeId with hnone | ⟨op', hadded, hstatus⟩
        · have hempty : opsFor peer.entry.nodeId probed.1.effects = [] :=
            hnone.trans hops
          rw [hempty] at hop
          cases hop
        · have hone : opsFor peer.entry.nodeId probed.1.effects = [op'] := by
            rw [hadded, hops, List.nil_append]
          rw [hone] at hop
          cases hop
          exact hstatus
    · have hother : old.entry.nodeId ≠ peer.entry.nodeId := by
        intro hname
        rcases hext.names i peer hpeer with ⟨peer', hpeer', hname'⟩
        rw [hext.peers] at hj
        rw [← hext.peers] at hj hi
        exact hij ((hdistinct.extends hext).distinct j i old peer' hj hi hold hpeer'
          (hname.trans hname'.symm))
      have hops : opsFor peer.entry.nodeId probed.1.effects =
          opsFor peer.entry.nodeId s.effects := by
        rw [hprobed]
        exact probePeer_opsFor_other cfg before after _ now outcome hother
      constructor
      · intro hwaits
        rw [Assoc.get?_set_of_ne (Ne.symm hij)] at hwaits
        rcases h.waiting hwaits with ⟨hobject, hnone⟩
        exact ⟨(List.getElem?_set_ne hij).trans hobject, hops.trans hnone⟩
      · intro record hrecord
        rw [Assoc.get?_set_of_ne (Ne.symm hij)] at hrecord
        rcases h.ended record hrecord with ⟨peer', hobject, hcounted, hstatus⟩
        refine ⟨peer', (List.getElem?_set_ne hij).trans hobject, hcounted, ?_⟩
        intro op hop
        exact hstatus op (hops ▸ hop)

theorem Follows.step {s0 s : HeartbeatCycle} {i : Nat} {peer : PeerState}
    (hpeer : s0.objects[i]? = some peer) (hi : i ∈ s0.peers) (hdistinct : Distinct s0)
    (hext : Extends s0 s) (h : Follows i peer s) (e : CycleEvent) :
    Follows i peer (s.step cfg e) := by
  cases e with
  | reload now entries readable => exact h.reload cfg now entries readable
  | probe j before after now outcome =>
      exact h.probe cfg hpeer hi hdistinct hext j before after now outcome

/-!
## The devices

Without a reload they are the targets; after one they are objects the cycle does not
know, counted from rows that do not have its results.
-/

/-- Every device holds what a reload found, and no probe of the cycle has it. -/
def Swapped (s : HeartbeatCycle) : Prop :=
  forall name i, (name, i) ∈ s.devices -> i ∉ s.peers ∧
    exists now readable entry, entry.nodeId = name ∧
      s.objects[i]? = some (loadDevice cfg (s.recent now readable name) entry)

theorem step_devices (s : HeartbeatCycle) {e : CycleEvent} (he : ¬ e.IsReload) :
    (s.step cfg e).devices = s.devices := by
  cases e with
  | reload now entries readable => exact absurd trivial he
  | probe i before after now outcome =>
      show (s.probePeer cfg i before after now outcome).devices = s.devices
      rcases s.probePeer_spec cfg i before after now outcome with hsame | hprobed
      · rw [hsame]
      · rcases hprobed with ⟨_, _, _, _, _, _, hstep⟩
        rw [hstep]

theorem applyDevicesReload_swapped {s : HeartbeatCycle} (hs : Distinct s) (now : Instant)
    (entries : List PeerEntry) (readable : Bool) :
    Swapped cfg (s.applyDevicesReload cfg now entries readable) := by
  intro name i hdevice
  rcases List.mem_iff_getElem?.mp hdevice with ⟨k, hk⟩
  rcases List.getElem?_zip_eq_some.mp hk with ⟨hname, hplace⟩
  rw [List.getElem?_map, Option.map_eq_some_iff] at hname
  rcases hname with ⟨entry, hentry, hname⟩
  have hi : i = s.objects.length + k := by
    rcases List.getElem?_eq_some_iff.mp hplace with ⟨_, hplace⟩
    rw [List.getElem_range', Nat.one_mul] at hplace
    exact hplace.symm
  constructor
  · intro hmem
    rcases hs.placed i hmem with ⟨peer, hpeer⟩
    have hlt := (List.getElem?_eq_some_iff.mp hpeer).1
    omega
  · refine ⟨now, readable, entry, hname, ?_⟩
    show (s.objects ++ entries.map _)[i]? = _
    rw [hi, List.getElem?_append_right (Nat.le_add_right ..), Nat.add_sub_cancel_left,
      List.getElem?_map, hentry, Option.map_some]
    simp only at hname
    rw [← hname]
    rfl

theorem Swapped.step {s : HeartbeatCycle} (h : Swapped cfg s) (hs : Distinct s)
    (e : CycleEvent) : Swapped cfg (s.step cfg e) := by
  cases e with
  | reload now entries readable => exact applyDevicesReload_swapped cfg hs now entries readable
  | probe j before after now outcome =>
      show Swapped cfg (s.probePeer cfg j before after now outcome)
      rcases s.probePeer_spec cfg j before after now outcome with hsame | hprobed
      · rw [hsame]
        exact h
      · rcases hprobed with ⟨_, _, _, hj, _, _, hstep⟩
        rw [hstep]
        intro name i hdevice
        rcases h name i hdevice with ⟨hfree, now', readable, entry, hname, hobject⟩
        refine ⟨hfree, now', readable, entry, hname, ?_⟩
        have hij : j ≠ i := fun heq => hfree (heq ▸ hj)
        exact (List.getElem?_set_ne hij).trans hobject

theorem Distinct.step {s : HeartbeatCycle} (h : Distinct s) (e : CycleEvent) :
    Distinct (s.step cfg e) :=
  h.extends ((Extends.refl s).step cfg e)

theorem exec_swapped {s0 : HeartbeatCycle} (hs : Distinct s0) {es : List CycleEvent}
    {e : CycleEvent} (he : e ∈ es) (hreload : e.IsReload) :
    Swapped cfg ((heartbeatCycle cfg).exec s0 es) := by
  rcases List.append_of_mem he with ⟨front, back, hsplit⟩
  rw [hsplit, Machine.exec_append]
  have hfront : Distinct ((heartbeatCycle cfg).exec s0 front) :=
    Machine.exec_invariant (P := fun _ => True) (fun s e h _ => h.step cfg e) hs
      (fun _ _ => trivial)
  have hswapped : Swapped cfg (((heartbeatCycle cfg).exec s0 front).step cfg e) := by
    cases e with
    | probe i before after now outcome => cases hreload
    | reload now entries readable => exact applyDevicesReload_swapped cfg hfront now entries readable
  have hback : forall s, Distinct s ∧ Swapped cfg s ->
      Distinct ((heartbeatCycle cfg).exec s back) ∧
        Swapped cfg ((heartbeatCycle cfg).exec s back) :=
    fun s h => Machine.exec_invariant (P := fun _ => True)
      (I := fun s => Distinct s ∧ Swapped cfg s)
      (fun s e h _ => ⟨h.left.step cfg e, h.right.step cfg h.left e⟩) h (fun _ _ => trivial)
  exact (hback _ ⟨hfront.step cfg e, hswapped⟩).right

/-!
## The rows of the cycle
-/

theorem rowsFor_batch_other (s : HeartbeatCycle) {nodeId : String} {places : List Nat}
    (h : forall j, j ∈ places -> forall peer, s.objects[j]? = some peer ->
      peer.entry.nodeId ≠ nodeId) :
    rowsFor nodeId (places.filterMap s.batchRow) = [] := by
  rw [rowsFor, List.filter_eq_nil_iff]
  intro row hrow
  rcases List.mem_filterMap.mp hrow with ⟨j, hj, hrow⟩
  unfold batchRow at hrow
  split at hrow
  · rename_i peer record hpeer _
    cases hrow
    exact fun hown => h j hj peer hpeer (of_decide_eq_true hown)
  · cases hrow

theorem rowsFor_finish {s : HeartbeatCycle} (hs : Distinct s) (hnodup : s.peers.Nodup)
    {i : Nat} {peer : PeerState} {record : LatencyRecord} (hi : i ∈ s.peers)
    (hpeer : s.objects[i]? = some peer)
    (hrecord : Assoc.get? i s.results = some (some record)) :
    rowsFor peer.entry.nodeId s.finish.history =
      rowsFor peer.entry.nodeId s.history ++ [rowOf peer.entry.nodeId record] := by
  rcases List.append_of_mem hi with ⟨front, back, hsplit⟩
  have hapart : forall j, j ∈ front ++ back -> forall peer', s.objects[j]? = some peer' ->
      peer'.entry.nodeId ≠ peer.entry.nodeId := by
    intro j hj peer' hpeer' hname
    have hmem : j ∈ s.peers := by
      rw [hsplit]
      rcases List.mem_append.mp hj with hfront | hback
      · exact List.mem_append_left _ hfront
      · exact List.mem_append_right _ (List.mem_cons_of_mem i hback)
    have heq := hs.distinct j i peer' peer hmem hi hpeer' hpeer hname
    rw [hsplit] at hnodup
    rw [heq] at hj
    exact (List.nodup_middle.mp hnodup).notMem hj
  have hfront := rowsFor_batch_other s
    (fun j hj => hapart j (List.mem_append_left back hj))
  have hback := rowsFor_batch_other s
    (fun j hj => hapart j (List.mem_append_right front hj))
  have hown : s.batchRow i = some (rowOf peer.entry.nodeId record) := by
    unfold batchRow
    rw [hpeer, hrecord]
  show rowsFor peer.entry.nodeId (s.history ++ s.peers.filterMap s.batchRow) = _
  rw [hsplit, List.filterMap_append, List.filterMap_cons_some hown, rowsFor_append,
    rowsFor_append, hfront, List.nil_append]
  have hsnoc : rowOf peer.entry.nodeId record :: back.filterMap s.batchRow =
      [rowOf peer.entry.nodeId record] ++ back.filterMap s.batchRow := rfl
  rw [hsnoc, rowsFor_append, hback, rowsFor_rowOf, List.append_nil]

end HeartbeatCycle

theorem failedRows_snoc (rows : List ProbeRow) (row : ProbeRow) :
    failedRows (rows ++ [row]) =
      if row.status = PeerStatus.dead then failedRows rows + 1 else 0 := by
  unfold failedRows
  rw [trailingRun_snoc]
  simp

theorem aliveRows_snoc (rows : List ProbeRow) (row : ProbeRow) :
    aliveRows (rows ++ [row]) =
      if row.status = PeerStatus.alive then aliveRows rows + 1 else 0 := by
  unfold aliveRows
  rw [trailingRun_snoc]
  simp

theorem loadDevice_counts_le (cfg : EngineConfig) {rows : List ProbeRow} (hrows : Outcomes rows)
    (entry : PeerEntry) :
    (loadDevice cfg (some rows) entry).consecutiveFailures <= failedRows rows ∧
      (loadDevice cfg (some rows) entry).consecutiveSuccesses <= aliveRows rows := by
  cases hlast : rows.getLast? with
  | none =>
      have hnil : rows = [] := List.getLast?_eq_none_iff.mp hlast
      subst hnil
      exact ⟨Nat.le_refl 0, Nat.le_refl 0⟩
  | some last =>
      rcases hrows last (List.mem_of_getLast? hlast) with halive | hdead
      · constructor
        · rw [(loadDevice_alive cfg hlast halive entry).right.left]
          exact Nat.zero_le _
        · unfold loadDevice hydrateStateFromHistory
          simp only [hlast, halive, if_true]
          exact Nat.le_refl _
      · constructor
        · rw [(loadDevice_failed cfg hlast hdead entry).right.left]
        · unfold loadDevice hydrateStateFromHistory
          simp only [hlast, hdead]
          exact Nat.zero_le _

theorem recentRows_suffix {rows : List ProbeRow} {nodeId : String}
    (hsorted : (rowsFor nodeId rows).Pairwise (fun a b => a.ts <= b.ts)) (hours : Nat)
    (now : Instant) : recentRows rows nodeId hours now <:+ rowsFor nodeId rows := by
  unfold recentRows
  rw [(hsorted.filter _).insertionSort_eq]
  apply filter_suffix_of_pairwise
  apply hsorted.imp
  intro a b hab ha
  exact decide_eq_true ((of_decide_eq_true ha).trans hab)

namespace HeartbeatCycle

theorem recent_counts_le (cfg : EngineConfig) {s : HeartbeatCycle} (hrows : Outcomes s.history)
    {nodeId : String}
    (hsorted : (rowsFor nodeId s.history).Pairwise (fun a b => a.ts <= b.ts))
    (now : Instant) (readable : Bool) (entry : PeerEntry) :
    (loadDevice cfg (s.recent now readable nodeId) entry).consecutiveFailures <=
        failedRows (rowsFor nodeId s.history) ∧
      (loadDevice cfg (s.recent now readable nodeId) entry).consecutiveSuccesses <=
        aliveRows (rowsFor nodeId s.history) := by
  unfold recent
  cases readable with
  | false => exact ⟨Nat.zero_le _, Nat.zero_le _⟩
  | true =>
      have hsuffix := recentRows_suffix hsorted 24 now
      have houtcomes : Outcomes (recentRows s.history nodeId 24 now) :=
        fun row hrow => hrows row (List.mem_filter.mp (mem_recentRows hrow)).left
      rcases loadDevice_counts_le cfg houtcomes entry with ⟨hfailures, hsuccesses⟩
      exact ⟨hfailures.trans (trailingRun_le_of_suffix hsuffix),
        hsuccesses.trans (trailingRun_le_of_suffix hsuffix)⟩

theorem Started.distinct {s : HeartbeatCycle} (h : s.Started) : Distinct s := by
  have hplace : forall i, i ∈ s.peers -> exists name, (name, i) ∈ s.devices := by
    intro i hi
    rw [h.peers] at hi
    rcases List.mem_map.mp hi with ⟨⟨name, i⟩, hdevice, heq⟩
    cases heq
    exact ⟨name, hdevice⟩
  constructor
  · intro i hi
    rcases hplace i hi with ⟨name, hdevice⟩
    rcases h.objects name i hdevice with ⟨peer, hpeer, _⟩
    exact ⟨peer, hpeer⟩
  · intro i j peer peer' hi hj hpeer hpeer' hname
    rcases hplace i hi with ⟨name, hdevice⟩
    rcases hplace j hj with ⟨name', hdevice'⟩
    rcases h.objects name i hdevice with ⟨_, hobject, hnamei⟩
    rcases h.objects name' j hdevice' with ⟨_, hobject', hnamej⟩
    rw [hpeer] at hobject
    rw [hpeer'] at hobject'
    cases hobject
    cases hobject'
    have hfirst := Assoc.get?_eq_some_of_mem h.names hdevice
    have hsecond := Assoc.get?_eq_some_of_mem h.names hdevice'
    rw [← hnamei, hname, hnamej, hsecond] at hfirst
    exact (Option.some.inj hfirst).symm

structure Target (s0 s : HeartbeatCycle) (nodeId : String) (record : LatencyRecord)
    (i : Nat) (peer peer' : PeerState) : Prop where
  device : Assoc.get? nodeId s0.devices = some i
  before : s0.objects[i]? = some peer
  after : s.objects[i]? = some peer'
  counted : Continues peer record peer'
  status : forall op, (opsFor nodeId s.effects).getLast? = some op ->
    peer'.currentStatus = op.announced
  rows : rowsFor nodeId s.finish.history = rowsFor nodeId s0.history ++ [rowOf nodeId record]
  distinct : Distinct s
  history : s.history = s0.history

theorem target_of_recorded (cfg : EngineConfig) {s0 : HeartbeatCycle} (hstart : s0.Started)
    (es : List CycleEvent) {nodeId : String} {record : LatencyRecord}
    (hrecorded : ((heartbeatCycle cfg).exec s0 es).Recorded nodeId record) :
    exists i peer peer', Target s0 ((heartbeatCycle cfg).exec s0 es) nodeId record i peer peer' := by
  rcases hrecorded with ⟨i, last, hi, hlast, hname, hresult⟩
  have hext : Extends s0 ((heartbeatCycle cfg).exec s0 es) :=
    Machine.exec_invariant (P := fun _ => True) (fun s e h _ => h.step cfg e)
      (Extends.refl s0) (fun _ _ => trivial)
  have hi0 : i ∈ s0.peers := hext.peers ▸ hi
  rcases hstart.distinct.placed i hi0 with ⟨peer, hpeer⟩
  have hfollows : Extends s0 ((heartbeatCycle cfg).exec s0 es) ∧
      Follows i peer ((heartbeatCycle cfg).exec s0 es) := by
    refine Machine.exec_invariant (P := fun _ => True)
      (I := fun s => Extends s0 s ∧ Follows i peer s) ?_ ?_ ?_
    · intro s e h _
      exact ⟨h.left.step cfg e, h.right.step cfg hpeer hi0 hstart.distinct h.left e⟩
    · refine ⟨Extends.refl s0, fun _ => ⟨hpeer, ?_⟩, ?_⟩
      · rw [hstart.effects]
        rfl
      · intro record hnone
        rw [hstart.results] at hnone
        cases hnone
    · exact fun _ _ => trivial
  have hkept : peer.entry.nodeId = nodeId := by
    rcases hext.names i peer hpeer with ⟨_, hsame, hkept⟩
    rw [hlast] at hsame
    cases hsame
    exact hkept.symm.trans hname
  rcases hfollows.right.ended record hresult with ⟨peer', hpeer', hcounted, hstatus⟩
  have hdistinct := hstart.distinct.extends hext
  have hnodup : ((heartbeatCycle cfg).exec s0 es).peers.Nodup := hext.peers ▸ hstart.places
  have hrows := rowsFor_finish hdistinct hnodup hi hlast hresult
  rw [hname, hext.history] at hrows
  have hdevice : Assoc.get? nodeId s0.devices = some i := by
    rw [hstart.peers] at hi0
    rcases List.mem_map.mp hi0 with ⟨⟨name, i⟩, hdevice, heq⟩
    cases heq
    rcases hstart.objects name i hdevice with ⟨_, hobject, hnamed⟩
    rw [hpeer] at hobject
    cases hobject
    rw [← hkept, hnamed]
    exact Assoc.get?_eq_some_of_mem hstart.names hdevice
  exact ⟨i, peer, peer', hdevice, hpeer, hpeer', hcounted, hkept ▸ hstatus, hrows, hdistinct,
    hext.history⟩

end HeartbeatCycle

/-!
## The two sides
-/

section Counts

variable (rows : List ProbeRow) {row : ProbeRow} {record : LatencyRecord}
  (hrow : row.status = record.status)
include hrow

/-- Counters that go on with a record count its row if they counted the rows before. -/
theorem Continues.counts_iff {peer peer' : PeerState} (h : Continues peer record peer') :
    (peer'.consecutiveFailures = failedRows (rows ++ [row]) ∧
        peer'.consecutiveSuccesses = aliveRows (rows ++ [row])) <->
      if record.status = PeerStatus.alive then peer.consecutiveSuccesses = aliveRows rows
      else peer.consecutiveFailures = failedRows rows := by
  rw [failedRows_snoc, aliveRows_snoc, hrow, h.failures, h.successes]
  rcases h.outcome with halive | hdead
  · simp [halive]
  · simp [hdead]

/-- Counters no larger than the runs of the rows before do not count the row. -/
theorem not_counted_of_le {peer : PeerState}
    (houtcome : record.status = PeerStatus.alive ∨ record.status = PeerStatus.dead)
    (hfailures : peer.consecutiveFailures <= failedRows rows)
    (hsuccesses : peer.consecutiveSuccesses <= aliveRows rows)
    (hcounted : peer.consecutiveFailures = failedRows (rows ++ [row]))
    (hcounted' : peer.consecutiveSuccesses = aliveRows (rows ++ [row])) : False := by
  rw [failedRows_snoc, hrow] at hcounted
  rw [aliveRows_snoc, hrow] at hcounted'
  rcases houtcome with halive | hdead
  · rw [if_pos halive] at hcounted'
    omega
  · rw [if_pos hdead] at hcounted
    omega

end Counts

/-!
## Main result
-/

/--
A device keeps its probe result if no reload falls into the cycle and the counter that
the result continues is the run of its rows; with rows in time order, only then.
-/
theorem cycle_keeps_results (cfg : EngineConfig) {s0 : HeartbeatCycle} (hstart : s0.Started)
    (es : List CycleEvent) {nodeId : String} {record : LatencyRecord}
    (hrecorded : ((heartbeatCycle cfg).exec s0 es).Recorded nodeId record)
    (htarget : nodeId ∈ Assoc.keys ((heartbeatCycle cfg).exec s0 es).devices) :
    ((forall e, e ∈ es -> ¬ e.IsReload) ∧ s0.Agrees nodeId record ->
        ((heartbeatCycle cfg).exec s0 es).finish.Kept nodeId) ∧
      ((rowsFor nodeId s0.history).Pairwise (fun a b => a.ts <= b.ts) ->
        ((heartbeatCycle cfg).exec s0 es).finish.Kept nodeId ->
          (forall e, e ∈ es -> ¬ e.IsReload) ∧ s0.Agrees nodeId record) := by
  rcases HeartbeatCycle.target_of_recorded cfg hstart es hrecorded with ⟨i, peer, peer', h⟩
  have hrow : (rowOf nodeId record).status = record.status := rfl
  have hcounts := h.counted.counts_iff (rowsFor nodeId s0.history) hrow
  have hagrees : s0.Agrees nodeId record <->
      if record.status = PeerStatus.alive then
        peer.consecutiveSuccesses = aliveRows (rowsFor nodeId s0.history)
      else peer.consecutiveFailures = failedRows (rowsFor nodeId s0.history) := by
    constructor
    · exact fun hagrees => hagrees i peer h.device h.before
    · intro hagrees j other hdevice hother
      rw [h.device] at hdevice
      cases hdevice
      rw [h.before] at hother
      cases hother
      exact hagrees
  have hsame : (forall e, e ∈ es -> ¬ e.IsReload) ->
      ((heartbeatCycle cfg).exec s0 es).devices = s0.devices := by
    intro hquiet
    refine Machine.exec_invariant (P := fun e : CycleEvent => ¬ e.IsReload)
      (I := fun s : HeartbeatCycle => s.devices = s0.devices) ?_ rfl hquiet
    exact fun s e hdevices hquiet => (s.step_devices cfg hquiet).trans hdevices
  constructor
  · intro hcond j device hdevice hobject
    have hdevice' : Assoc.get? nodeId ((heartbeatCycle cfg).exec s0 es).devices = some j :=
      hdevice
    rw [hsame hcond.left, h.device] at hdevice'
    cases hdevice'
    have hobject' : ((heartbeatCycle cfg).exec s0 es).objects[i]? = some device := hobject
    rw [h.after] at hobject'
    cases hobject'
    rw [h.rows]
    have hboth := hcounts.mpr (hagrees.mp hcond.right)
    exact ⟨hboth.left, hboth.right, h.status⟩
  · intro hsorted hkept
    have hquiet : forall e, e ∈ es -> ¬ e.IsReload := by
      intro e he hreload
      have hswapped := HeartbeatCycle.exec_swapped cfg hstart.distinct he hreload
      have hfound := Assoc.get?_eq_none_iff.not.mpr (not_not_intro htarget)
      rcases Option.ne_none_iff_exists'.mp hfound with ⟨k, hk⟩
      rcases hswapped _ k (Assoc.mem_of_get?_eq_some hk) with
        ⟨_, now, readable, entry, _, hobject⟩
      have houtcomes : Outcomes ((heartbeatCycle cfg).exec s0 es).history :=
        h.history ▸ hstart.outcomes
      rw [← h.history] at hsorted
      rcases HeartbeatCycle.recent_counts_le cfg houtcomes hsorted now readable entry with
        ⟨hfailures, hsuccesses⟩
      rcases hkept k _ hk hobject with ⟨hcounted, hcounted', _⟩
      rw [h.rows, ← h.history] at hcounted hcounted'
      exact not_counted_of_le _ hrow h.counted.outcome hfailures hsuccesses hcounted hcounted'
    refine ⟨hquiet, hagrees.mpr (hcounts.mp ?_)⟩
    have hdevice : Assoc.get? nodeId ((heartbeatCycle cfg).exec s0 es).finish.devices =
        some i := by
      show Assoc.get? nodeId ((heartbeatCycle cfg).exec s0 es).devices = some i
      rw [hsame hquiet, h.device]
    rcases hkept i peer' hdevice h.after with ⟨hfailures, hsuccesses, _⟩
    rw [h.rows] at hfailures hsuccesses
    exact ⟨hfailures, hsuccesses⟩

/-- A cycle on a peer that has answered once and failed once since. -/
def secondFailure (cfg : EngineConfig) : HeartbeatCycle :=
  let answered := rowOf "peer" (probeRecord (fromEpoch 0) (ProbeOutcome.reply 900))
  let timeout := ProbeOutcome.raised "TimeoutError" ""
  { objects :=
      [countProbe (loadDevice cfg (some [answered]) monitoredEntry) (fromEpoch 60) timeout]
    devices := [("peer", 0)]
    lastAlertFired := []
    effects := []
    history := [answered, rowOf "peer" (probeRecord (fromEpoch 60) timeout)]
    peers := [0]
    results := [] }

theorem secondFailure_started : (secondFailure (EngineConfig.make "self" 2 1 0)).Started := by
  refine ⟨rfl, by decide, by decide, ?_, rfl, rfl, by unfold Outcomes; decide⟩
  intro name i hdevice
  cases List.mem_singleton.mp hdevice
  exact ⟨_, rfl, rfl⟩

def timeoutAt (second : Int) : CycleEvent :=
  CycleEvent.probe 0 none none (fromEpoch second) (ProbeOutcome.raised "TimeoutError" "")

def timeoutRecord (second : Int) : LatencyRecord :=
  probeRecord (fromEpoch second) (ProbeOutcome.raised "TimeoutError" "")

theorem secondFailure_agrees :
    (secondFailure (EngineConfig.make "self" 2 1 0)).Agrees "peer" (timeoutRecord 120) := by
  intro i peer hdevice hobject
  cases hdevice
  cases hobject
  decide

/-- The second failure takes the peer down, and the device has both failures. -/
theorem cycle_keeps_results_down :
    ((heartbeatCycle (EngineConfig.make "self" 2 1 0)).exec
      (secondFailure (EngineConfig.make "self" 2 1 0)) [timeoutAt 120]).finish.Kept "peer" := by
  have hrecorded : ((heartbeatCycle (EngineConfig.make "self" 2 1 0)).exec
      (secondFailure (EngineConfig.make "self" 2 1 0)) [timeoutAt 120]).Recorded "peer"
      (timeoutRecord 120) :=
    ⟨0, _, by decide, rfl, rfl, rfl⟩
  apply (cycle_keeps_results (EngineConfig.make "self" 2 1 0) secondFailure_started
    [timeoutAt 120] hrecorded (by decide)).left
  constructor
  · intro e he hreload
    cases List.mem_singleton.mp he
    exact hreload
  · exact secondFailure_agrees

/--
A reload after the probe: the log has `monitor_down`, the device one failure and
`UNKNOWN`.
-/
theorem cycle_loses_results :
    ¬ forall (cfg : EngineConfig) (s0 : HeartbeatCycle) (es : List CycleEvent)
      (nodeId : String) (record : LatencyRecord), s0.Started -> s0.Agrees nodeId record ->
        ((heartbeatCycle cfg).exec s0 es).Recorded nodeId record ->
        nodeId ∈ Assoc.keys ((heartbeatCycle cfg).exec s0 es).devices ->
        ((heartbeatCycle cfg).exec s0 es).finish.Kept nodeId := by
  intro hclaim
  have hkept := hclaim (EngineConfig.make "self" 2 1 0)
    (secondFailure (EngineConfig.make "self" 2 1 0))
    [timeoutAt 120, CycleEvent.reload (fromEpoch 121) [monitoredEntry] true] "peer"
    (timeoutRecord 120) secondFailure_started secondFailure_agrees
    ⟨0, _, by decide, rfl, rfl, rfl⟩ (by decide)
  have hstatus := (hkept 1 _ rfl rfl).right.right MonitorOp.monitorDown (by decide)
  revert hstatus
  decide

end Liveness
end PanicMonitr
