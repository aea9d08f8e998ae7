import PanicMonitr.Foundation.Sequences
import PanicMonitr.Foundation.Dict
import PanicMonitr.Trust.Peer
import Mathlib.Data.Rat.Defs

/-!
# The liveness state machine

What the engine does with one probe result or one inbound push: the counters, the
threshold decision, the trust-log entry, the reconnect sync and the webhook.
Everything the code awaits is listed as an effect, in the order it is reached.
-/

namespace PanicMonitr
namespace Liveness

open Foundation
open Trust

/-!
## Runtime state of a peer
-/

inductive PeerStatus where
  | alive
  | dead
  | unknown
  | unreachable
  deriving DecidableEq, Repr

structure PeerEntry where
  nodeId : String
  alias_ : Option String
  deriving DecidableEq

structure LatencyRecord where
  timestamp : Instant
  rttMs : Option Rat
  status : PeerStatus
  deriving DecidableEq

def HISTORY_MAXLEN : Nat := 100

structure PeerState where
  entry : PeerEntry
  latencyHistory : List LatencyRecord
  lastSeen : Option Instant
  consecutiveFailures : Nat
  consecutiveSuccesses : Nat
  currentStatus : PeerStatus
  lastFailReason : Option String
  deriving DecidableEq

namespace PeerState

/-- `PeerState(entry)` -/
def init (entry : PeerEntry) : PeerState :=
  { entry := entry
    latencyHistory := []
    lastSeen := none
    consecutiveFailures := 0
    consecutiveSuccesses := 0
    currentStatus := PeerStatus.unknown
    lastFailReason := none }

/-- `latency_history.append(record)` on a `deque(maxlen=HISTORY_MAXLEN)`. -/
def remember (peer : PeerState) (record : LatencyRecord) : PeerState :=
  { peer with
    latencyHistory := pushBounded HISTORY_MAXLEN peer.latencyHistory record }

end PeerState

/-- The thresholds and the dwell as the engine keeps them: clamped at construction. -/
structure EngineConfig where
  nodeIdStr : String
  downAfter : Nat
  upAfter : Nat
  flapDwellSeconds : Nat
  hdown : 1 <= downAfter
  hup : 1 <= upAfter

/-- The clamping of `MonitorEngine.__init__`. -/
def EngineConfig.make (nodeIdStr : String) (downAfter upAfter flapMinDwell : Int) :
    EngineConfig :=
  { nodeIdStr := nodeIdStr
    downAfter := (max 1 downAfter).toNat
    upAfter := (max 1 upAfter).toNat
    flapDwellSeconds := (max 0 flapMinDwell).toNat
    hdown := by omega
    hup := by omega }

/-!
## Effects
-/

inductive MonitorOp where
  | monitorDown
  | monitorUp
  deriving DecidableEq, Repr

def MonitorOp.name : MonitorOp -> String
  | MonitorOp.monitorDown => "monitor_down"
  | MonitorOp.monitorUp => "monitor_up"

/-- The `data` of a monitor entry. -/
structure TransitionData where
  nodeId : String
  consecutiveCount : Nat
  reason : Option String
  deriving DecidableEq

/-- The webhook event; its `timestamp` is the `isoformat` of the instant kept here. -/
structure MonitorEvent where
  event : MonitorOp
  peerNodeId : String
  peerAlias : Option String
  sourceNodeId : String
  sourceAlias : Option String
  timestamp : Instant
  consecutiveCount : Nat
  reason : Option String
  deriving DecidableEq

/--
The calls `_maybe_transition` makes.  Exceptions of `log.append` and of `notify`
are caught where they are raised, so nothing after them depends on their outcome.
-/
inductive Effect where
  | reconnectSync (now : Instant)
  | logAppend (op : MonitorOp) (data : TransitionData)
  | notify (event : MonitorEvent)
  deriving DecidableEq

/-- The monitor entries among a list of calls, oldest first. -/
def monitorOps (effects : List Effect) : List MonitorOp :=
  effects.filterMap (fun
    | Effect.logAppend op _ => some op
    | _ => none)

@[simp] theorem monitorOps_append (before after : List Effect) :
    monitorOps (before ++ after) = monitorOps before ++ monitorOps after :=
  List.filterMap_append

/-!
## `_maybe_transition`
-/

/-- The threshold decision on a record: the local `new_state`. -/
def newState (cfg : EngineConfig) (peer : PeerState) (record : LatencyRecord) :
    Option PeerStatus :=
  let prev := peer.currentStatus
  if record.status = PeerStatus.alive then
    if prev = PeerStatus.unknown then
      some PeerStatus.alive
    else if prev ≠ PeerStatus.alive ∧ cfg.upAfter <= peer.consecutiveSuccesses then
      some PeerStatus.alive
    else
      none
  else if prev = PeerStatus.alive ∧ cfg.downAfter <= peer.consecutiveFailures then
    some PeerStatus.dead
  else
    none

def eventType (new : PeerStatus) : MonitorOp :=
  if new = PeerStatus.alive then MonitorOp.monitorUp else MonitorOp.monitorDown

/-- The local `data`; an empty reason is falsy and left out. -/
def transitionData (peer : PeerState) (op : MonitorOp) : TransitionData :=
  { nodeId := peer.entry.nodeId
    consecutiveCount :=
      match op with
      | MonitorOp.monitorDown => peer.consecutiveFailures
      | MonitorOp.monitorUp => peer.consecutiveSuccesses
    reason :=
      match op with
      | MonitorOp.monitorDown => peer.lastFailReason.filter (fun r => r ≠ "")
      | MonitorOp.monitorUp => none }

/-- The last alert of the peer is closer than the minimum dwell. -/
def flapSuppressed (cfg : EngineConfig) (lastAlertFired : List (String × Instant))
    (nodeId : String) (now : Instant) : Bool :=
  match Assoc.get? nodeId lastAlertFired with
  | none => false
  | some last =>
      cfg.flapDwellSeconds ≠ 0 ∧
        now - last < (cfg.flapDwellSeconds : Int) * microsPerSecond

/-- The engine's state that belongs to one peer, and the calls made so far. -/
structure Monitored where
  peer : PeerState
  lastAlertFired : List (String × Instant)
  effects : List Effect

namespace Monitored

def call (m : Monitored) (effect : Effect) : Monitored :=
  { m with effects := m.effects ++ [effect] }

def setStatus (m : Monitored) (new : PeerStatus) : Monitored :=
  { m with peer := { m.peer with currentStatus := new } }

@[simp] theorem call_peer (m : Monitored) (effect : Effect) :
    (m.call effect).peer = m.peer := rfl

@[simp] theorem call_effects (m : Monitored) (effect : Effect) :
    (m.call effect).effects = m.effects ++ [effect] := rfl

end Monitored

/-- The end of `_maybe_transition`: the webhook, behind the flap gate. -/
def alert (cfg : EngineConfig) (m : Monitored) (op : MonitorOp)
    (data : TransitionData) (now : Instant) : Monitored :=
  if flapSuppressed cfg m.lastAlertFired m.peer.entry.nodeId now then m
  else
    let event : MonitorEvent :=
      { event := op
        peerNodeId := m.peer.entry.nodeId
        peerAlias := m.peer.entry.alias_
        sourceNodeId := cfg.nodeIdStr
        sourceAlias := none
        timestamp := now
        consecutiveCount := data.consecutiveCount
        reason := data.reason }
    { m with
      lastAlertFired := Assoc.set m.peer.entry.nodeId now m.lastAlertFired
    }.call (Effect.notify event)

/-- A peer that comes back from `DEAD` gets a reconnect sync. -/
def syncOnReconnect (m : Monitored) (prev new : PeerStatus) (now : Instant) :
    Monitored :=
  if new = PeerStatus.alive ∧ prev = PeerStatus.dead then
    m.call (Effect.reconnectSync now)
  else m

/--
`_maybe_transition(peer, record, now)`.  The flag says that `in_maintenance` raised
on a naive window; the status has been changed by then.
-/
def maybeTransition (cfg : EngineConfig) (trusted : Option TrustedPeer)
    (m : Monitored) (record : LatencyRecord) (now : Instant) : Monitored × Bool :=
  let prev := m.peer.currentStatus
  match newState cfg m.peer record with
  | none => (m, false)
  | some new =>
      if new = prev then (m, false)
      else
        let m' := syncOnReconnect (m.setStatus new) prev new now
        if prev = PeerStatus.unknown then (m', false)
        else
          match trusted.map (fun peer => peer.inMaintenance now) with
          | some none => (m', true)
          | some (some true) => (m', false)
          | _ =>
              let op := eventType new
              let data := transitionData m'.peer op
              (alert cfg (m'.call (Effect.logAppend op data)) op data now, false)

/-!
## `_probe_peer` and `_record_push_from`
-/

inductive ProbeOutcome where
  | reply (rttUs : Nat)
  | raised (failType failMsg : String)
  deriving DecidableEq

/-- `f"{fail_type}: {fail_msg}"[:200]` -/
def failReason (failType failMsg : String) : String :=
  String.ofList ((failType ++ ": " ++ failMsg).toList.take 200)

def probeRecord (now : Instant) : ProbeOutcome -> LatencyRecord
  | ProbeOutcome.reply rttUs =>
      { timestamp := now
        rttMs := if rttUs = 0 then none else some ((rttUs : Rat) / 1000)
        status := PeerStatus.alive }
  | ProbeOutcome.raised _ _ =>
      { timestamp := now, rttMs := none, status := PeerStatus.dead }

/-- The bookkeeping of `_probe_peer` under the state lock, before the transition. -/
def countProbe (peer : PeerState) (now : Instant) (outcome : ProbeOutcome) : PeerState :=
  let counted :=
    match outcome with
    | ProbeOutcome.reply _ =>
        { peer with
          lastSeen := some now
          consecutiveFailures := 0
          consecutiveSuccesses := peer.consecutiveSuccesses + 1
          lastFailReason := none }
    | ProbeOutcome.raised failType failMsg =>
        { peer with
          consecutiveFailures := peer.consecutiveFailures + 1
          consecutiveSuccesses := 0
          lastFailReason := some (failReason failType failMsg) }
  counted.remember (probeRecord now outcome)

/--
`_probe_peer(peer)`: `now` is read before the dial, `before` and `after` are what
`get_peer` answers at the maintenance check and in the transition.  The second
component is the record handed to the history batch, if any: a skipped probe and a
raising one hand over none.
-/
def probePeer (cfg : EngineConfig) (before after : Option TrustedPeer) (m : Monitored)
    (now : Instant) (outcome : ProbeOutcome) : Monitored × Option LatencyRecord :=
  match before.map (fun peer => peer.inMaintenance now) with
  | some none => (m, none)
  | some (some true) => (m, none)
  | _ =>
      let record := probeRecord now outcome
      let counted := { m with peer := countProbe m.peer now outcome }
      match maybeTransition cfg after counted record now with
      | (m', false) => (m', some record)
      | (m', true) => (m', none)

def pushRecord (now : Instant) : LatencyRecord :=
  { timestamp := now, rttMs := none, status := PeerStatus.alive }

/-- The bookkeeping of `_record_push_from`, before the transition. -/
def countPush (peer : PeerState) (now : Instant) : PeerState :=
  { peer with
    lastSeen := some now
    consecutiveFailures := 0
    consecutiveSuccesses := peer.consecutiveSuccesses + 1
    lastFailReason := none
  }.remember (pushRecord now)

/-- `_record_push_from` for a peer of the dashboard. -/
def recordPushFrom (cfg : EngineConfig) (trusted : Option TrustedPeer) (m : Monitored)
    (now : Instant) : Monitored :=
  let counted := { m with peer := countPush m.peer now }
  (maybeTransition cfg trusted counted (pushRecord now) now).1

/-!
## What a transition does

One case analysis of `_maybe_transition`, outside maintenance windows; everything
later is derived from it.
-/

/-- The status after a record: the decision if there is one. -/
def nextStatus (cfg : EngineConfig) (peer : PeerState) (record : LatencyRecord) :
    PeerStatus :=
  (newState cfg peer record).getD peer.currentStatus

/-- The entry a status change calls for; leaving `UNKNOWN` calls for none. -/
def changeOps (prev new : PeerStatus) : List MonitorOp :=
  if new = prev ∨ prev = PeerStatus.unknown then [] else [eventType new]

theorem alert_peer (cfg : EngineConfig) (m : Monitored) (op : MonitorOp)
    (data : TransitionData) (now : Instant) : (alert cfg m op data now).peer = m.peer := by
  unfold alert
  split <;> rfl

theorem alert_monitorOps (cfg : EngineConfig) (m : Monitored) (op : MonitorOp)
    (data : TransitionData) (now : Instant) :
    monitorOps (alert cfg m op data now).effects = monitorOps m.effects := by
  unfold alert
  split
  · rfl
  · simp [monitorOps]

theorem syncOnReconnect_peer (m : Monitored) (prev new : PeerStatus) (now : Instant) :
    (syncOnReconnect m prev new now).peer = m.peer := by
  unfold syncOnReconnect
  split <;> rfl

theorem syncOnReconnect_monitorOps (m : Monitored) (prev new : PeerStatus)
    (now : Instant) :
    monitorOps (syncOnReconnect m prev new now).effects = monitorOps m.effects := by
  unfold syncOnReconnect
  split
  · simp [monitorOps]
  · rfl

/-- The peer changes only in its status, whatever the maintenance window says. -/
theorem maybeTransition_peer (cfg : EngineConfig) (trusted : Option TrustedPeer)
    (m : Monitored) (record : LatencyRecord) (now : Instant) :
    (maybeTransition cfg trusted m record now).1.peer =
      { m.peer with currentStatus := nextStatus cfg m.peer record } := by
  unfold maybeTransition nextStatus
  cases newState cfg m.peer record with
  | none => rfl
  | some new =>
      simp only [Option.getD_some]
      by_cases hsame : new = m.peer.currentStatus
      · rw [if_pos hsame, hsame]
      · rw [if_neg hsame]
        have hmoved := syncOnReconnect_peer (m.setStatus new) m.peer.currentStatus new now
        split
        · exact hmoved
        · split
          · exact hmoved
          · exact hmoved
          · rw [alert_peer, Monitored.call_peer]
            exact hmoved

theorem outsideMaintenance_cases {trusted : Option TrustedPeer} {now : Instant}
    (hquiet : OutsideMaintenance trusted now) :
    trusted.map (fun peer => peer.inMaintenance now) = none ∨
      trusted.map (fun peer => peer.inMaintenance now) = some (some false) := by
  cases trusted with
  | none => exact Or.inl rfl
  | some peer => exact Or.inr (congrArg some (hquiet peer rfl))

/-- Outside maintenance nothing raises, and the log is told of every status change. -/
theorem maybeTransition_quiet (cfg : EngineConfig) {trusted : Option TrustedPeer}
    (m : Monitored) (record : LatencyRecord) {now : Instant}
    (hquiet : OutsideMaintenance trusted now) :
    (maybeTransition cfg trusted m record now).2 = false ∧
      monitorOps (maybeTransition cfg trusted m record now).1.effects =
        monitorOps m.effects ++
          changeOps m.peer.currentStatus (nextStatus cfg m.peer record) := by
  unfold maybeTransition nextStatus changeOps
  cases newState cfg m.peer record with
  | none => simp
  | some new =>
      simp only [Option.getD_some]
      by_cases hsame : new = m.peer.currentStatus
      · simp [hsame]
      · rw [if_neg hsame]
        have hsynced := syncOnReconnect_monitorOps (m.setStatus new)
          m.peer.currentStatus new now
        by_cases hunknown : m.peer.currentStatus = PeerStatus.unknown
        · rw [if_pos hunknown, if_pos (Or.inr hunknown), List.append_nil]
          exact ⟨rfl, hsynced⟩
        · rw [if_neg hunknown, if_neg (not_or.mpr ⟨hsame, hunknown⟩)]
          have hlogged : forall op data,
              monitorOps ((syncOnReconnect (m.setStatus new) m.peer.currentStatus new
                now).call (Effect.logAppend op data)).effects =
                monitorOps m.effects ++ [op] := by
            intro op data
            rw [Monitored.call_effects, monitorOps_append, hsynced]
            rfl
          rcases outsideMaintenance_cases hquiet with hnone | hfalse
          · rw [hnone]
            exact ⟨rfl, (alert_monitorOps _ _ _ _ _).trans (hlogged _ _)⟩
          · rw [hfalse]
            exact ⟨rfl, (alert_monitorOps _ _ _ _ _).trans (hlogged _ _)⟩

end Liveness
end PanicMonitr
