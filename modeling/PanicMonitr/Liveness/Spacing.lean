import PanicMonitr.Liveness.Alerts

/-!
# The webhooks of many peers

Every peer of the dashboard shares the table of last alerts, which history GC prunes.  The
webhooks of one peer are a dwell apart and do not depend on the other peers, and the log is
told of every change outside maintenance unless a naive window makes the check raise.
-/

namespace PanicMonitr
namespace Liveness

open Foundation
open Trust

/-!
## What an observation reports

The reports as functions of the peer and the time of its last alert.
-/

section Reported

variable (cfg : EngineConfig)

/-- The observation takes a peer over a threshold, and it is not the first one that counts. -/
def Turns (peer : PeerState) (o : Observation) : Prop :=
  o.Made ∧ nextStatus cfg (o.count peer) o.record ≠ peer.currentStatus ∧
    peer.currentStatus ≠ PeerStatus.unknown

instance (peer : PeerState) (o : Observation) : Decidable (Turns cfg peer o) :=
  inferInstanceAs (Decidable (_ ∧ _))

instance (o : Observation) : Decidable o.Outside :=
  inferInstanceAs (Decidable (_ ∨ _))

theorem observe_made_status (m : Monitored) {o : Observation} (hmade : o.Made) :
    (observe cfg m o).peer.currentStatus = nextStatus cfg (o.count m.peer) o.record := by
  rw [observe_made cfg m hmade, maybeTransition_peer]

theorem observe_peer_eq {m m' : Monitored} (hpeer : m.peer = m'.peer) (o : Observation) :
    (observe cfg m o).peer = (observe cfg m' o).peer := by
  by_cases hmade : o.Made
  · rw [observe_made cfg m hmade, observe_made cfg m' hmade, maybeTransition_peer,
      maybeTransition_peer, hpeer]
  · rw [observe_skipped cfg m hmade, observe_skipped cfg m' hmade, hpeer]

theorem turns_iff (m : Monitored) (o : Observation) :
    Turns cfg m.peer o <->
      (observe cfg m o).peer.currentStatus ≠ m.peer.currentStatus ∧
        m.peer.currentStatus ≠ PeerStatus.unknown := by
  by_cases hmade : o.Made
  · rw [observe_made_status cfg m hmade]
    exact ⟨fun h => h.right, fun h => ⟨hmade, h⟩⟩
  · rw [observe_skipped cfg m hmade]
    exact ⟨fun h => absurd h.left hmade, fun h => absurd rfl h.left⟩

/-- The entry of the status a peer turns to. -/
def turnEntry (peer : PeerState) (o : Observation) : MonitorOp × TransitionData :=
  entryFor peer o (nextStatus cfg (o.count peer) o.record)

def newLogs (peer : PeerState) (o : Observation) : List (MonitorOp × TransitionData) :=
  if Turns cfg peer o ∧ o.Outside then [turnEntry cfg peer o] else []

def newWebhooks (m : Monitored) (o : Observation) : List MonitorEvent :=
  if (Turns cfg m.peer o ∧ o.Outside) ∧
      flapSuppressed cfg m.lastAlertFired m.peer.entry.nodeId o.record.timestamp = false then
    [webhookFor cfg m.peer o (nextStatus cfg (o.count m.peer) o.record)]
  else []

/-- An observation adds its reports, and stamps the table for each webhook. -/
theorem observe_reported (m : Monitored) (o : Observation) :
    logs (observe cfg m o).effects = logs m.effects ++ newLogs cfg m.peer o ∧
      webhooks (observe cfg m o).effects = webhooks m.effects ++ newWebhooks cfg m o ∧
      (observe cfg m o).lastAlertFired =
        if newWebhooks cfg m o = [] then m.lastAlertFired
        else Assoc.set m.peer.entry.nodeId o.record.timestamp m.lastAlertFired := by
  unfold newLogs newWebhooks turnEntry
  cases observe_reports cfg m o with
  | silent hreason hlogs hwebhooks hfired =>
      have hnot : ¬ (Turns cfg m.peer o ∧ o.Outside) := by
        intro h
        have hturns := (turns_iff cfg m o).mp h.left
        rcases hreason with hsame | hunknown | hinside
        · exact hturns.left hsame
        · exact hturns.right hunknown
        · exact hinside h.right
      rw [if_neg hnot, if_neg (fun h => hnot h.left), if_pos rfl, List.append_nil,
        List.append_nil]
      exact ⟨hlogs, hwebhooks, hfired⟩
  | held hchange hknown hout hflap hlogs hwebhooks hfired =>
      have hturns : Turns cfg m.peer o ∧ o.Outside :=
        ⟨(turns_iff cfg m o).mpr ⟨hchange, hknown⟩, hout⟩
      rw [observe_made_status cfg m hturns.left.left] at hlogs
      rw [if_pos hturns, if_neg (fun h => by rw [hflap] at h; exact nomatch h.right),
        if_pos rfl, List.append_nil]
      exact ⟨hlogs, hwebhooks, hfired⟩
  | fired hchange hknown hout hflap hlogs hwebhooks hfired =>
      have hturns : Turns cfg m.peer o ∧ o.Outside :=
        ⟨(turns_iff cfg m o).mpr ⟨hchange, hknown⟩, hout⟩
      rw [observe_made_status cfg m hturns.left.left] at hlogs hwebhooks
      rw [if_pos hturns, if_pos ⟨hturns, hflap⟩, if_neg (List.cons_ne_nil _ _)]
      exact ⟨hlogs, hwebhooks, hfired⟩

/-- A webhook carries the clock reading and the node id of its observation. -/
theorem mem_newWebhooks {m : Monitored} {o : Observation} {event : MonitorEvent}
    (h : event ∈ newWebhooks cfg m o) :
    event.peerNodeId = m.peer.entry.nodeId ∧ event.timestamp = o.record.timestamp := by
  unfold newWebhooks at h
  split at h
  · rw [List.mem_singleton.mp h]
    refine ⟨?_, rfl⟩
    show (o.count m.peer).entry.nodeId = _
    rw [count_entry]
  · cases h

theorem mem_newLogs {peer : PeerState} {o : Observation} {entry : MonitorOp × TransitionData}
    (h : entry ∈ newLogs cfg peer o) : entry.2.nodeId = peer.entry.nodeId := by
  unfold newLogs at h
  split at h
  · rw [List.mem_singleton.mp h]
    show (o.count peer).entry.nodeId = _
    rw [count_entry]
  · cases h

theorem newWebhooks_eq {m m' : Monitored} (hpeer : m.peer = m'.peer)
    (hfired : Assoc.get? m.peer.entry.nodeId m.lastAlertFired =
      Assoc.get? m.peer.entry.nodeId m'.lastAlertFired) (o : Observation) :
    newWebhooks cfg m o = newWebhooks cfg m' o := by
  have hgate : flapSuppressed cfg m.lastAlertFired m.peer.entry.nodeId o.record.timestamp =
      flapSuppressed cfg m'.lastAlertFired m.peer.entry.nodeId o.record.timestamp := by
    unfold flapSuppressed
    rw [hfired]
  unfold newWebhooks
  rw [hgate, hpeer]

/-- What a webhook says, as the log says it. -/
def loggedAs (event : MonitorEvent) : MonitorOp × TransitionData :=
  (event.event,
    { nodeId := event.peerNodeId
      consecutiveCount := event.consecutiveCount
      reason := event.reason })

theorem newWebhooks_sublist (m : Monitored) (o : Observation) :
    ((newWebhooks cfg m o).map loggedAs).Sublist (newLogs cfg m.peer o) := by
  unfold newWebhooks newLogs
  by_cases hlogged : Turns cfg m.peer o ∧ o.Outside
  · rw [if_pos hlogged]
    split
    · exact List.Sublist.refl _
    · exact List.nil_sublist _
  · rw [if_neg hlogged, if_neg (fun h => hlogged h.left)]
    exact List.nil_sublist _

end Reported

/-!
## The board
-/

/--
`changes` is a history variable: the entries of the status changes that are neither first
observations nor inside a window.
-/
structure Board where
  devices : List (String × PeerState)
  lastAlertFired : List (String × Instant)
  effects : List Effect
  changes : List (MonitorOp × TransitionData)

inductive BoardEvent where
  | observe (nodeId : String) (o : Observation)
  | historyGc

namespace Board

/-- The part of the engine's state that an observation of a peer works on. -/
def monitored (w : Board) (peer : PeerState) : Monitored :=
  { peer := peer, lastAlertFired := w.lastAlertFired, effects := w.effects }

/-- The state an observation is made on: a push of a peer that is no target gets a new one. -/
def state? (w : Board) (nodeId : String) : Observation -> Option PeerState
  | Observation.probe _ _ _ _ => Assoc.get? nodeId w.devices
  | Observation.push trusted _ =>
      some ((Assoc.get? nodeId w.devices).getD
        (PeerState.init { nodeId := nodeId, alias_ := trusted.bind TrustedPeer.alias_ }))

/-- The entry of a change that is neither a first observation nor inside a window. -/
def owed (cfg : EngineConfig) (m : Monitored) (o : Observation) :
    List (MonitorOp × TransitionData) :=
  if ((observe cfg m o).peer.currentStatus ≠ m.peer.currentStatus ∧
      m.peer.currentStatus ≠ PeerStatus.unknown) ∧ o.window ≠ some (some true) then
    [entryFor m.peer o (observe cfg m o).peer.currentStatus]
  else []

/-- The new state of a peer that is no target is not kept. -/
def see (cfg : EngineConfig) (w : Board) (nodeId : String) (peer : PeerState)
    (o : Observation) : Board :=
  let m := observe cfg (w.monitored peer) o
  { devices :=
      if nodeId ∈ Assoc.keys w.devices then Assoc.set nodeId m.peer w.devices else w.devices
    lastAlertFired := m.lastAlertFired
    effects := m.effects
    changes := w.changes ++ owed cfg (w.monitored peer) o }

def step (cfg : EngineConfig) (w : Board) : BoardEvent -> Board
  | BoardEvent.observe nodeId o =>
      match w.state? nodeId o with
      | none => w
      | some peer => w.see cfg nodeId peer o
  | BoardEvent.historyGc =>
      { w with
        lastAlertFired := w.lastAlertFired.filter
          (fun fired => decide (fired.1 ∈ Assoc.keys w.devices)) }

/-- Every target is kept under its node id. -/
def Keyed (w : Board) : Prop :=
  forall nodeId peer, Assoc.get? nodeId w.devices = some peer -> peer.entry.nodeId = nodeId

structure Start (w : Board) : Prop where
  keyed : w.Keyed
  effects : w.effects = []
  changes : w.changes = []

end Board

def board (cfg : EngineConfig) : Machine Board BoardEvent where
  start := Board.Start
  step := Board.step cfg

/-- A change outside maintenance finds a window that can be compared with the clock. -/
def Comparable (cfg : EngineConfig) (w : Board) : BoardEvent -> Prop
  | BoardEvent.observe nodeId o =>
      forall peer, w.state? nodeId o = some peer -> Turns cfg peer o -> o.window ≠ some none
  | BoardEvent.historyGc => True

def BoardEvent.about (nodeId : String) : BoardEvent -> Bool
  | BoardEvent.observe nodeId' _ => decide (nodeId' = nodeId)
  | BoardEvent.historyGc => false

structure PeerView where
  peer : Option PeerState
  lastAlert : Option Instant
  logs : List (MonitorOp × TransitionData)
  webhooks : List MonitorEvent

def Board.view (w : Board) (nodeId : String) : PeerView where
  peer := Assoc.get? nodeId w.devices
  lastAlert := Assoc.get? nodeId w.lastAlertFired
  logs := (logs w.effects).filter (fun entry => decide (entry.2.nodeId = nodeId))
  webhooks := (webhooks w.effects).filter (fun event => decide (event.peerNodeId = nodeId))

section Steps

variable (cfg : EngineConfig)

theorem state?_nodeId {w : Board} (h : w.Keyed) {nodeId : String} {o : Observation}
    {peer : PeerState} (hpeer : w.state? nodeId o = some peer) :
    peer.entry.nodeId = nodeId := by
  cases o with
  | probe before after now outcome => exact h nodeId peer hpeer
  | push trusted now =>
      have hpushed : (Assoc.get? nodeId w.devices).getD
          (PeerState.init { nodeId := nodeId, alias_ := trusted.bind TrustedPeer.alias_ }) =
            peer := Option.some.inj hpeer
      rw [← hpushed]
      cases hdevice : Assoc.get? nodeId w.devices with
      | none => rfl
      | some device => exact h nodeId device hdevice

theorem state?_target {w : Board} {nodeId : String} {peer : PeerState}
    (hpeer : Assoc.get? nodeId w.devices = some peer) (o : Observation) :
    w.state? nodeId o = some peer := by
  cases o with
  | probe before after now outcome => exact hpeer
  | push trusted now =>
      rw [Board.state?, hpeer]
      rfl

theorem board_observe {w : Board} {nodeId : String} {o : Observation} {peer : PeerState}
    (hpeer : w.state? nodeId o = some peer) :
    (board cfg).step w (BoardEvent.observe nodeId o) = w.see cfg nodeId peer o := by
  show Board.step cfg w (BoardEvent.observe nodeId o) = _
  rw [Board.step, hpeer]

theorem board_observe_none {w : Board} {nodeId : String} {o : Observation}
    (hnone : w.state? nodeId o = none) :
    (board cfg).step w (BoardEvent.observe nodeId o) = w := by
  show Board.step cfg w (BoardEvent.observe nodeId o) = _
  rw [Board.step, hnone]

theorem board_keys (w : Board) (e : BoardEvent) :
    Assoc.keys ((board cfg).step w e).devices = Assoc.keys w.devices := by
  cases e with
  | historyGc => rfl
  | observe nodeId o =>
      cases hpeer : w.state? nodeId o with
      | none => rw [board_observe_none cfg hpeer]
      | some peer =>
          rw [board_observe cfg hpeer]
          show Assoc.keys (if nodeId ∈ Assoc.keys w.devices then _ else _) = _
          by_cases htarget : nodeId ∈ Assoc.keys w.devices
          · rw [if_pos htarget, Assoc.keys_set, if_pos htarget]
          · rw [if_neg htarget]

theorem keyed_step {w : Board} (h : w.Keyed) (e : BoardEvent) :
    ((board cfg).step w e).Keyed := by
  cases e with
  | historyGc => exact h
  | observe nodeId o =>
      cases hpeer : w.state? nodeId o with
      | none =>
          rw [board_observe_none cfg hpeer]
          exact h
      | some peer =>
          rw [board_observe cfg hpeer]
          intro nodeId' peer' hpeer'
          have hdevices : Assoc.get? nodeId' (if nodeId ∈ Assoc.keys w.devices then
              Assoc.set nodeId (observe cfg (w.monitored peer) o).peer w.devices
            else w.devices) = some peer' := hpeer'
          by_cases htarget : nodeId ∈ Assoc.keys w.devices
          · rw [if_pos htarget] at hdevices
            rcases Assoc.of_get?_set hdevices with ⟨hsame, hset⟩ | ⟨_, hold⟩
            · rw [hset, hsame, observe_keeps_entry]
              exact state?_nodeId h hpeer
            · exact h nodeId' peer' hold
          · rw [if_neg htarget] at hdevices
            exact h nodeId' peer' hdevices

def newReports (w : Board) : BoardEvent ->
    List (MonitorOp × TransitionData) × List MonitorEvent
  | BoardEvent.observe nodeId o =>
      match w.state? nodeId o with
      | none => ([], [])
      | some peer => (newLogs cfg peer o, newWebhooks cfg (w.monitored peer) o)
  | BoardEvent.historyGc => ([], [])

theorem board_reports (w : Board) (e : BoardEvent) :
    logs ((board cfg).step w e).effects = logs w.effects ++ (newReports cfg w e).1 ∧
      webhooks ((board cfg).step w e).effects = webhooks w.effects ++ (newReports cfg w e).2 := by
  cases e with
  | historyGc =>
      exact ⟨(List.append_nil _).symm, (List.append_nil _).symm⟩
  | observe nodeId o =>
      cases hpeer : w.state? nodeId o with
      | none =>
          rw [board_observe_none cfg hpeer, newReports, hpeer]
          exact ⟨(List.append_nil _).symm, (List.append_nil _).symm⟩
      | some peer =>
          rw [board_observe cfg hpeer, newReports, hpeer]
          rcases observe_reported cfg (w.monitored peer) o with ⟨hlogs, hwebhooks, _⟩
          exact ⟨hlogs, hwebhooks⟩

theorem newReports_sublist (w : Board) (e : BoardEvent) :
    ((newReports cfg w e).2.map loggedAs).Sublist (newReports cfg w e).1 := by
  cases e with
  | historyGc => exact List.Sublist.refl _
  | observe nodeId o =>
      rw [newReports]
      cases w.state? nodeId o with
      | none => exact List.Sublist.refl _
      | some peer => exact newWebhooks_sublist cfg (w.monitored peer) o

/-!
## One peer among the others
-/

/-- An event about another peer, or a history GC, leaves a target alone. -/
theorem view_other {w : Board} (h : w.Keyed) {nodeId : String}
    (htarget : nodeId ∈ Assoc.keys w.devices) {e : BoardEvent}
    (hother : e.about nodeId = false) :
    ((board cfg).step w e).view nodeId = w.view nodeId := by
  cases e with
  | historyGc =>
      have hkept := Assoc.get?_filter_keys (p := fun k => decide (k ∈ Assoc.keys w.devices))
        (decide_eq_true htarget) w.lastAlertFired
      show PeerView.mk _ (Assoc.get? nodeId (w.lastAlertFired.filter _)) _ _ = _
      rw [hkept]
      rfl
  | observe nodeId' o =>
      have hne : nodeId' ≠ nodeId := of_decide_eq_false hother
      cases hpeer : w.state? nodeId' o with
      | none => rw [board_observe_none cfg hpeer]
      | some peer =>
          have hpeerId := state?_nodeId h hpeer
          rcases observe_reported cfg (w.monitored peer) o with ⟨hlogs, hwebhooks, hfired⟩
          have hnoLogs : (newLogs cfg peer o).filter
              (fun entry => decide (entry.2.nodeId = nodeId)) = [] := by
            apply List.filter_eq_nil_iff.mpr
            intro entry hentry hnodeId
            rw [mem_newLogs cfg hentry] at hnodeId
            exact hne (hpeerId.symm.trans (of_decide_eq_true hnodeId))
          have hnoWebhooks : (newWebhooks cfg (w.monitored peer) o).filter
              (fun event => decide (event.peerNodeId = nodeId)) = [] := by
            apply List.filter_eq_nil_iff.mpr
            intro event hevent hnodeId
            rw [(mem_newWebhooks cfg hevent).left] at hnodeId
            exact hne (hpeerId.symm.trans (of_decide_eq_true hnodeId))
          rw [board_observe cfg hpeer]
          unfold Board.view Board.see
          simp only
          congr 1
          · split
            · rw [Assoc.get?_set_of_ne (Ne.symm hne)]
            · rfl
          · rw [hfired]
            split
            · rfl
            · rw [Assoc.get?_set_of_ne]
              · rfl
              · intro hsame
                exact hne (hpeerId.symm.trans hsame.symm)
          · rw [hlogs, List.filter_append]
            exact (congrArg _ hnoLogs).trans (List.append_nil _)
          · rw [hwebhooks, List.filter_append]
            exact (congrArg _ hnoWebhooks).trans (List.append_nil _)

theorem view_own {w : Board} (h : w.Keyed) {nodeId : String} {peer : PeerState}
    (hpeer : Assoc.get? nodeId w.devices = some peer) (o : Observation) :
    ((board cfg).step w (BoardEvent.observe nodeId o)).view nodeId =
      { peer := some (observe cfg (w.monitored peer) o).peer
        lastAlert :=
          if newWebhooks cfg (w.monitored peer) o = [] then (w.view nodeId).lastAlert
          else some o.record.timestamp
        logs := (w.view nodeId).logs ++ newLogs cfg peer o
        webhooks := (w.view nodeId).webhooks ++ newWebhooks cfg (w.monitored peer) o } := by
  have htarget : nodeId ∈ Assoc.keys w.devices := by
    by_contra hnone
    rw [Assoc.get?_eq_none_iff.mpr hnone] at hpeer
    cases hpeer
  have hpeerId := h nodeId peer hpeer
  rcases observe_reported cfg (w.monitored peer) o with ⟨hlogs, hwebhooks, hfired⟩
  rw [board_observe cfg (state?_target hpeer o)]
  unfold Board.view Board.see
  simp only
  congr 1
  · rw [if_pos htarget, Assoc.get?_set_self]
  · rw [hfired]
    split
    · rfl
    · show Assoc.get? nodeId (Assoc.set peer.entry.nodeId _ _) = _
      rw [hpeerId, Assoc.get?_set_self]
  · rw [hlogs, List.filter_append]
    congr 1
    apply List.filter_eq_self.mpr
    intro entry hentry
    rw [mem_newLogs cfg hentry]
    exact decide_eq_true hpeerId
  · rw [hwebhooks, List.filter_append]
    congr 1
    apply List.filter_eq_self.mpr
    intro event hevent
    rw [(mem_newWebhooks cfg hevent).left]
    exact decide_eq_true hpeerId

/-- Two boards that agree on a target agree on it after the same observation of it. -/
theorem view_own_congr {w w' : Board} (h : w.Keyed) (h' : w'.Keyed) {nodeId : String}
    (htarget : nodeId ∈ Assoc.keys w.devices) (hview : w.view nodeId = w'.view nodeId)
    (o : Observation) :
    ((board cfg).step w (BoardEvent.observe nodeId o)).view nodeId =
      ((board cfg).step w' (BoardEvent.observe nodeId o)).view nodeId := by
  cases hpeer : Assoc.get? nodeId w.devices with
  | none => exact absurd htarget (Assoc.get?_eq_none_iff.mp hpeer)
  | some peer =>
      have hpeer' : Assoc.get? nodeId w'.devices = some peer := by
        rw [← hpeer]
        exact (congrArg PeerView.peer hview).symm
      have hsame : (w.monitored peer).peer = (w'.monitored peer).peer := rfl
      have hgate : Assoc.get? peer.entry.nodeId w.lastAlertFired =
          Assoc.get? peer.entry.nodeId w'.lastAlertFired := by
        rw [h nodeId peer hpeer]
        exact congrArg PeerView.lastAlert hview
      rw [view_own cfg h hpeer, view_own cfg h' hpeer', hview, newWebhooks_eq cfg hsame hgate,
        observe_peer_eq cfg hsame]

/-- A target is reported on as if there were no other peer and no history GC. -/
theorem view_exec {w w' : Board} (h : w.Keyed) (h' : w'.Keyed) {nodeId : String}
    (htarget : nodeId ∈ Assoc.keys w.devices) (hview : w.view nodeId = w'.view nodeId)
    (es : List BoardEvent) :
    ((board cfg).exec w es).view nodeId =
      ((board cfg).exec w' (es.filter (BoardEvent.about nodeId))).view nodeId := by
  induction es generalizing w w' with
  | nil => exact hview
  | cons e es ih =>
      have hkept : nodeId ∈ Assoc.keys ((board cfg).step w e).devices := by
        rw [board_keys]
        exact htarget
      cases habout : e.about nodeId with
      | false =>
          rw [List.filter_cons_of_neg (by rw [habout]; exact Bool.false_ne_true)]
          exact ih (keyed_step cfg h e) h' hkept
            ((view_other cfg h htarget habout).trans hview)
      | true =>
          rw [List.filter_cons_of_pos habout]
          apply ih (keyed_step cfg h e) (keyed_step cfg h' e) hkept
          cases e with
          | historyGc => cases habout
          | observe nodeId' o =>
              rw [of_decide_eq_true habout]
              exact view_own_congr cfg h h' htarget hview o

/-!
## The webhooks of a target
-/

def Board.firedAt (w : Board) (nodeId : String) : List Instant :=
  (w.view nodeId).webhooks.map MonitorEvent.timestamp

/-- The table remembers the last webhook, and each is a dwell after the one before it. -/
structure Spaced (w : Board) (nodeId : String) : Prop where
  last : forall t, (w.firedAt nodeId).getLast? = some t ->
    (w.view nodeId).lastAlert = some t
  ascending : (w.firedAt nodeId).Pairwise (fun s t => s + cfg.dwell <= t)

theorem dwell_trans (r s t : Instant) (hrs : r + cfg.dwell <= s) (hst : s + cfg.dwell <= t) :
    r + cfg.dwell <= t := by
  have hnonneg : 0 <= cfg.dwell :=
    Int.mul_nonneg (Int.natCast_nonneg _) (by decide)
  exact Int.le_trans (Int.le_trans hrs (Int.le_add_of_nonneg_right hnonneg)) hst

theorem dwell_of_open {m : Monitored} {t last : Instant} (hdwell : cfg.flapDwellSeconds ≠ 0)
    (hopen : flapSuppressed cfg m.lastAlertFired m.peer.entry.nodeId t = false)
    (hlast : Assoc.get? m.peer.entry.nodeId m.lastAlertFired = some last) :
    last + cfg.dwell <= t := by
  unfold flapSuppressed at hopen
  rw [hlast] at hopen
  have hfar : ¬ (cfg.flapDwellSeconds ≠ 0 ∧
      t - last < (cfg.flapDwellSeconds : Int) * microsPerSecond) :=
    of_decide_eq_false hopen
  have hdiff : cfg.dwell <= t - last := Int.not_lt.mp (fun hlt => hfar ⟨hdwell, hlt⟩)
  exact Int.add_le_of_le_sub_left hdiff

theorem Spaced.step (hdwell : cfg.flapDwellSeconds ≠ 0) {w : Board} (hkeyed : w.Keyed)
    {nodeId : String} (htarget : nodeId ∈ Assoc.keys w.devices) (h : Spaced cfg w nodeId)
    (e : BoardEvent) : Spaced cfg ((board cfg).step w e) nodeId := by
  cases habout : e.about nodeId with
  | false =>
      have hview := view_other cfg hkeyed htarget habout
      constructor
      · rw [Board.firedAt, hview]
        exact h.last
      · rw [Board.firedAt, hview]
        exact h.ascending
  | true =>
      cases e with
      | historyGc => cases habout
      | observe nodeId' o =>
          rw [of_decide_eq_true habout]
          cases hpeer : Assoc.get? nodeId w.devices with
          | none => exact absurd htarget (Assoc.get?_eq_none_iff.mp hpeer)
          | some peer =>
              have hview := view_own cfg hkeyed hpeer o
              by_cases hfires : (Turns cfg peer o ∧ o.Outside) ∧
                  flapSuppressed cfg w.lastAlertFired peer.entry.nodeId o.record.timestamp =
                    false
              · have hnew : newWebhooks cfg (w.monitored peer) o =
                    [webhookFor cfg peer o (nextStatus cfg (o.count peer) o.record)] :=
                  if_pos hfires
                have hfired : ((board cfg).step w (BoardEvent.observe nodeId o)).firedAt nodeId =
                    w.firedAt nodeId ++ [o.record.timestamp] := by
                  rw [Board.firedAt, hview, hnew, List.map_append]
                  rfl
                constructor
                · rw [hfired, hview, hnew, List.getLast?_concat]
                  exact fun t ht => ht
                · rw [hfired]
                  apply pairwise_snoc_of_last (dwell_trans cfg) h.ascending
                  intro last hlast
                  apply dwell_of_open cfg hdwell (m := w.monitored peer) hfires.right
                  show Assoc.get? peer.entry.nodeId w.lastAlertFired = some last
                  rw [hkeyed nodeId peer hpeer]
                  exact h.last last hlast
              · have hnew : newWebhooks cfg (w.monitored peer) o = [] := if_neg hfires
                have hfired : ((board cfg).step w (BoardEvent.observe nodeId o)).firedAt nodeId =
                    w.firedAt nodeId := by
                  rw [Board.firedAt, hview, hnew, List.append_nil]
                  rfl
                constructor
                · rw [hfired, hview, hnew, if_pos rfl]
                  exact h.last
                · rw [hfired]
                  exact h.ascending

theorem spaced_exec (hdwell : cfg.flapDwellSeconds ≠ 0) {w : Board} (hkeyed : w.Keyed)
    {nodeId : String} (htarget : nodeId ∈ Assoc.keys w.devices) (h : Spaced cfg w nodeId)
    (es : List BoardEvent) : Spaced cfg ((board cfg).exec w es) nodeId := by
  induction es generalizing w with
  | nil => exact h
  | cons e es ih =>
      apply ih (keyed_step cfg hkeyed e)
      · rw [board_keys]
        exact htarget
      · exact h.step cfg hdwell hkeyed htarget e

/-!
## The log
-/

def newChanges (w : Board) : BoardEvent -> List (MonitorOp × TransitionData)
  | BoardEvent.observe nodeId o =>
      match w.state? nodeId o with
      | none => []
      | some peer => Board.owed cfg (w.monitored peer) o
  | BoardEvent.historyGc => []

theorem board_changes (w : Board) (e : BoardEvent) :
    ((board cfg).step w e).changes = w.changes ++ newChanges cfg w e := by
  cases e with
  | historyGc => exact (List.append_nil _).symm
  | observe nodeId o =>
      cases hpeer : w.state? nodeId o with
      | none =>
          rw [board_observe_none cfg hpeer, newChanges, hpeer]
          exact (List.append_nil _).symm
      | some peer =>
          rw [board_observe cfg hpeer, newChanges, hpeer]
          rfl

theorem owed_eq (m : Monitored) (o : Observation) :
    Board.owed cfg m o =
      if Turns cfg m.peer o ∧ o.window ≠ some (some true) then [turnEntry cfg m.peer o]
      else [] := by
  unfold Board.owed
  by_cases howed : Turns cfg m.peer o ∧ o.window ≠ some (some true)
  · rw [if_pos howed, if_pos ⟨(turns_iff cfg m o).mp howed.left, howed.right⟩,
      observe_made_status cfg m howed.left.left]
    rfl
  · rw [if_neg howed, if_neg]
    intro h
    exact howed ⟨(turns_iff cfg m o).mpr h.left, h.right⟩

theorem window_cases (o : Observation) :
    o.window = some none ∨ o.window = some (some true) ∨ o.Outside := by
  unfold Observation.Outside
  cases o.window with
  | none => exact Or.inr (Or.inr (Or.inl rfl))
  | some answer =>
      cases answer with
      | none => exact Or.inl rfl
      | some inside =>
          cases inside with
          | true => exact Or.inr (Or.inl rfl)
          | false => exact Or.inr (Or.inr (Or.inr rfl))

theorem Observation.Outside.window_ne {o : Observation} (h : o.Outside)
    {answer : Option Bool} (hanswer : answer ≠ some false) : o.window ≠ some answer := by
  intro hwindow
  rcases h with hnone | hfalse
  · rw [hwindow] at hnone
    cases hnone
  · rw [hwindow] at hfalse
    exact hanswer (Option.some.inj hfalse)

theorem newLogs_owed (m : Monitored) (o : Observation) :
    ((Turns cfg m.peer o -> o.window ≠ some none) ->
        newLogs cfg m.peer o = Board.owed cfg m o) ∧
      (¬ (Turns cfg m.peer o -> o.window ≠ some none) ->
        newLogs cfg m.peer o = [] ∧ Board.owed cfg m o = [turnEntry cfg m.peer o]) := by
  rw [owed_eq]
  unfold newLogs
  by_cases hturns : Turns cfg m.peer o
  · rcases window_cases o with hraised | hinside | hout
    · constructor
      · intro h
        exact absurd hraised (h hturns)
      · intro _
        rw [if_neg (fun h => h.right.window_ne (by decide) hraised),
          if_pos ⟨hturns, by rw [hraised]; decide⟩]
        exact ⟨rfl, rfl⟩
    · constructor
      · intro _
        rw [if_neg (fun h => h.right.window_ne (by decide) hinside),
          if_neg (fun h => h.right hinside)]
      · intro h
        exact absurd (fun _ => by rw [hinside]; decide) h
    · constructor
      · intro _
        rw [if_pos ⟨hturns, hout⟩, if_pos ⟨hturns, hout.window_ne (by decide)⟩]
      · intro h
        exact absurd (fun _ => hout.window_ne (by decide)) h
  · constructor
    · intro _
      rw [if_neg (fun h => hturns h.left), if_neg (fun h => hturns h.left)]
    · intro h
      exact absurd (fun hdoes => absurd hdoes hturns) h

theorem newReports_changes (w : Board) (e : BoardEvent) :
    (Comparable cfg w e -> (newReports cfg w e).1 = newChanges cfg w e) ∧
      (¬ Comparable cfg w e ->
        (newReports cfg w e).1 = [] ∧ exists entry, newChanges cfg w e = [entry]) := by
  cases e with
  | historyGc => exact ⟨fun _ => rfl, fun h => absurd trivial h⟩
  | observe nodeId o =>
      cases hpeer : w.state? nodeId o with
      | none =>
          rw [newReports, newChanges, hpeer]
          refine ⟨fun _ => rfl, fun h => absurd ?_ h⟩
          intro peer hsome
          rw [hpeer] at hsome
          cases hsome
      | some peer =>
          have hcomparable : Comparable cfg w (BoardEvent.observe nodeId o) <->
              (Turns cfg peer o -> o.window ≠ some none) := by
            constructor
            · intro h
              exact h peer hpeer
            · intro h peer' hpeer'
              rw [hpeer] at hpeer'
              rw [← Option.some.inj hpeer']
              exact h
          rcases newLogs_owed cfg (w.monitored peer) o with ⟨hlogged, hraised⟩
          rw [newReports, newChanges, hpeer, hcomparable]
          exact ⟨hlogged, fun h => ⟨(hraised h).left, _, (hraised h).right⟩⟩

/-- A step keeps the log complete exactly when its window can be compared. -/
theorem complete_step {w : Board} (hle : (logs w.effects).length <= w.changes.length)
    (e : BoardEvent) :
    (logs ((board cfg).step w e).effects).length <= ((board cfg).step w e).changes.length ∧
      (logs ((board cfg).step w e).effects = ((board cfg).step w e).changes <->
        logs w.effects = w.changes ∧ Comparable cfg w e) := by
  rcases newReports_changes cfg w e with ⟨hlogged, hraised⟩
  rw [(board_reports cfg w e).left, board_changes, List.length_append, List.length_append]
  by_cases hcomparable : Comparable cfg w e
  · rw [hlogged hcomparable]
    refine ⟨Nat.add_le_add_right hle _, ?_⟩
    rw [List.append_left_inj]
    exact ⟨fun h => ⟨h, hcomparable⟩, fun h => h.left⟩
  · rcases hraised hcomparable with ⟨hnone, entry, hentry⟩
    rw [hnone, hentry, List.append_nil]
    refine ⟨Nat.le_succ_of_le hle, ?_, fun h => absurd h.right hcomparable⟩
    intro hequal
    have hlength := congrArg List.length hequal
    rw [List.length_append, List.length_singleton] at hlength
    omega

theorem complete_exec {w : Board} (hle : (logs w.effects).length <= w.changes.length)
    (es : List BoardEvent) :
    logs ((board cfg).exec w es).effects = ((board cfg).exec w es).changes <->
      logs w.effects = w.changes ∧ (board cfg).Guarded (Comparable cfg) w es := by
  induction es generalizing w with
  | nil => exact ⟨fun h => ⟨h, trivial⟩, fun h => h.left⟩
  | cons e es ih =>
      rcases complete_step cfg hle e with ⟨hle', hstep⟩
      have hrest := ih hle'
      rw [hstep, and_assoc] at hrest
      exact hrest

theorem webhooks_sublist {w : Board}
    (h : ((webhooks w.effects).map loggedAs).Sublist (logs w.effects)) (es : List BoardEvent) :
    ((webhooks ((board cfg).exec w es).effects).map loggedAs).Sublist
      (logs ((board cfg).exec w es).effects) := by
  induction es generalizing w with
  | nil => exact h
  | cons e es ih =>
      apply ih
      rcases board_reports cfg w e with ⟨hlogs, hwebhooks⟩
      rw [hlogs, hwebhooks, List.map_append]
      exact h.append (newReports_sublist cfg w e)

end Steps

/--
In every run the webhooks of a target are a dwell apart, do not depend on the other peers,
and repeat entries of the log; the log holds every change, once and in order, exactly when no
change finds a window that cannot be compared.
-/
theorem webhooks_spaced (cfg : EngineConfig) {w : Board} (hstart : w.Start)
    (es : List BoardEvent) :
    (forall nodeId, nodeId ∈ Assoc.keys w.devices ->
      (((board cfg).exec w es).firedAt nodeId).Pairwise
          (fun s t => cfg.dwell <= ((t - s).natAbs : Int)) ∧
        (((board cfg).exec w es).view nodeId).webhooks =
          (((board cfg).exec w (es.filter (BoardEvent.about nodeId))).view nodeId).webhooks) ∧
      ((webhooks ((board cfg).exec w es).effects).map loggedAs).Sublist
        (logs ((board cfg).exec w es).effects) ∧
      (logs ((board cfg).exec w es).effects = ((board cfg).exec w es).changes <->
        (board cfg).Guarded (Comparable cfg) w es) := by
  have hnone : webhooks w.effects = [] := by
    rw [hstart.effects]
    rfl
  have hlogged : logs w.effects = w.changes := by
    rw [hstart.effects, hstart.changes]
    rfl
  refine ⟨?_, ?_, ?_⟩
  · intro nodeId htarget
    constructor
    · by_cases hdwell : cfg.flapDwellSeconds = 0
      · apply List.pairwise_of_forall
        intro s t
        rw [EngineConfig.dwell, hdwell]
        exact Int.le_trans (by decide) (Int.natCast_nonneg _)
      · have hempty : w.firedAt nodeId = [] := by
          show ((webhooks w.effects).filter _).map _ = _
          rw [hnone]
          rfl
        have hspaced : Spaced cfg w nodeId := by
          constructor
          · intro t ht
            rw [hempty] at ht
            cases ht
          · rw [hempty]
            exact List.Pairwise.nil
        apply (spaced_exec cfg hdwell hstart.keyed htarget hspaced es).ascending.imp
        intro s t hst
        exact Int.le_trans (Int.le_sub_left_of_add_le hst) Int.le_natAbs
    · exact congrArg PeerView.webhooks
        (view_exec cfg hstart.keyed hstart.keyed htarget rfl es)
  · apply webhooks_sublist cfg
    rw [hnone]
    exact List.nil_sublist _
  · rw [complete_exec cfg (Nat.le_of_eq (congrArg List.length hlogged)) es]
    exact ⟨fun h => h.right, fun h => ⟨hlogged, h⟩⟩

/-!
A target that answers, fails at 100 s, and pushes at 300 s.
-/

def oneTarget : Board where
  devices := [("peer", PeerState.init { nodeId := "peer", alias_ := none })]
  lastAlertFired := []
  effects := []
  changes := []

def comesBack (trusted : Option TrustedPeer) : List BoardEvent :=
  [BoardEvent.observe "peer" (Observation.push trusted 0),
    BoardEvent.observe "peer" (Observation.probe none none (100 * microsPerSecond)
      (ProbeOutcome.raised "TimeoutError" "")),
    BoardEvent.historyGc,
    BoardEvent.observe "peer" (Observation.push trusted (300 * microsPerSecond))]

theorem oneTarget_start : oneTarget.Start where
  keyed := by
    intro nodeId peer hpeer
    rcases Assoc.mem_of_get?_eq_some hpeer with hhead | ⟨_, htail⟩
    · rfl
    · cases htail
  effects := rfl
  changes := rfl

theorem webhooks_spaced_back :
    (((board dwelling).exec oneTarget (comesBack none)).firedAt "peer").Pairwise
        (fun s t => dwelling.dwell <= ((t - s).natAbs : Int)) ∧
      (logs ((board dwelling).exec oneTarget (comesBack none)).effects =
          ((board dwelling).exec oneTarget (comesBack none)).changes <->
        (board dwelling).Guarded (Comparable dwelling) oneTarget (comesBack none)) :=
  ⟨((webhooks_spaced dwelling oneTarget_start (comesBack none)).left "peer" (by decide)).left,
    (webhooks_spaced dwelling oneTarget_start (comesBack none)).right.right⟩

theorem january : 1 <= 1 ∧ 1 <= 12 := by decide

theorem midnight : 0 < 24 ∧ 0 < 60 ∧ 0 < 60 ∧ 0 < 1000000 := by decide

def newYear (year : Nat) (h : 1 <= year ∧ year <= 9999) : Datetime where
  year := year
  month := 1
  day := 1
  hour := 0
  minute := 0
  second := 0
  microsecond := 0
  utcoffset := none
  hyear := h
  hmonth := january
  hday := ⟨Nat.le_refl 1, by simp [daysInMonth]⟩
  htime := midnight
  hoffset := fun _ h => nomatch h

def naivelyMaintained : TrustedPeer where
  nodeId := "peer"
  alias_ := none
  permissions := ["monitor"]
  tags := []
  maintenanceStart := some (newYear 2000 (by decide))
  maintenanceEnd := some (newYear 2001 (by decide))
  addedAt := newYear 2000 (by decide)
  revokedAt := none

/-- The target comes back outside the naive window, and the log is not told. -/
theorem change_unlogged :
    ¬ forall (cfg : EngineConfig) (w : Board), w.Start -> forall es,
      logs ((board cfg).exec w es).effects = ((board cfg).exec w es).changes := by
  intro hclaim
  have hlogged := hclaim dwelling oneTarget oneTarget_start
    (comesBack (some naivelyMaintained))
  revert hlogged
  decide

end Liveness
end PanicMonitr
