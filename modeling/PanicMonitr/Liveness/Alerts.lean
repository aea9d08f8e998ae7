import PanicMonitr.Foundation.Machine
import PanicMonitr.Liveness.Observation

/-!
# Webhooks

What an observation adds to the trust log and to the webhooks of its peer.  A webhook is
held back when the last one is closer than the dwell, and what is held back is dropped:
the last webhook is right exactly when the last change was not one of these.
-/

namespace PanicMonitr
namespace Liveness

open Foundation
open Trust

/-!
## The reports among the calls
-/

/-- The `log.append` calls, oldest first. -/
def logs (effects : List Effect) : List (MonitorOp × TransitionData) :=
  effects.filterMap (fun
    | Effect.logAppend op data => some (op, data)
    | _ => none)

def webhooks (effects : List Effect) : List MonitorEvent :=
  effects.filterMap (fun
    | Effect.notify event => some event
    | _ => none)

@[simp] theorem logs_append (before after : List Effect) :
    logs (before ++ after) = logs before ++ logs after :=
  List.filterMap_append

@[simp] theorem webhooks_append (before after : List Effect) :
    webhooks (before ++ after) = webhooks before ++ webhooks after :=
  List.filterMap_append

def webhookOf (cfg : EngineConfig) (peer : PeerState) (op : MonitorOp) (data : TransitionData)
    (now : Instant) : MonitorEvent :=
  { event := op
    peerNodeId := peer.entry.nodeId
    peerAlias := peer.entry.alias_
    sourceNodeId := cfg.nodeIdStr
    sourceAlias := none
    timestamp := now
    consecutiveCount := data.consecutiveCount
    reason := data.reason }

theorem syncOnReconnect_reports (m : Monitored) (prev new : PeerStatus) (now : Instant) :
    logs (syncOnReconnect m prev new now).effects = logs m.effects ∧
      webhooks (syncOnReconnect m prev new now).effects = webhooks m.effects ∧
      (syncOnReconnect m prev new now).lastAlertFired = m.lastAlertFired := by
  unfold syncOnReconnect
  split
  · refine ⟨?_, ?_, rfl⟩
    · rw [Monitored.call_effects, logs_append]
      exact List.append_nil _
    · rw [Monitored.call_effects, webhooks_append]
      exact List.append_nil _
  · exact ⟨rfl, rfl, rfl⟩

/-!
## One observation
-/

/-- What `in_maintenance` says in the transition, for a peer the trust store knows. -/
def Observation.window (o : Observation) : Option (Option Bool) :=
  o.trusted.map (fun peer => peer.inMaintenance o.record.timestamp)

/-- No window is open in the transition, and none is naive. -/
def Observation.Outside (o : Observation) : Prop :=
  o.window = none ∨ o.window = some (some false)

def entryFor (peer : PeerState) (o : Observation) (new : PeerStatus) :
    MonitorOp × TransitionData :=
  (eventType new, transitionData (o.count peer) (eventType new))

def webhookFor (cfg : EngineConfig) (peer : PeerState) (o : Observation) (new : PeerStatus) :
    MonitorEvent :=
  webhookOf cfg (o.count peer) (entryFor peer o new).1 (entryFor peer o new).2
    o.record.timestamp

/-- What an observation may do: report nothing, log and hold the webhook back, or fire it. -/
inductive Reports (cfg : EngineConfig) (m : Monitored) (o : Observation) (m' : Monitored) :
    Prop where
  | silent :
      m'.peer.currentStatus = m.peer.currentStatus ∨
        m.peer.currentStatus = PeerStatus.unknown ∨ ¬ o.Outside ->
      logs m'.effects = logs m.effects ->
      webhooks m'.effects = webhooks m.effects ->
      m'.lastAlertFired = m.lastAlertFired -> Reports cfg m o m'
  | held :
      m'.peer.currentStatus ≠ m.peer.currentStatus ->
      m.peer.currentStatus ≠ PeerStatus.unknown -> o.Outside ->
      flapSuppressed cfg m.lastAlertFired m.peer.entry.nodeId o.record.timestamp = true ->
      logs m'.effects = logs m.effects ++ [entryFor m.peer o m'.peer.currentStatus] ->
      webhooks m'.effects = webhooks m.effects ->
      m'.lastAlertFired = m.lastAlertFired -> Reports cfg m o m'
  | fired :
      m'.peer.currentStatus ≠ m.peer.currentStatus ->
      m.peer.currentStatus ≠ PeerStatus.unknown -> o.Outside ->
      flapSuppressed cfg m.lastAlertFired m.peer.entry.nodeId o.record.timestamp = false ->
      logs m'.effects = logs m.effects ++ [entryFor m.peer o m'.peer.currentStatus] ->
      webhooks m'.effects =
        webhooks m.effects ++ [webhookFor cfg m.peer o m'.peer.currentStatus] ->
      m'.lastAlertFired =
        Assoc.set m.peer.entry.nodeId o.record.timestamp m.lastAlertFired ->
      Reports cfg m o m'

theorem alert_reports (cfg : EngineConfig) (m : Monitored) (op : MonitorOp)
    (data : TransitionData) (now : Instant) :
    logs (alert cfg m op data now).effects = logs m.effects ∧
      if flapSuppressed cfg m.lastAlertFired m.peer.entry.nodeId now then
        webhooks (alert cfg m op data now).effects = webhooks m.effects ∧
          (alert cfg m op data now).lastAlertFired = m.lastAlertFired
      else
        webhooks (alert cfg m op data now).effects =
            webhooks m.effects ++ [webhookOf cfg m.peer op data now] ∧
          (alert cfg m op data now).lastAlertFired =
            Assoc.set m.peer.entry.nodeId now m.lastAlertFired := by
  unfold alert
  split
  · exact ⟨rfl, rfl, rfl⟩
  · refine ⟨?_, ?_, rfl⟩
    · rw [Monitored.call_effects, logs_append]
      exact List.append_nil _
    · rw [Monitored.call_effects, webhooks_append]
      rfl

theorem logged_reports (cfg : EngineConfig) {m m' : Monitored} {o : Observation}
    {new : PeerStatus} (hchange : new ≠ m.peer.currentStatus)
    (hknown : m.peer.currentStatus ≠ PeerStatus.unknown) (hout : o.Outside)
    (hpeer : m'.peer = { o.count m.peer with currentStatus := new })
    (hlogs : logs m'.effects = logs m.effects)
    (hwebhooks : webhooks m'.effects = webhooks m.effects)
    (hfired : m'.lastAlertFired = m.lastAlertFired) :
    Reports cfg m o
      (alert cfg
        (m'.call (Effect.logAppend (eventType new) (transitionData m'.peer (eventType new))))
        (eventType new) (transitionData m'.peer (eventType new)) o.record.timestamp) := by
  have hdata : transitionData m'.peer (eventType new) = (entryFor m.peer o new).2 := by
    rw [hpeer]
    rfl
  have hentry : m'.peer.entry = m.peer.entry := by
    rw [hpeer]
    exact count_entry m.peer o
  rcases alert_reports cfg
    (m'.call (Effect.logAppend (eventType new) (transitionData m'.peer (eventType new))))
    (eventType new) (transitionData m'.peer (eventType new)) o.record.timestamp with
    ⟨halertLogs, hgate⟩
  have hstatus : (alert cfg
      (m'.call (Effect.logAppend (eventType new) (transitionData m'.peer (eventType new))))
      (eventType new) (transitionData m'.peer (eventType new)) o.record.timestamp
      ).peer.currentStatus = new := by
    rw [alert_peer, Monitored.call_peer, hpeer]
  have hlogged : logs (m'.call (Effect.logAppend (eventType new)
      (transitionData m'.peer (eventType new)))).effects =
        logs m.effects ++ [entryFor m.peer o new] := by
    rw [Monitored.call_effects, logs_append, hlogs, hdata]
    rfl
  have hsent : webhooks (m'.call (Effect.logAppend (eventType new)
      (transitionData m'.peer (eventType new)))).effects = webhooks m.effects := by
    rw [Monitored.call_effects, webhooks_append, hwebhooks]
    exact List.append_nil _
  have hcalled : (m'.call (Effect.logAppend (eventType new)
      (transitionData m'.peer (eventType new)))).lastAlertFired = m.lastAlertFired := hfired
  rw [hlogged] at halertLogs
  rw [hsent, hcalled, Monitored.call_peer, hentry] at hgate
  cases hflap : flapSuppressed cfg m.lastAlertFired m.peer.entry.nodeId o.record.timestamp with
  | true =>
      rw [hflap, if_pos rfl] at hgate
      exact Reports.held (by rw [hstatus]; exact hchange) hknown hout hflap
        (by rw [hstatus]; exact halertLogs) hgate.left hgate.right
  | false =>
      rw [hflap, if_neg Bool.false_ne_true] at hgate
      have hwebhook : webhookOf cfg m'.peer (eventType new)
          (transitionData m'.peer (eventType new)) o.record.timestamp =
            webhookFor cfg m.peer o new := by
        rw [hpeer]
        rfl
      rw [hwebhook] at hgate
      exact Reports.fired (by rw [hstatus]; exact hchange) hknown hout hflap
        (by rw [hstatus]; exact halertLogs) (by rw [hstatus]; exact hgate.left) hgate.right

theorem observe_reports (cfg : EngineConfig) (m : Monitored) (o : Observation) :
    Reports cfg m o (observe cfg m o) := by
  by_cases hmade : o.Made
  · rw [observe_made cfg m hmade]
    have hcount := count_status m.peer o
    unfold maybeTransition
    cases newState cfg { m with peer := o.count m.peer }.peer o.record with
    | none => exact Reports.silent (Or.inl hcount) rfl rfl rfl
    | some new =>
        simp only
        by_cases hsame : new = (o.count m.peer).currentStatus
        · rw [if_pos hsame]
          exact Reports.silent (Or.inl hcount) rfl rfl rfl
        · rw [if_neg hsame]
          have hpeer := syncOnReconnect_peer
            (Monitored.setStatus { m with peer := o.count m.peer } new)
            (o.count m.peer).currentStatus new o.record.timestamp
          rcases syncOnReconnect_reports
            (Monitored.setStatus { m with peer := o.count m.peer } new)
            (o.count m.peer).currentStatus new o.record.timestamp with
            ⟨hlogs, hwebhooks, hfired⟩
          rw [hcount] at hsame
          by_cases hunknown : (o.count m.peer).currentStatus = PeerStatus.unknown
          · rw [if_pos hunknown]
            rw [hcount] at hunknown
            exact Reports.silent (Or.inr (Or.inl hunknown)) hlogs hwebhooks hfired
          · rw [if_neg hunknown]
            rw [hcount] at hunknown
            have hlogged := fun hout => logged_reports cfg (o := o) hsame hunknown hout hpeer
              hlogs hwebhooks hfired
            cases hwindow : o.trusted.map (fun peer => peer.inMaintenance o.record.timestamp) with
            | none => exact hlogged (Or.inl hwindow)
            | some answer =>
                -- an answer that is `none` raised, one that is `true` holds back everything
                have hinside : answer ≠ some false -> ¬ o.Outside := by
                  intro hanswer hout
                  rcases hout with hnone | hfalse
                  · exact Option.some_ne_none _ (hwindow.symm.trans hnone)
                  · exact hanswer (Option.some.inj (hwindow.symm.trans hfalse))
                cases answer with
                | none =>
                    exact Reports.silent (Or.inr (Or.inr (hinside (by decide)))) hlogs
                      hwebhooks hfired
                | some inside =>
                    cases inside with
                    | true =>
                        exact Reports.silent (Or.inr (Or.inr (hinside (by decide)))) hlogs
                          hwebhooks hfired
                    | false => exact hlogged (Or.inr hwindow)
  · rw [observe_skipped cfg m hmade]
    exact Reports.silent (Or.inl rfl) rfl rfl rfl

theorem Observation.Quiet.outside {o : Observation} (h : o.Quiet) : o.Outside := by
  cases o with
  | push trusted now => exact outsideMaintenance_cases h
  | probe before after now outcome =>
      rw [Observation.Outside, Observation.window, Observation.record, probeRecord_timestamp]
      exact outsideMaintenance_cases h.right

/-- A status changes to `ALIVE` or to `DEAD`. -/
theorem newState_cases {cfg : EngineConfig} {peer : PeerState} {record : LatencyRecord}
    {new : PeerStatus} (h : newState cfg peer record = some new) :
    new = PeerStatus.alive ∨ new = PeerStatus.dead := by
  unfold newState at h
  simp only at h
  split at h
  · left
    split at h
    · exact (Option.some.inj h).symm
    · split at h
      · exact (Option.some.inj h).symm
      · cases h
  · right
    split at h
    · exact (Option.some.inj h).symm
    · cases h

theorem status_known_of_change (cfg : EngineConfig) (m : Monitored) {o : Observation}
    (hchange : (observe cfg m o).peer.currentStatus ≠ m.peer.currentStatus) :
    (observe cfg m o).peer.currentStatus ≠ PeerStatus.unknown := by
  by_cases hmade : o.Made
  · rw [observe_made cfg m hmade, maybeTransition_peer] at hchange ⊢
    have hcount := count_status m.peer o
    show nextStatus cfg (o.count m.peer) o.record ≠ PeerStatus.unknown
    have hnext : nextStatus cfg (o.count m.peer) o.record ≠ m.peer.currentStatus := hchange
    unfold nextStatus at hnext ⊢
    cases hnew : newState cfg (o.count m.peer) o.record with
    | none =>
        rw [hnew] at hnext
        exact absurd hcount hnext
    | some new =>
        rw [Option.getD_some]
        rcases newState_cases hnew with halive | hdead
        · rw [halive]
          decide
        · rw [hdead]
          decide
  · rw [observe_skipped cfg m hmade] at hchange
    exact absurd rfl hchange

theorem observe_keeps_entry (cfg : EngineConfig) (m : Monitored) (o : Observation) :
    (observe cfg m o).peer.entry = m.peer.entry := by
  by_cases hmade : o.Made
  · rw [observe_made cfg m hmade, maybeTransition_peer]
    exact count_entry m.peer o
  · rw [observe_skipped cfg m hmade]

/-!
## The last webhook
-/

def lastWebhook (effects : List Effect) : Option MonitorEvent :=
  (webhooks effects).getLast?

def EngineConfig.dwell (cfg : EngineConfig) : Int :=
  (cfg.flapDwellSeconds : Int) * microsPerSecond

/--
`change` is the time of the last status change with the last webhook before it; `settled`
says that the status has been observed again after the dwell.
-/
structure Watched where
  m : Monitored
  change : Option (Instant × Option MonitorEvent)
  settled : Bool

namespace Watched

def step (cfg : EngineConfig) (w : Watched) (o : Observation) : Watched :=
  let m' := observe cfg w.m o
  if m'.peer.currentStatus = w.m.peer.currentStatus then
    { w with
      m := m'
      settled := w.settled ||
        w.change.any (fun change => decide (change.1 + cfg.dwell <= o.record.timestamp)) }
  else
    { m := m'
      change := some (o.record.timestamp, lastWebhook w.m.effects)
      settled := false }

structure Start (w : Watched) : Prop where
  effects : w.m.effects = []
  lastAlertFired : Assoc.get? w.m.peer.entry.nodeId w.m.lastAlertFired = none
  change : w.change = none
  settled : w.settled = false

end Watched

def watch (cfg : EngineConfig) : Machine Watched Observation where
  start := Watched.Start
  step := Watched.step cfg

def OutOfMaintenance (_ : Watched) (o : Observation) : Prop :=
  o.Quiet

instance (w : Watched) (o : Observation) : Decidable (OutOfMaintenance w o) :=
  inferInstanceAs (Decidable o.Quiet)

/-- A change is held back when the webhook before it is closer than the dwell. -/
def HeldBack (cfg : EngineConfig) (t : Instant) (before : Option MonitorEvent) : Prop :=
  exists event, before = some event ∧ t - event.timestamp < cfg.dwell

structure Tracked (cfg : EngineConfig) (w : Watched) : Prop where
  fired : Assoc.get? w.m.peer.entry.nodeId w.m.lastAlertFired =
    (lastWebhook w.m.effects).map MonitorEvent.timestamp
  unknown : w.m.peer.currentStatus = PeerStatus.unknown -> webhooks w.m.effects = []
  held : forall t before, w.change = some (t, before) -> HeldBack cfg t before ->
    lastWebhook w.m.effects = before
  told : forall t before, w.change = some (t, before) -> ¬ HeldBack cfg t before ->
    forall last, lastWebhook w.m.effects = some last ->
      last.event = eventType w.m.peer.currentStatus

theorem tracked_start (cfg : EngineConfig) {w : Watched} (h : w.Start) : Tracked cfg w := by
  have hnone : webhooks w.m.effects = [] := by
    rw [h.effects]
    rfl
  constructor
  · rw [h.lastAlertFired, lastWebhook, hnone]
    rfl
  · exact fun _ => hnone
  · intro t before hchange
    rw [h.change] at hchange
    cases hchange
  · intro t before hchange
    rw [h.change] at hchange
    cases hchange

theorem flapSuppressed_iff {cfg : EngineConfig} (hdwell : 0 < cfg.flapDwellSeconds)
    {m : Monitored} {before : Option MonitorEvent}
    (hfired : Assoc.get? m.peer.entry.nodeId m.lastAlertFired =
      before.map MonitorEvent.timestamp) (t : Instant) :
    flapSuppressed cfg m.lastAlertFired m.peer.entry.nodeId t = true <->
      HeldBack cfg t before := by
  unfold flapSuppressed HeldBack
  rw [hfired]
  cases before with
  | none => simp
  | some event =>
      have hne : cfg.flapDwellSeconds ≠ 0 := Nat.ne_of_gt hdwell
      simp [EngineConfig.dwell, hne]

section Steps

variable {cfg : EngineConfig} {w : Watched} {o : Observation}

theorem watch_step_same (h : (observe cfg w.m o).peer.currentStatus = w.m.peer.currentStatus) :
    ((watch cfg).step w o).m = observe cfg w.m o ∧ ((watch cfg).step w o).change = w.change := by
  show (Watched.step cfg w o).m = _ ∧ (Watched.step cfg w o).change = _
  unfold Watched.step
  rw [if_pos h]
  exact ⟨rfl, rfl⟩

theorem watch_step_change
    (h : (observe cfg w.m o).peer.currentStatus ≠ w.m.peer.currentStatus) :
    ((watch cfg).step w o).m = observe cfg w.m o ∧
      ((watch cfg).step w o).change =
        some (o.record.timestamp, lastWebhook w.m.effects) := by
  show (Watched.step cfg w o).m = _ ∧ (Watched.step cfg w o).change = _
  unfold Watched.step
  rw [if_neg h]
  exact ⟨rfl, rfl⟩

theorem Tracked.same (h : Tracked cfg w)
    (hsame : (observe cfg w.m o).peer.currentStatus = w.m.peer.currentStatus)
    (hwebhooks : webhooks (observe cfg w.m o).effects = webhooks w.m.effects)
    (hfired : (observe cfg w.m o).lastAlertFired = w.m.lastAlertFired) :
    Tracked cfg ((watch cfg).step w o) := by
  rcases watch_step_same hsame with ⟨hm, hchange⟩
  have hlast : lastWebhook (observe cfg w.m o).effects = lastWebhook w.m.effects := by
    rw [lastWebhook, hwebhooks, lastWebhook]
  constructor
  · rw [hm, observe_keeps_entry, hfired, hlast]
    exact h.fired
  · rw [hm, hsame, hwebhooks]
    exact h.unknown
  · rw [hm, hchange, hlast]
    exact h.held
  · rw [hm, hchange, hlast, hsame]
    exact h.told

/-- A change leaves the last webhook as it was, or fires one about the new status. -/
theorem tracked_changed
    (hchange : (observe cfg w.m o).peer.currentStatus ≠ w.m.peer.currentStatus)
    (hfired : Assoc.get? w.m.peer.entry.nodeId (observe cfg w.m o).lastAlertFired =
      (lastWebhook (observe cfg w.m o).effects).map MonitorEvent.timestamp)
    (hheld : HeldBack cfg o.record.timestamp (lastWebhook w.m.effects) ->
      lastWebhook (observe cfg w.m o).effects = lastWebhook w.m.effects)
    (htold : ¬ HeldBack cfg o.record.timestamp (lastWebhook w.m.effects) ->
      forall last, lastWebhook (observe cfg w.m o).effects = some last ->
        last.event = eventType (observe cfg w.m o).peer.currentStatus) :
    Tracked cfg ((watch cfg).step w o) := by
  rcases watch_step_change hchange with ⟨hm, hlast⟩
  constructor
  · rw [hm, observe_keeps_entry]
    exact hfired
  · intro hunknown
    rw [hm] at hunknown
    exact absurd hunknown (status_known_of_change cfg w.m hchange)
  · intro t before hbefore
    rw [hlast] at hbefore
    cases hbefore
    rw [hm]
    exact hheld
  · intro t before hbefore
    rw [hlast] at hbefore
    cases hbefore
    rw [hm]
    exact htold

theorem Tracked.step (hdwell : 0 < cfg.flapDwellSeconds) (h : Tracked cfg w)
    (hquiet : o.Quiet) : Tracked cfg ((watch cfg).step w o) := by
  have hgate := flapSuppressed_iff hdwell h.fired o.record.timestamp
  cases observe_reports cfg w.m o with
  | silent hreason _ hwebhooks hfired =>
      have hlast : lastWebhook (observe cfg w.m o).effects = lastWebhook w.m.effects := by
        rw [lastWebhook, hwebhooks, lastWebhook]
      by_cases hsame : (observe cfg w.m o).peer.currentStatus = w.m.peer.currentStatus
      · exact h.same hsame hwebhooks hfired
      · -- the first observation: no webhook was fired before it
        rcases hreason with hequal | hunknown | hinside
        · exact absurd hequal hsame
        · have hnone : lastWebhook w.m.effects = none := by
            rw [lastWebhook, h.unknown hunknown]
            rfl
          apply tracked_changed hsame
          · rw [hfired, hlast]
            exact h.fired
          · exact fun _ => hlast
          · intro _ last hin
            rw [hlast, hnone] at hin
            cases hin
        · exact absurd hquiet.outside hinside
  | held hchange _ _ hflap _ hwebhooks hfired =>
      have hlast : lastWebhook (observe cfg w.m o).effects = lastWebhook w.m.effects := by
        rw [lastWebhook, hwebhooks, lastWebhook]
      apply tracked_changed hchange
      · rw [hfired, hlast]
        exact h.fired
      · exact fun _ => hlast
      · intro hfree
        exact absurd (hgate.mp hflap) hfree
  | fired hchange _ _ hflap _ hwebhooks hfired =>
      have hlast : lastWebhook (observe cfg w.m o).effects =
          some (webhookFor cfg w.m.peer o (observe cfg w.m o).peer.currentStatus) := by
        rw [lastWebhook, hwebhooks, List.getLast?_concat]
      apply tracked_changed hchange
      · rw [hfired, hlast, Assoc.get?_set_self]
        rfl
      · intro hheld
        rw [hgate.mpr hheld] at hflap
        cases hflap
      · intro _ last hin
        rw [hlast] at hin
        rw [← Option.some.inj hin]
        rfl

end Steps

/--
The last webhook announces the status exactly when the last change was not held back, or
the webhook before it had announced the same status.
-/
theorem last_webhook_iff {cfg : EngineConfig} (hdwell : 0 < cfg.flapDwellSeconds) {w : Watched}
    (hreach : (watch cfg).Reachable OutOfMaintenance w) {t : Instant}
    {before : Option MonitorEvent} (hchange : w.change = some (t, before)) {last : MonitorEvent}
    (hlast : lastWebhook w.m.effects = some last) :
    last.event = eventType w.m.peer.currentStatus <->
      forall event, before = some event ->
        cfg.dwell <= t - event.timestamp ∨ event.event = eventType w.m.peer.currentStatus := by
  have h : Tracked cfg w := hreach.invariant (I := Tracked cfg)
    (fun _ hw => tracked_start cfg hw) (fun _ _ hw hquiet => hw.step hdwell hquiet)
  by_cases hheld : HeldBack cfg t before
  · have hsame := h.held t before hchange hheld
    rw [hlast] at hsame
    constructor
    · intro htold event hevent
      rw [← hsame] at hevent
      right
      rw [← Option.some.inj hevent]
      exact htold
    · intro hcondition
      rcases hheld with ⟨event, hevent, hclose⟩
      rcases hcondition event hevent with hfar | htold
      · exact absurd hclose (Int.not_lt.mpr hfar)
      · rw [← hsame] at hevent
        rw [Option.some.inj hevent]
        exact htold
  · constructor
    · intro _ event hevent
      left
      apply Int.not_lt.mp
      intro hclose
      exact hheld ⟨event, hevent, hclose⟩
    · intro _
      exact h.told t before hchange hheld last hlast

/-!
A peer that answers, fails at 100 s, and answers again: at 200 s, and at 110 s inside the
dwell of 60 s.
-/

def dwelling : EngineConfig :=
  EngineConfig.make "self" 1 1 60

def unwatched : Watched where
  m := Monitored.fresh { nodeId := "peer", alias_ := none } []
  change := none
  settled := false

def outage (back : Instant) : List Observation :=
  [Observation.push none 0,
    Observation.probe none none (100 * microsPerSecond) (ProbeOutcome.raised "TimeoutError" ""),
    Observation.push none back, Observation.push none (300 * microsPerSecond)]

theorem unwatched_start : unwatched.Start :=
  ⟨rfl, rfl, rfl, rfl⟩

/-- The webhook of a state whose last one this is. -/
def lastOr (w : Watched) : MonitorEvent :=
  (lastWebhook w.m.effects).getD
    { event := MonitorOp.monitorUp, peerNodeId := "", peerAlias := none, sourceNodeId := "",
      sourceAlias := none, timestamp := 0, consecutiveCount := 0, reason := none }

theorem last_webhook_iff_outage :
    let w := (watch dwelling).exec unwatched (outage (200 * microsPerSecond))
    (lastOr w).event = MonitorOp.monitorUp ∧
      (lastOr w).event = eventType w.m.peer.currentStatus := by
  have hreach : (watch dwelling).Reachable OutOfMaintenance
      ((watch dwelling).exec unwatched (outage (200 * microsPerSecond))) :=
    ⟨_, Machine.Run.exec (Machine.Run.start unwatched_start) (outage (200 * microsPerSecond))
      (by decide)⟩
  refine ⟨rfl, (last_webhook_iff (by decide) hreach (t := 200 * microsPerSecond) rfl rfl).mpr ?_⟩
  intro event hevent
  cases hevent
  exact Or.inl (by decide)

/-- The peer is back for good, and the last webhook says that it is down. -/
theorem last_webhook_outdated :
    ¬ forall (cfg : EngineConfig) (w : Watched), 0 < cfg.flapDwellSeconds ->
      (watch cfg).Reachable OutOfMaintenance w -> w.settled = true ->
        forall last, lastWebhook w.m.effects = some last ->
          last.event = eventType w.m.peer.currentStatus := by
  intro hclaim
  have hrun : (watch dwelling).Run OutOfMaintenance [] unwatched :=
    Machine.Run.start unwatched_start
  have htold := hclaim dwelling _ (by decide)
    ⟨_, hrun.exec (outage (110 * microsPerSecond)) (by decide)⟩ (by decide)
    (lastOr ((watch dwelling).exec unwatched (outage (110 * microsPerSecond)))) (by decide)
  revert htold
  decide

end Liveness
end PanicMonitr
