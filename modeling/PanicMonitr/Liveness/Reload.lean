import PanicMonitr.Foundation.Machine
import PanicMonitr.Liveness.Hysteresis
import PanicMonitr.Liveness.History

/-!
# Reloads and restarts

One monitored peer over the life of the daemon: probes whose rows reach the history
store when their cycle ends, pushes, device reloads and restarts.  A reload swaps the
peer for one hydrated from history and tells nobody; the two results say which
reloads the threshold machine survives.
-/

namespace PanicMonitr
namespace Liveness

open Foundation
open Trust

/-!
## The machine
-/

/--
The part of the daemon that belongs to one peer.  `clock`, `observed` and `wasAlive`
are history variables: the latest clock reading, the observations made so far, and
whether the peer has ever been `ALIVE`.
-/
structure Dashboard where
  monitored : Monitored
  history : List ProbeRow
  pending : List ProbeRow
  clock : Instant
  observed : List Observation
  wasAlive : Bool

inductive DashboardEvent where
  | observation (o : Observation)
  | cycleEnd
  | reload (now : Instant) (alias_ : Option String)
  | restart (now : Instant) (alias_ : Option String)

namespace Dashboard

def peer (d : Dashboard) : PeerState :=
  d.monitored.peer

def nodeId (d : Dashboard) : String :=
  d.peer.entry.nodeId

def status (d : Dashboard) : PeerStatus :=
  d.peer.currentStatus

/-- The monitor entries appended for the peer, oldest first. -/
def ops (d : Dashboard) : List MonitorOp :=
  monitorOps d.monitored.effects

def rows (d : Dashboard) : List ProbeRow :=
  rowsFor d.nodeId d.history

def at_ (d : Dashboard) (monitored : Monitored) (now : Instant) : Dashboard :=
  { d with
    monitored := monitored
    clock := now
    wasAlive := d.wasAlive || decide (monitored.peer.currentStatus = PeerStatus.alive) }

/-- A probe hands its record to the batch of the cycle; a push writes its row at once. -/
def see (cfg : EngineConfig) (d : Dashboard) (o : Observation) : Dashboard :=
  let seen := { d.at_ (observe cfg d.monitored o) o.record.timestamp with
    observed := d.observed ++ [o] }
  match o with
  | Observation.push _ now =>
      { seen with history := d.history ++ [rowOf d.nodeId (pushRecord now)] }
  | Observation.probe before after now outcome =>
      { seen with
        pending := d.pending ++
          ((probePeer cfg before after d.monitored now outcome).2.map
            (rowOf d.nodeId)).toList }

/-- The peer `_load_devices` builds from the rows of the last 24 hours. -/
def hydrated (cfg : EngineConfig) (d : Dashboard) (now : Instant)
    (alias_ : Option String) : PeerState :=
  loadDevice cfg (some (recentRows d.history d.nodeId 24 now))
    { nodeId := d.nodeId, alias_ := alias_ }

/-- The hydrated peer takes the place of the old one; the log hears nothing. -/
def swap (cfg : EngineConfig) (d : Dashboard) (now : Instant) (alias_ : Option String)
    (lastAlertFired : List (String × Instant)) : Dashboard :=
  d.at_ { d.monitored with
    peer := d.hydrated cfg now alias_, lastAlertFired := lastAlertFired } now

/-- A restart forgets the alerts and the batch of a cycle it interrupts. -/
def step (cfg : EngineConfig) (d : Dashboard) : DashboardEvent -> Dashboard
  | DashboardEvent.observation o => d.see cfg o
  | DashboardEvent.cycleEnd =>
      { d with history := d.history ++ d.pending, pending := [] }
  | DashboardEvent.reload now alias_ =>
      d.swap cfg now alias_ d.monitored.lastAlertFired
  | DashboardEvent.restart now alias_ =>
      { d.swap cfg now alias_ [] with pending := [] }

def new (entry : PeerEntry) : Dashboard :=
  { monitored := Monitored.fresh entry []
    history := []
    pending := []
    clock := 0
    observed := []
    wasAlive := false }

/-- A peer new to the dashboard: no observation, no row, no entry. -/
def Start (d : Dashboard) : Prop :=
  (exists entry lastAlertFired,
    d.monitored = Monitored.fresh entry lastAlertFired) ∧
  d.rows = [] ∧ d.pending = [] ∧ d.observed = [] ∧ d.wasAlive = false

theorem start_new (entry : PeerEntry) : (new entry).Start :=
  ⟨⟨entry, [], rfl⟩, rfl, rfl, rfl, rfl⟩

end Dashboard

def dashboard (cfg : EngineConfig) : Machine Dashboard DashboardEvent :=
  { start := Dashboard.Start, step := Dashboard.step cfg }

/-!
## Rows and outcomes
-/

theorem rowsFor_append (nodeId : String) (rows rows' : List ProbeRow) :
    rowsFor nodeId (rows ++ rows') = rowsFor nodeId rows ++ rowsFor nodeId rows' :=
  List.filter_append rows rows'

theorem rowsFor_rowOf (nodeId : String) (record : LatencyRecord) :
    rowsFor nodeId [rowOf nodeId record] = [rowOf nodeId record] := by
  simp [rowsFor, rowOf]

theorem record_outcome (o : Observation) :
    o.record.status = PeerStatus.alive ∨ o.record.status = PeerStatus.dead := by
  cases o with
  | push => exact Or.inl rfl
  | probe _ _ _ outcome =>
      cases outcome with
      | reply => exact Or.inl rfl
      | raised => exact Or.inr rfl

theorem probePeer_record (cfg : EngineConfig) (m : Monitored)
    {before after : Option TrustedPeer} {now : Instant} (outcome : ProbeOutcome)
    (hbefore : OutsideMaintenance before now) (hafter : OutsideMaintenance after now) :
    (probePeer cfg before after m now outcome).2 = some (probeRecord now outcome) := by
  have hflag := (maybeTransition_quiet cfg { m with peer := countProbe m.peer now outcome }
    (probeRecord now outcome) hafter).left
  unfold probePeer
  rcases outsideMaintenance_cases hbefore with hnone | hfalse
  · rw [hnone]
    simp only
    split
    · rfl
    · simp_all
  · rw [hfalse]
    simp only
    split
    · rfl
    · simp_all

theorem see_probe_rows (cfg : EngineConfig) (d : Dashboard)
    {before after : Option TrustedPeer} {now : Instant} (outcome : ProbeOutcome)
    (hquiet : (Observation.probe before after now outcome).Quiet) :
    (d.see cfg (Observation.probe before after now outcome)).history = d.history ∧
      (d.see cfg (Observation.probe before after now outcome)).pending =
        d.pending ++ [rowOf d.nodeId (probeRecord now outcome)] := by
  have hrecord := probePeer_record cfg d.monitored outcome hquiet.left hquiet.right
  refine ⟨rfl, ?_⟩
  show d.pending ++ ((probePeer cfg before after d.monitored now outcome).2.map
    (rowOf d.nodeId)).toList = _
  rw [hrecord]
  rfl

theorem mem_see_rows (cfg : EngineConfig) (d : Dashboard) {o : Observation}
    (hquiet : o.Quiet) {row : ProbeRow}
    (hrow : row ∈ (d.see cfg o).history ++ (d.see cfg o).pending) :
    row ∈ d.history ++ d.pending ∨ row = rowOf d.nodeId o.record := by
  cases o with
  | push trusted now =>
      have hrow' : row ∈ (d.history ++ [rowOf d.nodeId (pushRecord now)]) ++ d.pending :=
        hrow
      simp only [List.mem_append, List.mem_singleton] at hrow' ⊢
      rcases hrow' with (hstored | hnew) | hbatched
      · exact Or.inl (Or.inl hstored)
      · exact Or.inr hnew
      · exact Or.inl (Or.inr hbatched)
  | probe before after now outcome =>
      rcases see_probe_rows cfg d outcome hquiet with ⟨hhistory, hpending⟩
      rw [hhistory, hpending] at hrow
      simp only [List.mem_append, List.mem_singleton] at hrow ⊢
      rcases hrow with hstored | hbatched | hnew
      · exact Or.inl (Or.inl hstored)
      · exact Or.inl (Or.inr hbatched)
      · exact Or.inr hnew

theorem see_monitored (cfg : EngineConfig) (d : Dashboard) (o : Observation) :
    (d.see cfg o).monitored = observe cfg d.monitored o := by
  cases o <;> rfl

theorem see_nodeId (cfg : EngineConfig) (d : Dashboard) {o : Observation}
    (hquiet : o.Quiet) : (d.see cfg o).nodeId = d.nodeId := by
  unfold Dashboard.nodeId Dashboard.peer
  rw [see_monitored, observe_entry cfg d.monitored hquiet]

theorem hydrated_nodeId (cfg : EngineConfig) (d : Dashboard) (now : Instant)
    (alias_ : Option String) :
    (d.hydrated cfg now alias_).entry.nodeId = d.nodeId := by
  unfold Dashboard.hydrated
  rw [loadDevice_entry]

/-!
## Time
-/

/-- The clock does not run backwards, and a reload finds all rows within 24 hours. -/
def Timely (d : Dashboard) : DashboardEvent -> Prop
  | DashboardEvent.observation o => d.clock <= o.record.timestamp
  | DashboardEvent.cycleEnd => True
  | DashboardEvent.reload now _ | DashboardEvent.restart now _ =>
      d.clock <= now ∧
        forall row, row ∈ d.rows -> toEpoch (now - hoursMicros 24) <= row.ts

instance (d : Dashboard) (e : DashboardEvent) : Decidable (Timely d e) :=
  match e with
  | DashboardEvent.observation o =>
      inferInstanceAs (Decidable (d.clock <= o.record.timestamp))
  | DashboardEvent.cycleEnd => isTrue trivial
  | DashboardEvent.reload now _ | DashboardEvent.restart now _ =>
      inferInstanceAs (Decidable (d.clock <= now ∧
        forall row, row ∈ d.rows -> toEpoch (now - hoursMicros 24) <= row.ts))

/-!
Events at a given second, for concrete runs.
-/

def monitoredEntry : PeerEntry :=
  { nodeId := "peer", alias_ := none }

def answered (second : Int) : DashboardEvent :=
  DashboardEvent.observation
    (Observation.probe none none (fromEpoch second) (ProbeOutcome.reply 900))

def unanswered (second : Int) : DashboardEvent :=
  DashboardEvent.observation
    (Observation.probe none none (fromEpoch second)
      (ProbeOutcome.raised "TimeoutError" ""))

def reloadAt (second : Int) : DashboardEvent :=
  DashboardEvent.reload (fromEpoch second) none

def cycleEnd : DashboardEvent :=
  DashboardEvent.cycleEnd

def restartAt (second : Int) : DashboardEvent :=
  DashboardEvent.restart (fromEpoch second) none

/-!
## Pairing across reloads

A reload keeps the entries paired exactly when it does not move the peer into or out
of `DEAD`, and it puts the peer into `DEAD` when the last rows of the store are at
least `down_after` failures.
-/

/-- Reloads and restarts fall between cycles, and no maintenance window is open. -/
def CycleBoundary (d : Dashboard) : DashboardEvent -> Prop
  | DashboardEvent.observation o => o.Quiet
  | DashboardEvent.cycleEnd => True
  | DashboardEvent.reload _ _ => d.pending = []
  | DashboardEvent.restart _ _ => d.pending = []

/-- The peer is `DEAD` exactly when the stored rows end with `down_after` failures. -/
def VerdictStored (cfg : EngineConfig) (d : Dashboard) : DashboardEvent -> Prop
  | DashboardEvent.observation _ => True
  | DashboardEvent.cycleEnd => True
  | DashboardEvent.reload now _ | DashboardEvent.restart now _ =>
      d.status = PeerStatus.dead <->
        cfg.downAfter <= failedRows (recentRows d.history d.nodeId 24 now)

instance (d : Dashboard) (e : DashboardEvent) : Decidable (CycleBoundary d e) :=
  match e with
  | DashboardEvent.observation o => inferInstanceAs (Decidable o.Quiet)
  | DashboardEvent.cycleEnd => isTrue trivial
  | DashboardEvent.reload _ _ => inferInstanceAs (Decidable (d.pending = []))
  | DashboardEvent.restart _ _ => inferInstanceAs (Decidable (d.pending = []))

instance (cfg : EngineConfig) (d : Dashboard) (e : DashboardEvent) :
    Decidable (VerdictStored cfg d e) :=
  match e with
  | DashboardEvent.observation _ => isTrue trivial
  | DashboardEvent.cycleEnd => isTrue trivial
  | DashboardEvent.reload now _ | DashboardEvent.restart now _ =>
      inferInstanceAs (Decidable (d.status = PeerStatus.dead <->
        cfg.downAfter <= failedRows (recentRows d.history d.nodeId 24 now)))

structure PairedRows (d : Dashboard) : Prop where
  paired : Paired d.monitored
  outcomes : Outcomes (rowsFor d.nodeId (d.history ++ d.pending))

theorem PairedRows.recent {d : Dashboard} (h : PairedRows d) (now : Instant) :
    Outcomes (recentRows d.history d.nodeId 24 now) := by
  intro row hrow
  apply h.outcomes row
  rw [rowsFor_append]
  exact List.mem_append_left _ (mem_recentRows hrow)

theorem PairedRows.start {d : Dashboard} (hstart : d.Start) : PairedRows d := by
  rcases hstart with ⟨⟨entry, lastAlertFired, hfresh⟩, hrows, hpending, _⟩
  constructor
  · rw [hfresh]
    exact paired_fresh entry lastAlertFired
  · rw [hpending, List.append_nil]
    show Outcomes d.rows
    rw [hrows]
    exact fun row hrow => by cases hrow

theorem PairedRows.see (cfg : EngineConfig) {d : Dashboard} (h : PairedRows d)
    {o : Observation} (hquiet : o.Quiet) : PairedRows (d.see cfg o) := by
  constructor
  · rw [see_monitored]
    exact h.paired.observe cfg hquiet
  · rw [see_nodeId cfg d hquiet]
    intro row hmem
    rcases List.mem_filter.mp hmem with ⟨hin, hown⟩
    rcases mem_see_rows cfg d hquiet hin with hold | hnew
    · exact h.outcomes row (List.mem_filter.mpr ⟨hold, hown⟩)
    · rw [hnew]
      exact record_outcome o

theorem swap_nodeId (cfg : EngineConfig) (d : Dashboard) (now : Instant)
    (alias_ : Option String) (lastAlertFired : List (String × Instant)) :
    (d.swap cfg now alias_ lastAlertFired).nodeId = d.nodeId :=
  hydrated_nodeId cfg d now alias_

theorem PairedRows.swap (cfg : EngineConfig) {d : Dashboard} (h : PairedRows d)
    {now : Instant} (alias_ : Option String)
    (hverdict : d.status = PeerStatus.dead <->
      cfg.downAfter <= failedRows (recentRows d.history d.nodeId 24 now))
    (lastAlertFired : List (String × Instant)) :
    PairedRows (d.swap cfg now alias_ lastAlertFired) := by
  have hrows := h.recent now
  refine ⟨⟨?_, ?_, ?_⟩, ?_⟩
  · exact loadDevice_ne_unreachable cfg hrows _
  · exact h.paired.alternates
  · show (d.hydrated cfg now alias_).currentStatus = PeerStatus.dead <-> _
    rw [Dashboard.hydrated, loadDevice_dead_iff cfg hrows, ← hverdict]
    exact h.paired.opened
  · rw [swap_nodeId]
    exact h.outcomes

theorem restart_eq_swap (cfg : EngineConfig) {d : Dashboard} (hpending : d.pending = [])
    (now : Instant) (alias_ : Option String) :
    d.step cfg (DashboardEvent.restart now alias_) = d.swap cfg now alias_ [] := by
  have hkept : (d.swap cfg now alias_ []).pending = [] := hpending
  unfold Dashboard.step
  rw [← hkept]

theorem PairedRows.step (cfg : EngineConfig) {d : Dashboard} {e : DashboardEvent}
    (h : PairedRows d) (hbounds : CycleBoundary d e) (hverdict : VerdictStored cfg d e) :
    PairedRows (d.step cfg e) := by
  cases e with
  | observation o => exact h.see cfg hbounds
  | cycleEnd =>
      refine ⟨h.paired, ?_⟩
      show Outcomes (rowsFor d.nodeId ((d.history ++ d.pending) ++ []))
      rw [List.append_nil]
      exact h.outcomes
  | reload now alias_ => exact h.swap cfg alias_ hverdict d.monitored.lastAlertFired
  | restart now alias_ =>
      rw [restart_eq_swap cfg hbounds]
      exact h.swap cfg alias_ hverdict []

/--
Over every run whose reloads and restarts find the verdict stored, the monitor
entries alternate, `monitor_down` first.
-/
theorem monitor_history_paired (cfg : EngineConfig) {past : List Dashboard}
    {d : Dashboard}
    (hrun : (dashboard cfg).Run
      (fun d e => CycleBoundary d e ∧ VerdictStored cfg d e) past d) :
    Alternates MonitorOp.monitorDown MonitorOp.monitorUp d.ops := by
  have hstart : forall d, (dashboard cfg).start d -> PairedRows d :=
    fun d hd => PairedRows.start hd
  have hstep : forall d e, PairedRows d -> CycleBoundary d e ∧ VerdictStored cfg d e ->
      PairedRows ((dashboard cfg).step d e) :=
    fun d e h hguard => h.step cfg hguard.left hguard.right
  exact (hrun.invariant hstart hstep).paired.alternates

/-- A reload in the middle of an outage that the rows show in full. -/
theorem monitor_history_paired_outage :
    let cfg := EngineConfig.make "self" 2 1 0
    let d := (dashboard cfg).exec (Dashboard.new monitoredEntry)
      [answered 0, cycleEnd, unanswered 60, cycleEnd, unanswered 120, cycleEnd,
        reloadAt 130, unanswered 180, cycleEnd, restartAt 190, answered 240, cycleEnd]
    d.ops = [MonitorOp.monitorDown, MonitorOp.monitorUp] ∧
      Alternates MonitorOp.monitorDown MonitorOp.monitorUp d.ops :=
  ⟨by decide,
    monitor_history_paired (EngineConfig.make "self" 2 1 0)
      (Machine.Run.exec (Machine.Run.start (Dashboard.start_new monitoredEntry))
        [answered 0, cycleEnd, unanswered 60, cycleEnd, unanswered 120, cycleEnd,
          reloadAt 130, unanswered 180, cycleEnd, restartAt 190, answered 240, cycleEnd]
        (by decide))⟩

/--
Two failures of a peer that has never answered, then a reload: it comes back `DEAD`
without an entry, and its first answer is announced as a recovery.
-/
theorem monitor_history_unpaired :
    ¬ forall (cfg : EngineConfig) (past : List Dashboard) (d : Dashboard),
      (dashboard cfg).Run (fun d e => CycleBoundary d e ∧ Timely d e) past d ->
        Alternates MonitorOp.monitorDown MonitorOp.monitorUp d.ops := by
  intro hclaim
  have hstart : (dashboard (EngineConfig.make "self" 2 1 0)).Run
      (fun d e => CycleBoundary d e ∧ Timely d e) [] (Dashboard.new monitoredEntry) :=
    Machine.Run.start (Dashboard.start_new monitoredEntry)
  have hrun := hstart.exec
    [unanswered 0, cycleEnd, unanswered 60, cycleEnd, reloadAt 70, answered 120]
    (by decide)
  have hpaired := hclaim _ _ _ hrun
  revert hpaired
  decide

end Liveness
end PanicMonitr
