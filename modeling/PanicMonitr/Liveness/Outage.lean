import PanicMonitr.Liveness.Reload

/-!
# Outages across reloads

A peer that has been `ALIVE` and has failed `down_after` times in a row is `DEAD`,
and the log says so.  A reload keeps this unless it comes after some failures but
too few: the hydrated peer is then `UNKNOWN`, from where no failure leads to `DEAD`.
-/

namespace PanicMonitr
namespace Liveness

open Foundation
open Trust

/-!
## Runs of heartbeat cycles
-/

/-- Probes at their cycle's time, and reloads or restarts between cycles. -/
def HeartbeatCycles (d : Dashboard) (e : DashboardEvent) : Prop :=
  CycleBoundary d e ∧ Timely d e ∧
    match e with
    | DashboardEvent.observation (Observation.push _ _) => False
    | _ => True

/-- A reload or restart of a peer that was `ALIVE` does not cut a short failure run. -/
def FailuresSettled (cfg : EngineConfig) (d : Dashboard) : DashboardEvent -> Prop
  | DashboardEvent.observation _ => True
  | DashboardEvent.cycleEnd => True
  | DashboardEvent.reload _ _ | DashboardEvent.restart _ _ =>
      d.wasAlive = true ->
        d.peer.consecutiveFailures = 0 ∨ cfg.downAfter <= d.peer.consecutiveFailures

instance (d : Dashboard) (e : DashboardEvent) : Decidable (HeartbeatCycles d e) :=
  have : Decidable (match e with
      | DashboardEvent.observation (Observation.push _ _) => False
      | _ => True) :=
    match e with
    | DashboardEvent.observation (Observation.push _ _) => isFalse id
    | DashboardEvent.observation (Observation.probe _ _ _ _) => isTrue trivial
    | DashboardEvent.cycleEnd => isTrue trivial
    | DashboardEvent.reload _ _ => isTrue trivial
    | DashboardEvent.restart _ _ => isTrue trivial
  inferInstanceAs (Decidable (_ ∧ _ ∧ _))

instance (cfg : EngineConfig) (d : Dashboard) (e : DashboardEvent) :
    Decidable (FailuresSettled cfg d e) :=
  match e with
  | DashboardEvent.observation _ => isTrue trivial
  | DashboardEvent.cycleEnd => isTrue trivial
  | DashboardEvent.reload _ _ | DashboardEvent.restart _ _ =>
      inferInstanceAs (Decidable (d.wasAlive = true ->
        d.peer.consecutiveFailures = 0 ∨ cfg.downAfter <= d.peer.consecutiveFailures))

/-- The last entry is a `monitor_down` no earlier `ALIVE` state had yet. -/
def Announced (past : List Dashboard) (d : Dashboard) : Prop :=
  d.ops.getLast? = some MonitorOp.monitorDown ∧
    forall v, v ∈ past -> v.status = PeerStatus.alive -> v.ops.length < d.ops.length

/-!
## The invariant
-/

/-- The rows of the peer in the order of its probes, stored or still batched. -/
def Dashboard.allRows (d : Dashboard) : List ProbeRow :=
  rowsFor d.nodeId (d.history ++ d.pending)

structure Follows (cfg : EngineConfig) (past : List Dashboard) (d : Dashboard) :
    Prop where
  known : d.status ≠ PeerStatus.unreachable
  failures : d.peer.consecutiveFailures = failureRun d.observed
  outcomes : d.allRows.map ProbeRow.status =
    d.observed.map (fun o => o.record.status)
  sorted : d.allRows.Pairwise (fun a b => a.ts <= b.ts)
  written : forall row, row ∈ d.allRows -> row.ts <= toEpoch d.clock
  alive : d.status = PeerStatus.alive ->
    d.wasAlive = true ∧ d.peer.consecutiveFailures < cfg.downAfter
  wasAlive : d.wasAlive = true ->
    d.observed ≠ [] ∧ d.status ≠ PeerStatus.unknown
  earlier : forall v, v ∈ past ->
    v.ops.length <= d.ops.length ∧ (v.status = PeerStatus.alive -> d.wasAlive = true)
  announced : d.wasAlive = true -> d.status = PeerStatus.dead -> Announced past d

/-- The failures at the end of the rows are the failed probes at the end of the run. -/
theorem failedRows_of_outcomes {rows : List ProbeRow} {obs : List Observation}
    (h : rows.map ProbeRow.status = obs.map (fun o => o.record.status)) :
    failedRows rows = failureRun obs := by
  have hfailed : (fun o : Observation => decide (o.record.status = PeerStatus.dead)) =
      fun o => !o.succeeded := by
    funext o
    unfold Observation.succeeded
    rcases record_outcome o with halive | hdead
    · simp [halive]
    · simp [hdead]
  calc failedRows rows
      = trailingRun (fun s => decide (s = PeerStatus.dead)) (rows.map ProbeRow.status) :=
        (trailingRun_map (fun s => decide (s = PeerStatus.dead)) ProbeRow.status rows).symm
    _ = trailingRun (fun o : Observation => decide (o.record.status = PeerStatus.dead))
          obs := by
        rw [h, trailingRun_map]
    _ = failureRun obs := by
        rw [hfailed]
        rfl

theorem Follows.start {cfg : EngineConfig} {d : Dashboard} (hstart : d.Start) :
    Follows cfg [] d := by
  rcases hstart with ⟨⟨entry, lastAlertFired, hfresh⟩, hrows, hpending, hobserved, hnever⟩
  have hpeer : d.peer = PeerState.init entry := by
    unfold Dashboard.peer
    rw [hfresh]
    rfl
  have hstatus : d.status = PeerStatus.unknown := by
    unfold Dashboard.status
    rw [hpeer]
    rfl
  have hall : d.allRows = [] := by
    unfold Dashboard.allRows
    rw [hpending, List.append_nil]
    exact hrows
  exact {
    known := by rw [hstatus]; decide
    failures := by rw [hpeer, hobserved]; rfl
    outcomes := by rw [hall, hobserved]; rfl
    sorted := by rw [hall]; exact List.Pairwise.nil
    written := by rw [hall]; exact fun row hrow => by cases hrow
    alive := by rw [hstatus]; exact fun h => by cases h
    wasAlive := by rw [hnever]; exact fun h => by cases h
    earlier := fun v hv => by cases hv
    announced := by rw [hnever]; exact fun h => by cases h }

/-- Earlier states stay behind when the log grows and `wasAlive` stays set. -/
theorem Follows.earlier_step {cfg : EngineConfig} {past : List Dashboard}
    {d d' : Dashboard} (h : Follows cfg past d) (hops : d.ops.length <= d'.ops.length)
    (hwas : d.wasAlive = true -> d'.wasAlive = true) :
    forall v, v ∈ d :: past -> v.ops.length <= d'.ops.length ∧
      (v.status = PeerStatus.alive -> d'.wasAlive = true) := by
  intro v hv
  rcases List.mem_cons.mp hv with hhead | htail
  · rw [hhead]
    exact ⟨hops, fun halive => hwas (h.alive halive).left⟩
  · rcases h.earlier v htail with ⟨hlen, halive⟩
    exact ⟨Nat.le_trans hlen hops, fun hv => hwas (halive hv)⟩

/-- A `DEAD` peer stays announced while nothing is appended. -/
theorem Announced.keep {past : List Dashboard} {d d' : Dashboard}
    (h : Announced past d) (hdead : d.status = PeerStatus.dead) (hops : d'.ops = d.ops) :
    Announced (d :: past) d' := by
  refine ⟨by rw [hops]; exact h.left, ?_⟩
  intro v hv halive
  rcases List.mem_cons.mp hv with hhead | htail
  · rw [hhead, hdead] at halive
    cases halive
  · rw [hops]
    exact h.right v htail halive

/-- A peer that was `ALIVE` and has failed often enough is `DEAD`. -/
theorem Follows.dead {cfg : EngineConfig} {past : List Dashboard} {d : Dashboard}
    (h : Follows cfg past d) (hwas : d.wasAlive = true)
    (hfailed : cfg.downAfter <= d.peer.consecutiveFailures) : d.status = PeerStatus.dead := by
  cases hst : d.status with
  | dead => rfl
  | alive =>
      have hlt := (h.alive hst).right
      omega
  | unknown => exact absurd hst (h.wasAlive hwas).right
  | unreachable => exact absurd hst h.known

/-- A peer that is `DEAD` now and was `ALIVE` at some time was so before the step. -/
theorem wasAlive_before {before : Bool} {status : PeerStatus}
    (h : (before || decide (status = PeerStatus.alive)) = true)
    (hdead : status = PeerStatus.dead) : before = true := by
  rw [hdead, Bool.or_eq_true] at h
  exact h.resolve_right (by decide)

/-!
## One probe
-/

theorem see_allRows (cfg : EngineConfig) (d : Dashboard) {before after : Option TrustedPeer}
    {now : Instant} (outcome : ProbeOutcome)
    (hquiet : (Observation.probe before after now outcome).Quiet) :
    (d.see cfg (Observation.probe before after now outcome)).allRows =
      d.allRows ++ [rowOf d.nodeId (probeRecord now outcome)] := by
  rcases see_probe_rows cfg d outcome hquiet with ⟨hhistory, hpending⟩
  unfold Dashboard.allRows
  rw [see_nodeId cfg d hquiet, hhistory, hpending, ← List.append_assoc, rowsFor_append,
    rowsFor_rowOf]

/-- The entry that announces an outage is one more than any state had so far. -/
theorem Follows.announce {cfg : EngineConfig} {past : List Dashboard} {d d' : Dashboard}
    (h : Follows cfg past d) (hops : d'.ops = d.ops ++ [MonitorOp.monitorDown]) :
    Announced (d :: past) d' := by
  refine ⟨by rw [hops]; simp, ?_⟩
  intro v hv _halive
  rw [hops, List.length_append, List.length_singleton]
  rcases List.mem_cons.mp hv with hhead | htail
  · rw [hhead]
    omega
  · have hle := (h.earlier v htail).left
    omega

section Probing

variable {cfg : EngineConfig} {past : List Dashboard} {d : Dashboard} {o : Observation}

theorem see_failures (hquiet : o.Quiet) :
    (d.see cfg o).peer.consecutiveFailures =
      if o.succeeded then 0 else d.peer.consecutiveFailures + 1 := by
  unfold Dashboard.peer
  rw [see_monitored]
  exact observe_failures cfg d.monitored hquiet

theorem see_status (hquiet : o.Quiet) :
    (d.see cfg o).status =
      statusAfter cfg d.status (d.see cfg o).peer.consecutiveFailures
        (d.see cfg o).peer.consecutiveSuccesses o.succeeded := by
  unfold Dashboard.status Dashboard.peer
  rw [see_monitored]
  exact observe_status cfg d.monitored hquiet

theorem see_ops (hquiet : o.Quiet) :
    (d.see cfg o).ops = d.ops ++ changeOps d.status (d.see cfg o).status := by
  unfold Dashboard.ops Dashboard.status Dashboard.peer
  rw [see_monitored]
  exact observe_monitorOps cfg d.monitored hquiet

theorem Follows.see_cases (h : Follows cfg past d) (hquiet : o.Quiet) :
    (d.see cfg o).status = d.status ∨
      (d.status = PeerStatus.unknown ∧ (d.see cfg o).status = PeerStatus.alive) ∨
      (d.status = PeerStatus.alive ∧ (d.see cfg o).status = PeerStatus.dead) ∨
      (d.status = PeerStatus.dead ∧ (d.see cfg o).status = PeerStatus.alive) := by
  rw [see_status hquiet]
  exact statusAfter_cases cfg h.known _ _ o.succeeded

/-- No probe leads to `UNREACHABLE`, or back to `UNKNOWN`. -/
theorem Follows.see_known (h : Follows cfg past d) (hquiet : o.Quiet) :
    (d.see cfg o).status ≠ PeerStatus.unreachable ∧
      (d.status ≠ PeerStatus.unknown -> (d.see cfg o).status ≠ PeerStatus.unknown) := by
  rcases h.see_cases hquiet with hsame | ⟨_, hto⟩ | ⟨_, hto⟩ | ⟨_, hto⟩
  · rw [hsame]
    exact ⟨h.known, id⟩
  all_goals
    rw [hto]
    exact ⟨nofun, fun _ => nofun⟩

theorem see_failures_lt (hquiet : o.Quiet) (halive : (d.see cfg o).status = PeerStatus.alive) :
    (d.see cfg o).peer.consecutiveFailures < cfg.downAfter := by
  cases hok : o.succeeded with
  | true =>
      rw [see_failures hquiet, hok]
      exact cfg.hdown
  | false =>
      rw [see_status hquiet, hok] at halive
      exact failures_lt_of_alive halive

theorem Follows.see_announced (h : Follows cfg past d) (hquiet : o.Quiet)
    (hwas : d.wasAlive = true) (hdead : (d.see cfg o).status = PeerStatus.dead) :
    Announced (d :: past) (d.see cfg o) := by
  have hops : (d.see cfg o).ops = d.ops ++ changeOps d.status (d.see cfg o).status :=
    see_ops hquiet
  rcases h.see_cases hquiet with hsame | ⟨_, hto⟩ | ⟨hfrom, hto⟩ | ⟨_, hto⟩
  · have hstill : d.status = PeerStatus.dead := by
      rw [← hsame]
      exact hdead
    rw [hsame, changeOps, if_pos (Or.inl rfl), List.append_nil] at hops
    exact (h.announced hwas hstill).keep hstill hops
  · rw [hdead] at hto
    cases hto
  · -- the transition itself
    apply h.announce
    rw [hops, hfrom, hto]
    rfl
  · rw [hdead] at hto
    cases hto

theorem Follows.probe (h : Follows cfg past d) {before after : Option TrustedPeer}
    {now : Instant} (outcome : ProbeOutcome)
    (hquiet : (Observation.probe before after now outcome).Quiet)
    (htime : d.clock <= now) :
    Follows cfg (d :: past) (d.see cfg (Observation.probe before after now outcome)) := by
  let o := Observation.probe before after now outcome
  have hstamp := probeRecord_timestamp now outcome
  have hclock : (d.see cfg o).clock = now := hstamp
  have hobserved : (d.see cfg o).observed = d.observed ++ [o] := rfl
  have hwas : (d.see cfg o).wasAlive =
      (d.wasAlive || decide ((d.see cfg o).status = PeerStatus.alive)) := rfl
  have hlen : d.ops.length <= (d.see cfg o).ops.length := by
    rw [see_ops hquiet, List.length_append]
    omega
  have hrows := see_allRows cfg d outcome hquiet
  have hts : (rowOf d.nodeId (probeRecord now outcome)).ts = toEpoch now :=
    congrArg toEpoch hstamp
  have hknown := h.see_known hquiet
  have hnew : Follows cfg (d :: past) (d.see cfg o) := {
    known := hknown.left
    failures := by
      rw [see_failures hquiet, hobserved, failureRun_snoc, h.failures]
    outcomes := by
      rw [hrows, hobserved, List.map_append, List.map_append, h.outcomes]
      rfl
    sorted := by
      rw [hrows, List.pairwise_append]
      refine ⟨h.sorted, List.pairwise_singleton _ _, ?_⟩
      intro a ha b hb
      rw [List.mem_singleton.mp hb, hts]
      exact Int.le_trans (h.written a ha) (toEpoch_mono htime)
    written := by
      intro row hrow
      rw [hrows] at hrow
      rw [hclock]
      rcases List.mem_append.mp hrow with hold | hlast
      · exact Int.le_trans (h.written row hold) (toEpoch_mono htime)
      · rw [List.mem_singleton.mp hlast, hts]
    alive := by
      intro halive
      exact ⟨by rw [hwas, decide_eq_true halive, Bool.or_true], see_failures_lt hquiet halive⟩
    wasAlive := by
      intro hwas'
      refine ⟨by rw [hobserved]; simp, ?_⟩
      rw [hwas, Bool.or_eq_true, decide_eq_true_eq] at hwas'
      rcases hwas' with hold | halive
      · exact hknown.right (h.wasAlive hold).right
      · rw [halive]
        decide
    earlier := h.earlier_step hlen (fun hold => by rw [hwas, hold, Bool.true_or])
    announced := by
      intro hwas' hdead
      exact h.see_announced hquiet (wasAlive_before (hwas ▸ hwas') hdead) hdead }
  exact hnew

end Probing

/-!
## One reload
-/

/-- What hydration makes of a peer with these probes in its history. -/
inductive Hydration (cfg : EngineConfig) (obs : List Observation) : PeerStatus -> Prop where
  | unseen : obs = [] -> Hydration cfg obs PeerStatus.unknown
  | failing : 0 < failureRun obs -> failureRun obs < cfg.downAfter ->
      Hydration cfg obs PeerStatus.unknown
  | up : obs ≠ [] -> failureRun obs = 0 -> Hydration cfg obs PeerStatus.alive
  | down : cfg.downAfter <= failureRun obs -> Hydration cfg obs PeerStatus.dead

theorem hydration_loadDevice (cfg : EngineConfig) {rows : List ProbeRow}
    {obs : List Observation}
    (houtcomes : rows.map ProbeRow.status = obs.map (fun o => o.record.status))
    (entry : PeerEntry) :
    (loadDevice cfg (some rows) entry).consecutiveFailures = failureRun obs ∧
      Hydration cfg obs (loadDevice cfg (some rows) entry).currentStatus := by
  have hfailed := failedRows_of_outcomes houtcomes
  cases hlast : rows.getLast? with
  | none =>
      have hnil : rows = [] := List.getLast?_eq_none_iff.mp hlast
      rw [hnil] at houtcomes
      have hobs : obs = [] := List.map_eq_nil_iff.mp houtcomes.symm
      rw [hnil, loadDevice_nil, hobs]
      exact ⟨rfl, Hydration.unseen rfl⟩
  | some last =>
      have hmem : last ∈ rows := List.mem_of_getLast? hlast
      have hin : last.status ∈ obs.map (fun o => o.record.status) := by
        rw [← houtcomes]
        exact List.mem_map_of_mem hmem
      rcases List.mem_map.mp hin with ⟨o, ho, hstatus⟩
      rcases record_outcome o with halive | hdead
      · rcases loadDevice_alive cfg hlast (hstatus.symm.trans halive) entry with
          ⟨hst, hcf, hzero⟩
        rw [hfailed] at hzero
        rw [hst, hcf, hzero]
        exact ⟨rfl, Hydration.up (List.ne_nil_of_mem ho) hzero⟩
      · rcases loadDevice_failed cfg hlast (hstatus.symm.trans hdead) entry with
          ⟨hst, hcf, hrun⟩
        rw [hfailed] at hst hcf hrun
        rw [hst, hcf]
        refine ⟨rfl, ?_⟩
        split
        · rename_i hreach
          exact Hydration.down hreach
        · rename_i hshort
          exact Hydration.failing hrun (Nat.lt_of_not_le hshort)

theorem Hydration.known {cfg : EngineConfig} {obs : List Observation} {status : PeerStatus}
    (h : Hydration cfg obs status) : status ≠ PeerStatus.unreachable := by
  cases h with
  | unseen => exact fun h => by cases h
  | failing => exact fun h => by cases h
  | up => exact fun h => by cases h
  | down => exact fun h => by cases h

/-- Of a peer that was `ALIVE`, and whose failures are settled, hydration knows the status. -/
theorem Hydration.settled {cfg : EngineConfig} {obs : List Observation} {status : PeerStatus}
    (h : Hydration cfg obs status) (hobs : obs ≠ [])
    (hsettled : failureRun obs = 0 ∨ cfg.downAfter <= failureRun obs) :
    status ≠ PeerStatus.unknown := by
  cases h with
  | unseen hnone => exact absurd hnone hobs
  | failing hrun hshort =>
      rcases hsettled with hzero | hreach
      · omega
      · omega
  | up => exact fun h => by cases h
  | down => exact fun h => by cases h

theorem Hydration.alive {cfg : EngineConfig} {obs : List Observation}
    (h : Hydration cfg obs PeerStatus.alive) : obs ≠ [] ∧ failureRun obs = 0 := by
  cases h with
  | up hobs hzero => exact ⟨hobs, hzero⟩

theorem Hydration.dead {cfg : EngineConfig} {obs : List Observation}
    (h : Hydration cfg obs PeerStatus.dead) : cfg.downAfter <= failureRun obs := by
  cases h with
  | down hreach => exact hreach

theorem Follows.swap {cfg : EngineConfig} {past : List Dashboard} {d : Dashboard}
    (h : Follows cfg past d) {now : Instant} (alias_ : Option String)
    (lastAlertFired : List (String × Instant)) (hpending : d.pending = [])
    (htime : d.clock <= now)
    (hrecent : forall row, row ∈ d.rows -> toEpoch (now - hoursMicros 24) <= row.ts)
    (hsettled : d.wasAlive = true ->
      d.peer.consecutiveFailures = 0 ∨ cfg.downAfter <= d.peer.consecutiveFailures) :
    Follows cfg (d :: past) (d.swap cfg now alias_ lastAlertFired) := by
  let d' := d.swap cfg now alias_ lastAlertFired
  have hall : d.allRows = d.rows := by
    unfold Dashboard.allRows
    rw [hpending, List.append_nil]
    rfl
  have hall' : d'.allRows = d.allRows := by
    unfold Dashboard.allRows
    rw [swap_nodeId]
    rfl
  have hloaded : d'.peer = loadDevice cfg (some d.rows)
      { nodeId := d.nodeId, alias_ := alias_ } := by
    show loadDevice cfg (some (recentRows d.history d.nodeId 24 now)) _ = _
    rw [recentRows_eq hrecent (by rw [← Dashboard.rows, ← hall]; exact h.sorted)]
    rfl
  have hwas : d'.wasAlive =
      (d.wasAlive || decide (d'.status = PeerStatus.alive)) := rfl
  have hops : d'.ops = d.ops := rfl
  have houtcomes := h.outcomes
  rw [hall] at houtcomes
  rcases hydration_loadDevice cfg houtcomes { nodeId := d.nodeId, alias_ := alias_ } with
    ⟨hcf, hverdict⟩
  rw [← hloaded] at hcf hverdict
  have hnew : Follows cfg (d :: past) d' := {
    known := hverdict.known
    failures := hcf
    outcomes := by
      rw [hall']
      exact h.outcomes
    sorted := by
      rw [hall']
      exact h.sorted
    written := by
      intro row hrow
      rw [hall'] at hrow
      exact Int.le_trans (h.written row hrow) (toEpoch_mono htime)
    alive := by
      intro halive
      refine ⟨by rw [hwas, decide_eq_true halive, Bool.or_true], ?_⟩
      have hup : Hydration cfg d.observed PeerStatus.alive := halive ▸ hverdict
      rw [hcf, hup.alive.right]
      exact cfg.hdown
    wasAlive := by
      intro hwas'
      rw [hwas, Bool.or_eq_true, decide_eq_true_eq] at hwas'
      rcases hwas' with hold | halive
      · have hobs := (h.wasAlive hold).left
        have hfailures := hsettled hold
        rw [h.failures] at hfailures
        exact ⟨hobs, hverdict.settled hobs hfailures⟩
      · have hup : Hydration cfg d.observed PeerStatus.alive := halive ▸ hverdict
        exact ⟨hup.alive.left, by rw [halive]; decide⟩
    earlier := h.earlier_step (Nat.le_of_eq (by rw [hops]))
      (fun hold => by rw [hwas, hold, Bool.true_or])
    announced := by
      intro hwas' hdead
      have hold : d.wasAlive = true := wasAlive_before (hwas ▸ hwas') hdead
      have hdown : Hydration cfg d.observed PeerStatus.dead := hdead ▸ hverdict
      have hreach := hdown.dead
      rw [← h.failures] at hreach
      have hstill := h.dead hold hreach
      exact (h.announced hold hstill).keep hstill hops }
  exact hnew

theorem Follows.step {cfg : EngineConfig} {past : List Dashboard} {d : Dashboard}
    {e : DashboardEvent} (h : Follows cfg past d) (hcycles : HeartbeatCycles d e)
    (hsettled : FailuresSettled cfg d e) : Follows cfg (d :: past) (d.step cfg e) := by
  rcases hcycles with ⟨hbounds, htime, hprobe⟩
  cases e with
  | observation o =>
      cases o with
      | push => exact absurd hprobe id
      | probe before after now outcome =>
          have hclock : d.clock <= now := by
            rw [← probeRecord_timestamp now outcome]
            exact htime
          exact h.probe outcome hbounds hclock
  | cycleEnd =>
      have hall : (d.step cfg DashboardEvent.cycleEnd).allRows = d.allRows := by
        show rowsFor d.nodeId ((d.history ++ d.pending) ++ []) = _
        rw [List.append_nil]
        rfl
      exact {
        known := h.known
        failures := h.failures
        outcomes := by rw [hall]; exact h.outcomes
        sorted := by rw [hall]; exact h.sorted
        written := by rw [hall]; exact h.written
        alive := h.alive
        wasAlive := h.wasAlive
        earlier := h.earlier_step (Nat.le_refl _) id
        announced := fun hwas hdead => (h.announced hwas hdead).keep hdead rfl }
  | reload now alias_ =>
      exact h.swap alias_ d.monitored.lastAlertFired hbounds htime.left htime.right hsettled
  | restart now alias_ =>
      rw [restart_eq_swap cfg hbounds]
      exact h.swap alias_ [] hbounds htime.left htime.right hsettled

/-!
## Main result
-/

/--
In every run of heartbeat cycles whose reloads do not cut a short failure run, a peer
that was `ALIVE` and has failed `down_after` times in a row is `DEAD` and announced.
-/
theorem outage_detected (cfg : EngineConfig) {past : List Dashboard} {d : Dashboard}
    (hrun : (dashboard cfg).Run
      (fun d e => HeartbeatCycles d e ∧ FailuresSettled cfg d e) past d)
    (halive : exists v, v ∈ past ∧ v.status = PeerStatus.alive)
    (hfailed : cfg.downAfter <= failureRun d.observed) :
    d.status = PeerStatus.dead ∧ Announced past d := by
  have hstart : forall d, (dashboard cfg).start d -> Follows cfg [] d :=
    fun d hd => Follows.start hd
  have hstep : forall past d e, Follows cfg past d ->
      HeartbeatCycles d e ∧ FailuresSettled cfg d e ->
      Follows cfg (d :: past) ((dashboard cfg).step d e) :=
    fun past d e h hguard => h.step hguard.left hguard.right
  have h : Follows cfg past d := hrun.invariant_past hstart hstep
  rcases halive with ⟨v, hv, hvalive⟩
  have hwas : d.wasAlive = true := (h.earlier v hv).right hvalive
  rw [← h.failures] at hfailed
  have hdead := h.dead hwas hfailed
  exact ⟨hdead, h.announced hwas hdead⟩

/-- A reload before the failures and one after the outage has been announced. -/
theorem outage_detected_reloads :
    let cfg := EngineConfig.make "self" 2 1 0
    let d := (dashboard cfg).exec (Dashboard.new monitoredEntry)
      [answered 0, cycleEnd, reloadAt 10, unanswered 60, cycleEnd, unanswered 120,
        cycleEnd, reloadAt 130, unanswered 180]
    cfg.downAfter <= failureRun d.observed ∧ d.status = PeerStatus.dead :=
  ⟨by decide,
    (outage_detected (EngineConfig.make "self" 2 1 0)
      (Machine.Run.exec (Machine.Run.start (Dashboard.start_new monitoredEntry))
        [answered 0, cycleEnd, reloadAt 10, unanswered 60, cycleEnd, unanswered 120,
          cycleEnd, reloadAt 130, unanswered 180] (by decide))
      ⟨(dashboard (EngineConfig.make "self" 2 1 0)).step (Dashboard.new monitoredEntry)
        (answered 0), by simp [Machine.trail], by decide⟩
      (by decide)).left⟩

/--
One answer, one failure, a reload, three more failures with `down_after = 2`: the
outage is never detected.
-/
theorem outage_missed :
    ¬ forall (cfg : EngineConfig) (past : List Dashboard) (d : Dashboard),
      (dashboard cfg).Run HeartbeatCycles past d ->
      (exists v, v ∈ past ∧ v.status = PeerStatus.alive) ->
      cfg.downAfter <= failureRun d.observed ->
        d.status = PeerStatus.dead ∧ Announced past d := by
  intro hclaim
  have hstart : (dashboard (EngineConfig.make "self" 2 1 0)).Run HeartbeatCycles []
      (Dashboard.new monitoredEntry) :=
    Machine.Run.start (Dashboard.start_new monitoredEntry)
  have hrun := hstart.exec
    [answered 0, cycleEnd, unanswered 60, cycleEnd, reloadAt 70, unanswered 120,
      cycleEnd, unanswered 180, cycleEnd, unanswered 240]
    (by decide)
  have hdead := (hclaim _ _ _ hrun
    ⟨(dashboard (EngineConfig.make "self" 2 1 0)).step (Dashboard.new monitoredEntry)
      (answered 0), by simp [Machine.trail], by decide⟩ (by decide)).left
  revert hdead
  decide

end Liveness
end PanicMonitr
