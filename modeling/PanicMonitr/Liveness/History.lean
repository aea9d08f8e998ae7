import PanicMonitr.Liveness.Observation
import Mathlib.Data.List.Sort

/-!
# Probe history and hydration

The history store as its list of rows in insertion order, and what a freshly loaded
device takes over from it.
-/

namespace PanicMonitr
namespace Liveness

open Foundation
open Trust

/-!
## The store
-/

structure ProbeRow where
  nodeId : String
  ts : Int
  rttMs : Option Rat
  status : PeerStatus
  deriving DecidableEq

/-- `_to_epoch`: `int()` cuts towards zero. -/
def toEpoch (t : Instant) : Int :=
  t.tdiv microsPerSecond

def fromEpoch (ts : Int) : Instant :=
  ts * microsPerSecond

def rowOf (nodeId : String) (record : LatencyRecord) : ProbeRow :=
  { nodeId := nodeId
    ts := toEpoch record.timestamp
    rttMs := record.rttMs
    status := record.status }

def hoursMicros (hours : Nat) : Int :=
  (hours : Int) * 3600 * microsPerSecond

/-- The rows of a node, in the order they were inserted. -/
def rowsFor (nodeId : String) (rows : List ProbeRow) : List ProbeRow :=
  rows.filter (fun row => decide (row.nodeId = nodeId))

/-- `recent_rows(node_id, hours)` at a clock reading; rows of one second keep their order. -/
def recentRows (rows : List ProbeRow) (nodeId : String) (hours : Nat) (now : Instant) :
    List ProbeRow :=
  ((rowsFor nodeId rows).filter
    (fun row => decide (toEpoch (now - hoursMicros hours) <= row.ts))).insertionSort
      (fun a b => a.ts <= b.ts)

/-!
## Hydration
-/

/-- `PeerState` fields of a row in `latency_history`. -/
def recordOf (row : ProbeRow) : LatencyRecord :=
  { timestamp := fromEpoch row.ts, rttMs := row.rttMs, status := row.status }

/--
`_hydrate_state_from_history(state)`, given what `recent_rows` returned; `none` is a
history store that raised.
-/
def hydrateStateFromHistory (cfg : EngineConfig) (rows : Option (List ProbeRow))
    (state : PeerState) : PeerState :=
  match rows with
  | none => state
  | some rows =>
      match rows.getLast? with
      | none => state
      | some last =>
          let tail := rows.drop (rows.length - HISTORY_MAXLEN)
          let seen := rows.reverse.find? (fun row => decide (row.status = PeerStatus.alive))
          let run := trailingRun (fun row => decide (row.status = last.status)) rows
          let hydrated := tail.foldl (fun st row => st.remember (recordOf row)) state
          let hydrated :=
            match seen with
            | none => hydrated
            | some row => { hydrated with lastSeen := some (fromEpoch row.ts) }
          if last.status = PeerStatus.alive then
            { hydrated with
              consecutiveSuccesses := run
              consecutiveFailures := 0
              currentStatus := PeerStatus.alive }
          else
            { hydrated with
              consecutiveFailures := run
              consecutiveSuccesses := 0
              currentStatus :=
                if cfg.downAfter <= run then PeerStatus.dead else PeerStatus.unknown }

/-- The state `_load_devices` builds for a peer it puts on the dashboard. -/
def loadDevice (cfg : EngineConfig) (rows : Option (List ProbeRow)) (entry : PeerEntry) :
    PeerState :=
  hydrateStateFromHistory cfg rows (PeerState.init entry)

/-!
## What a reload leaves of a peer
-/

def failedRows (rows : List ProbeRow) : Nat :=
  trailingRun (fun row => decide (row.status = PeerStatus.dead)) rows

/-- The store only holds outcomes: every row is `ALIVE` or `DEAD`. -/
def Outcomes (rows : List ProbeRow) : Prop :=
  forall row, row ∈ rows -> row.status = PeerStatus.alive ∨ row.status = PeerStatus.dead

theorem foldl_remember_entry (rows : List ProbeRow) (state : PeerState) :
    (rows.foldl (fun st row => st.remember (recordOf row)) state).entry = state.entry := by
  induction rows generalizing state with
  | nil => rfl
  | cons row rows ih => exact ih (state.remember (recordOf row))

theorem loadDevice_nil (cfg : EngineConfig) (entry : PeerEntry) :
    loadDevice cfg (some []) entry = PeerState.init entry := rfl

theorem loadDevice_entry (cfg : EngineConfig) (rows : Option (List ProbeRow))
    (entry : PeerEntry) : (loadDevice cfg rows entry).entry = entry := by
  unfold loadDevice hydrateStateFromHistory
  cases rows with
  | none => rfl
  | some rows =>
      simp only
      cases rows.getLast? with
      | none => rfl
      | some last =>
          simp only
          split
          · split <;> exact foldl_remember_entry _ _
          · split <;> exact foldl_remember_entry _ _

/-- A last row of success: the peer is `ALIVE` and nothing has failed since. -/
theorem loadDevice_alive (cfg : EngineConfig) {rows : List ProbeRow} {last : ProbeRow}
    (hlast : rows.getLast? = some last) (halive : last.status = PeerStatus.alive)
    (entry : PeerEntry) :
    (loadDevice cfg (some rows) entry).currentStatus = PeerStatus.alive ∧
      (loadDevice cfg (some rows) entry).consecutiveFailures = 0 ∧
      failedRows rows = 0 := by
  have hzero : failedRows rows = 0 := by
    apply Nat.eq_zero_of_not_pos
    intro hpos
    rcases trailingRun_pos_iff.mp hpos with ⟨row, hrow, hdead⟩
    rw [hlast] at hrow
    cases hrow
    rw [decide_eq_true_eq, halive] at hdead
    cases hdead
  unfold loadDevice hydrateStateFromHistory
  simp only [hlast, halive, if_true]
  exact ⟨trivial, trivial, hzero⟩

/-- A last row of failure: `DEAD` from the threshold on, `UNKNOWN` below it. -/
theorem loadDevice_failed (cfg : EngineConfig) {rows : List ProbeRow} {last : ProbeRow}
    (hlast : rows.getLast? = some last) (hdead : last.status = PeerStatus.dead)
    (entry : PeerEntry) :
    (loadDevice cfg (some rows) entry).currentStatus =
        (if cfg.downAfter <= failedRows rows then PeerStatus.dead
          else PeerStatus.unknown) ∧
      (loadDevice cfg (some rows) entry).consecutiveFailures = failedRows rows ∧
      0 < failedRows rows := by
  have hpos : 0 < failedRows rows :=
    trailingRun_pos_iff.mpr ⟨last, hlast, decide_eq_true hdead⟩
  unfold loadDevice hydrateStateFromHistory
  simp only [hlast, hdead]
  exact ⟨rfl, rfl, hpos⟩

theorem loadDevice_dead_iff (cfg : EngineConfig) {rows : List ProbeRow}
    (hrows : Outcomes rows) (entry : PeerEntry) :
    (loadDevice cfg (some rows) entry).currentStatus = PeerStatus.dead <->
      cfg.downAfter <= failedRows rows := by
  have hpos := cfg.hdown
  cases hlast : rows.getLast? with
  | none =>
      have hnil : rows = [] := List.getLast?_eq_none_iff.mp hlast
      subst hnil
      refine iff_of_false (fun h => by cases h) ?_
      show ¬ cfg.downAfter <= 0
      omega
  | some last =>
      rcases hrows last (List.mem_of_getLast? hlast) with halive | hdead
      · rcases loadDevice_alive cfg hlast halive entry with ⟨hstatus, _hfail, hzero⟩
        rw [hstatus, hzero]
        exact iff_of_false (by decide) (by omega)
      · rcases loadDevice_failed cfg hlast hdead entry with ⟨hstatus, _hfail, _hpos⟩
        rw [hstatus]
        split
        · rename_i hreach
          exact iff_of_true rfl hreach
        · rename_i hshort
          exact iff_of_false (by decide) hshort

theorem loadDevice_ne_unreachable (cfg : EngineConfig) {rows : List ProbeRow}
    (hrows : Outcomes rows) (entry : PeerEntry) :
    (loadDevice cfg (some rows) entry).currentStatus ≠ PeerStatus.unreachable := by
  cases hlast : rows.getLast? with
  | none =>
      have hnil : rows = [] := List.getLast?_eq_none_iff.mp hlast
      subst hnil
      exact fun h => by cases h
  | some last =>
      rcases hrows last (List.mem_of_getLast? hlast) with halive | hdead
      · rw [(loadDevice_alive cfg hlast halive entry).left]
        decide
      · rw [(loadDevice_failed cfg hlast hdead entry).left]
        split <;> decide

/-!
## What the query returns
-/

theorem mem_recentRows {rows : List ProbeRow} {nodeId : String} {hours : Nat}
    {now : Instant} {row : ProbeRow} (h : row ∈ recentRows rows nodeId hours now) :
    row ∈ rowsFor nodeId rows := by
  unfold recentRows at h
  rw [List.mem_insertionSort, List.mem_filter] at h
  exact h.left

/-- Rows that are all recent and in time order come back as they were inserted. -/
theorem recentRows_eq {rows : List ProbeRow} {nodeId : String} {hours : Nat}
    {now : Instant}
    (hrecent : forall row, row ∈ rowsFor nodeId rows ->
      toEpoch (now - hoursMicros hours) <= row.ts)
    (hsorted : (rowsFor nodeId rows).Pairwise (fun a b => a.ts <= b.ts)) :
    recentRows rows nodeId hours now = rowsFor nodeId rows := by
  unfold recentRows
  have hall : (rowsFor nodeId rows).filter
      (fun row => decide (toEpoch (now - hoursMicros hours) <= row.ts)) =
      rowsFor nodeId rows := by
    rw [List.filter_eq_self]
    intro row hrow
    exact decide_eq_true (hrecent row hrow)
  rw [hall]
  exact hsorted.insertionSort_eq

theorem toEpoch_mono {s t : Instant} (h : s <= t) : toEpoch s <= toEpoch t :=
  Int.tdiv_le_tdiv (by decide) h

end Liveness
end PanicMonitr
