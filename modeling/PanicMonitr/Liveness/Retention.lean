import PanicMonitr.Foundation.Machine
import PanicMonitr.Foundation.Table
import PanicMonitr.Liveness.Incidents
import PanicMonitr.Liveness.Uptime

/-!
# Retention of the probe history

The garbage collection deletes rows that are older than the retention.  A query whose window
is within the retention returns what it would return had nothing ever been deleted.
-/

namespace PanicMonitr
namespace Liveness

open Foundation
open Store (epochText)
open Trust

/-!
## Writing
-/

/-- The days of `DEFAULT_RETAIN_DAYS`. -/
def DEFAULT_RETAIN_DAYS : Nat := 30

/-- `executemany` of the rows; so many are inserted when one raises. -/
def executemany (table values : List ProbeRow) : Option Nat -> List ProbeRow × Bool
  | none => (table ++ values, true)
  | some inserted => (table ++ values.take inserted, false)

/-- `record_many(rows)`: `COMMIT`, or `ROLLBACK` to what `BEGIN` found. -/
def recordMany (table : List ProbeRow) (rows : List (String × LatencyRecord))
    (raises : Option Nat) : List ProbeRow :=
  if rows.isEmpty then table
  else
    match executemany table (rows.map (fun row => rowOf row.1 row.2)) raises with
    | (inserted, true) => inserted
    | (_, false) => table

/-- `prune_older_than(cutoff)` -/
def pruneOlderThan (table : List ProbeRow) (cutoff : Instant) : List ProbeRow :=
  table.filter (fun row => decide (toEpoch cutoff <= row.ts))

/-- The cutoff when none is given. -/
def retainCutoff (retainDays : Nat) (now : Instant) : Instant :=
  now - hoursMicros (24 * retainDays)

/-!
## The other queries
-/

/-- `latest(node_id)` -/
def latest (rows : List ProbeRow) (nodeId : String) : Option ProbeRow :=
  (orderBy ProbeRow.ts (rowsFor nodeId rows)).getLast?

/-- `count_in_window(hours, node_id)` -/
def countInWindow (rows : List ProbeRow) (hours : Nat) (nodeId : Option String)
    (now : Instant) : Nat :=
  let found := rows.filter (fun row => decide (toEpoch (now - hoursMicros hours) <= row.ts))
  match nodeId with
  | none => found.length
  | some nodeId => (rowsFor nodeId found).length

structure Beat where
  ts : String
  rttMs : Option Rat
  up : Bool
  deriving DecidableEq

/-- An entry of the heartbeat bar; `none` is a time that has no date. -/
def beatOf (row : ProbeRow) : Option Beat := do
  let ts <- epochText row.ts
  some { ts := ts, rttMs := row.rttMs, up := decide (row.status = PeerStatus.alive) }

/-- `recent_beats(node_id, limit)`: the newest rows, oldest first. -/
def recentBeats (rows : List ProbeRow) (nodeId : String) (limit : Nat) : Option (List Beat) :=
  ((orderBy ProbeRow.ts (rowsFor nodeId rows)).rtake limit).mapM beatOf

/-- `uptime_windows(node_id, now)` -/
def uptimeWindows (rows : List ProbeRow) (nodeId : String) (now : Instant) :
    List (String × Option Rat) :=
  [("24h", uptimePercent rows nodeId (hoursMicros 24) now),
    ("7d", uptimePercent rows nodeId (hoursMicros (24 * 7)) now),
    ("30d", uptimePercent rows nodeId (hoursMicros (24 * 30)) now)]

structure RttStats where
  probes : Nat
  alive : Nat
  dead : Nat
  rttMin : Option Rat
  rttMax : Option Rat
  rttAvg : Option Rat
  deriving DecidableEq

/-- `rtt_stats` of the rows found: the aggregates are over the times of `ALIVE` rows. -/
def rttStatsOf (found : List ProbeRow) : RttStats :=
  let times := (found.filter (fun row => decide (row.status = PeerStatus.alive))).filterMap
    ProbeRow.rttMs
  { probes := found.length
    alive := aliveCount found
    dead := found.length - aliveCount found
    rttMin := times.min?
    rttMax := times.max?
    rttAvg := if times.isEmpty then none else some (times.sum / times.length) }

def rttStats (rows : List ProbeRow) (nodeId : String) (hours : Nat) (now : Instant) :
    RttStats :=
  rttStatsOf ((rowsFor nodeId rows).filter
    (fun row => decide (toEpoch (now - hoursMicros hours) <= row.ts)))

/-!
## Runs
-/

/--
The table; `recorded` and `collected` are history variables: every row ever committed, and the
clock readings of the garbage collections.
-/
structure ProbeTable where
  rows : List ProbeRow
  recorded : List ProbeRow
  collected : List Instant

inductive ProbeEvent where
  | record (nodeId : String) (record : LatencyRecord)
  | recordMany (rows : List (String × LatencyRecord)) (raises : Option Nat)
  | collect (now : Instant)

def ProbeTable.step (retainDays : Nat) (s : ProbeTable) : ProbeEvent -> ProbeTable
  | ProbeEvent.record nodeId record =>
      { s with
        rows := s.rows ++ [rowOf nodeId record]
        recorded := s.recorded ++ [rowOf nodeId record] }
  | ProbeEvent.recordMany rows raises =>
      { s with
        rows := Liveness.recordMany s.rows rows raises
        recorded := Liveness.recordMany s.recorded rows raises }
  | ProbeEvent.collect now =>
      { s with
        rows := pruneOlderThan s.rows (retainCutoff retainDays now)
        collected := s.collected ++ [now] }

def probeTable (retainDays : Nat) : Machine ProbeTable ProbeEvent where
  start s := s = { rows := [], recorded := [], collected := [] }
  step := ProbeTable.step retainDays

/-!
## What is kept
-/

def rowsSince (start : Int) (rows : List ProbeRow) : List ProbeRow :=
  rows.filter (fun row => decide (start <= row.ts))

/-- From the newest cutoff on nothing is missing, and nothing is there that was not recorded. -/
structure Kept (retainDays : Nat) (s : ProbeTable) : Prop where
  since : forall start, (forall now, now ∈ s.collected ->
    toEpoch (retainCutoff retainDays now) <= start) ->
      rowsSince start s.rows = rowsSince start s.recorded
  sublist : s.rows.Sublist s.recorded

section Kept

variable {retainDays : Nat} {s : ProbeTable}

theorem rowsSince_append (start : Int) (rows rows' : List ProbeRow) :
    rowsSince start (rows ++ rows') = rowsSince start rows ++ rowsSince start rows' :=
  List.filter_append ..

theorem recordMany_cases (rows : List (String × LatencyRecord)) (raises : Option Nat) :
    (forall table, recordMany table rows raises =
      table ++ rows.map (fun row => rowOf row.1 row.2)) ∨
    (forall table, recordMany table rows raises = table) := by
  cases rows with
  | nil => exact Or.inr (fun _ => rfl)
  | cons row rows =>
      cases raises with
      | none => exact Or.inl (fun _ => rfl)
      | some inserted => exact Or.inr (fun _ => rfl)

theorem Kept.append (h : Kept retainDays s) (news : List ProbeRow) :
    Kept retainDays { s with rows := s.rows ++ news, recorded := s.recorded ++ news } where
  since := by
    intro start hstart
    rw [rowsSince_append, rowsSince_append, h.since start hstart]
  sublist := h.sublist.append (List.Sublist.refl news)

theorem rowsSince_prune {start : Int} {cutoff : Instant} (h : toEpoch cutoff <= start)
    (rows : List ProbeRow) :
    rowsSince start (pruneOlderThan rows cutoff) = rowsSince start rows := by
  unfold rowsSince pruneOlderThan
  rw [List.filter_filter]
  apply List.filter_congr
  intro row _
  cases hrow : decide (start <= row.ts) with
  | false => rfl
  | true =>
      rw [Bool.true_and, decide_eq_true_eq]
      exact Int.le_trans h (of_decide_eq_true hrow)

theorem Kept.collect (h : Kept retainDays s) (now : Instant) :
    Kept retainDays { s with
      rows := pruneOlderThan s.rows (retainCutoff retainDays now)
      collected := s.collected ++ [now] } where
  since := by
    intro start hstart
    show rowsSince start (pruneOlderThan s.rows (retainCutoff retainDays now)) = _
    rw [rowsSince_prune (hstart now (by simp))]
    exact h.since start (fun earlier hearlier => hstart earlier (List.mem_append_left _ hearlier))
  sublist := List.filter_sublist.trans h.sublist

theorem kept (hreach : (probeTable retainDays).Reachable (fun _ _ => True) s) :
    Kept retainDays s := by
  apply hreach.invariant
  · intro s hstart
    have hempty : s = { rows := [], recorded := [], collected := [] } := hstart
    rw [hempty]
    exact ⟨fun _ _ => rfl, List.Sublist.refl []⟩
  · intro s e h _
    cases e with
    | record nodeId record => exact h.append [rowOf nodeId record]
    | recordMany rows raises =>
        rcases recordMany_cases rows raises with hall | hnone
        · show Kept retainDays { s with
            rows := recordMany s.rows rows raises
            recorded := recordMany s.recorded rows raises }
          rw [hall, hall]
          exact h.append _
        · show Kept retainDays { s with
            rows := recordMany s.rows rows raises
            recorded := recordMany s.recorded rows raises }
          rw [hnone, hnone]
          exact h
    | collect now => exact h.collect now

end Kept

/-!
## What the queries look at
-/

section Queries

variable {rows recorded : List ProbeRow} {nodeId : String} {start : Int}

theorem rowsFor_rowsSince (nodeId : String) (start : Int) (rows : List ProbeRow) :
    rowsFor nodeId (rowsSince start rows) = rowsSince start (rowsFor nodeId rows) := by
  unfold rowsFor rowsSince
  rw [List.filter_filter, List.filter_filter]
  exact List.filter_congr (fun row _ => Bool.and_comm _ _)

/-- A test that only rows from the start on pass does not see the others. -/
theorem filter_since (h : rowsSince start rows = rowsSince start recorded)
    {p : ProbeRow -> Bool} (hp : forall row, p row = true -> start <= row.ts) :
    (rowsFor nodeId rows).filter p = (rowsFor nodeId recorded).filter p := by
  have hfilter : forall table : List ProbeRow,
      (rowsFor nodeId table).filter p = (rowsFor nodeId (rowsSince start table)).filter p := by
    intro table
    rw [rowsFor_rowsSince]
    unfold rowsSince
    rw [List.filter_filter]
    apply List.filter_congr
    intro row _
    cases hrow : p row with
    | false => rfl
    | true => rw [Bool.true_and, decide_eq_true (hp row hrow)]
  rw [hfilter rows, h, ← hfilter recorded]

theorem orderBy_since (start : Int) (rows : List ProbeRow) :
    orderBy ProbeRow.ts rows =
      orderBy ProbeRow.ts (rows.filter (fun row => !decide (start <= row.ts))) ++
        orderBy ProbeRow.ts (rowsSince start rows) := by
  unfold rowsSince
  rw [← filter_orderBy, ← filter_orderBy]
  have hsorted := orderBy_sorted ProbeRow.ts rows
  generalize orderBy ProbeRow.ts rows = sorted at hsorted
  induction sorted with
  | nil => rfl
  | cons row sorted ih =>
      rcases List.pairwise_cons.mp hsorted with ⟨hrow, hrest⟩
      by_cases hstart : start <= row.ts
      · have hall : forall later, later ∈ row :: sorted -> start <= later.ts := by
          intro later hlater
          rcases List.mem_cons.mp hlater with rfl | hlater
          · exact hstart
          · exact Int.le_trans hstart (hrow later hlater)
        rw [List.filter_eq_nil_iff.mpr (fun later hlater => by simp [hall later hlater]),
          List.filter_eq_self.mpr (fun later hlater => decide_eq_true (hall later hlater))]
        rfl
      · rw [List.filter_cons_of_pos (by simpa using hstart),
          List.filter_cons_of_neg (by simpa using hstart), List.cons_append, ← ih hrest]

theorem rtake_orderBy_since {limit : Nat} {rows : List ProbeRow}
    (hlimit : limit <= (rowsSince start rows).length) :
    (orderBy ProbeRow.ts rows).rtake limit =
      (orderBy ProbeRow.ts (rowsSince start rows)).rtake limit := by
  rw [orderBy_since start rows]
  have hlength := (orderBy_perm ProbeRow.ts (rowsSince start rows)).length_eq
  unfold List.rtake
  rw [List.length_append, List.drop_append, Nat.add_sub_assoc (by omega),
    List.drop_of_length_le (Nat.le_add_right _ _), Nat.add_sub_cancel_left, List.nil_append]

end Queries

/-!
## Nothing is missed

Within the retention every query of the pruned table answers as on all that was recorded.
-/

structure SameAnswers (retainDays : Nat) (rows recorded : List ProbeRow) (nodeId : String)
    (now : Instant) : Prop where
  uptime : forall window, window <= hoursMicros (24 * retainDays) ->
    uptimePercent rows nodeId window now = uptimePercent recorded nodeId window now
  windows : 30 <= retainDays ->
    uptimeWindows rows nodeId now = uptimeWindows recorded nodeId now
  recent : forall hours, hours <= 24 * retainDays ->
    recentRows rows nodeId hours now = recentRows recorded nodeId hours now
  loaded : 1 <= retainDays -> forall cfg entry,
    loadDevice cfg (some (recentRows rows nodeId 24 now)) entry =
      loadDevice cfg (some (recentRows recorded nodeId 24 now)) entry
  buckets : forall hours, hours <= 24 * retainDays ->
    hourlyUptimeBuckets rows nodeId hours now = hourlyUptimeBuckets recorded nodeId hours now
  outages : forall hours limit, hours <= 24 * retainDays ->
    incidents rows nodeId hours limit now = incidents recorded nodeId hours limit now
  counted : forall hours, hours <= 24 * retainDays ->
    countInWindow rows hours none now = countInWindow recorded hours none now ∧
      countInWindow rows hours (some nodeId) now = countInWindow recorded hours (some nodeId) now
  rtt : forall hours, hours <= 24 * retainDays ->
    rttStats rows nodeId hours now = rttStats recorded nodeId hours now
  beats : forall limit,
    limit <= (rowsSince (toEpoch (retainCutoff retainDays now)) (rowsFor nodeId recorded)).length ->
      recentBeats rows nodeId limit = recentBeats recorded nodeId limit
  newest : rowsSince (toEpoch (retainCutoff retainDays now)) (rowsFor nodeId recorded) ≠ [] ->
    latest rows nodeId = latest recorded nodeId

section Answers

variable {retainDays : Nat} {rows recorded : List ProbeRow} {nodeId : String} {now : Instant}

theorem hoursMicros_mono {hours hours' : Nat} (h : hours <= hours') :
    hoursMicros hours <= hoursMicros hours' := by
  unfold hoursMicros
  have hcast : (hours : Int) <= hours' := Int.ofNat_le.mpr h
  have hpos : (0 : Int) <= 3600 * microsPerSecond := by decide
  rw [Int.mul_assoc, Int.mul_assoc]
  exact Int.mul_le_mul_of_nonneg_right hcast hpos

theorem cutoff_le {window : Int} (hwindow : window <= hoursMicros (24 * retainDays))
    (now : Instant) : toEpoch (retainCutoff retainDays now) <= toEpoch (now - window) := by
  apply toEpoch_mono
  exact Int.sub_le_sub_left hwindow now

/-- Seconds taken away before or after cutting to a second differ by one at most. -/
theorem toEpoch_sub_le (now seconds : Int) :
    toEpoch (now - seconds * microsPerSecond) <= toEpoch now - seconds + 1 := by
  have hcut : forall t : Int, t / microsPerSecond <= t.tdiv microsPerSecond ∧
      t.tdiv microsPerSecond <= t / microsPerSecond + 1 := by
    intro t
    rw [Int.tdiv_eq_ediv, show Int.sign microsPerSecond = 1 from rfl]
    split
    · omega
    · omega
  have hbefore := (hcut (now - seconds * microsPerSecond)).right
  have hnow := (hcut now).left
  have hshift : (now - seconds * microsPerSecond) / microsPerSecond =
      now / microsPerSecond - seconds := Int.sub_mul_ediv_right _ _ (by decide)
  unfold toEpoch
  omega

theorem startHour_ge (hours : Nat) (now : Instant) :
    toEpoch (now - hoursMicros hours) <= startHour hours now := by
  have hsub := toEpoch_sub_le now ((hours : Int) * 3600)
  unfold hoursMicros
  unfold startHour currentHourStart
  omega

theorem sameAnswers
    (h : rowsSince (toEpoch (retainCutoff retainDays now)) rows =
      rowsSince (toEpoch (retainCutoff retainDays now)) recorded) :
    SameAnswers retainDays rows recorded nodeId now := by
  have hfound : forall hours, hours <= 24 * retainDays ->
      (rowsFor nodeId rows).filter
          (fun row => decide (toEpoch (now - hoursMicros hours) <= row.ts)) =
        (rowsFor nodeId recorded).filter
          (fun row => decide (toEpoch (now - hoursMicros hours) <= row.ts)) := by
    intro hours hhours
    apply filter_since h
    intro row hrow
    exact Int.le_trans (cutoff_le (hoursMicros_mono hhours) now) (of_decide_eq_true hrow)
  have huptime : forall window, window <= hoursMicros (24 * retainDays) ->
      uptimePercent rows nodeId window now = uptimePercent recorded nodeId window now := by
    intro window hwindow
    unfold uptimePercent
    rw [filter_since h]
    intro row hrow
    exact Int.le_trans (cutoff_le hwindow now) (of_decide_eq_true hrow).left
  have hrecent : forall hours, hours <= 24 * retainDays ->
      recentRows rows nodeId hours now = recentRows recorded nodeId hours now := by
    intro hours hhours
    unfold recentRows
    rw [hfound hours hhours]
  have hsince : rowsSince (toEpoch (retainCutoff retainDays now)) (rowsFor nodeId rows) =
      rowsSince (toEpoch (retainCutoff retainDays now)) (rowsFor nodeId recorded) := by
    rw [← rowsFor_rowsSince, ← rowsFor_rowsSince, h]
  have hnewest : forall limit,
      limit <= (rowsSince (toEpoch (retainCutoff retainDays now))
        (rowsFor nodeId recorded)).length ->
      (orderBy ProbeRow.ts (rowsFor nodeId rows)).rtake limit =
        (orderBy ProbeRow.ts (rowsFor nodeId recorded)).rtake limit := by
    intro limit hlimit
    rw [rtake_orderBy_since hlimit, rtake_orderBy_since (hsince ▸ hlimit), hsince]
  constructor
  · exact huptime
  · intro hdays
    unfold uptimeWindows
    rw [huptime _ (hoursMicros_mono (by omega)), huptime _ (hoursMicros_mono (by omega)),
      huptime _ (hoursMicros_mono (by omega))]
  · exact hrecent
  · intro hdays cfg entry
    rw [hrecent 24 (by omega)]
  · intro hours hhours
    have hbetween : rowsBetween rows nodeId (startHour hours now) (currentHourStart now + 3600) =
        rowsBetween recorded nodeId (startHour hours now) (currentHourStart now + 3600) := by
      apply filter_since h
      intro row hrow
      exact Int.le_trans (cutoff_le (hoursMicros_mono hhours) now)
        (Int.le_trans (startHour_ge hours now) (of_decide_eq_true hrow).left)
    unfold hourlyUptimeBuckets
    simp only [hbetween]
  · intro hours limit hhours
    unfold incidents
    rw [hrecent hours hhours]
  · intro hours hhours
    have hcutoff := cutoff_le (hoursMicros_mono hhours) now
    have hall : forall table : List ProbeRow,
        table.filter (fun row => decide (toEpoch (now - hoursMicros hours) <= row.ts)) =
          rowsSince (toEpoch (now - hoursMicros hours))
            (rowsSince (toEpoch (retainCutoff retainDays now)) table) :=
      fun table => (rowsSince_prune hcutoff table).symm
    unfold countInWindow
    simp only [hall, h, and_self]
  · intro hours hhours
    unfold rttStats
    rw [hfound hours hhours]
  · intro limit hlimit
    unfold recentBeats
    rw [hnewest limit hlimit]
  · intro hsome
    have hone := hnewest 1 (List.length_pos_iff.mpr hsome)
    have hlast : forall xs : List ProbeRow, xs.getLast? = (xs.rtake 1).getLast? := by
      intro xs
      unfold List.rtake
      cases xs with
      | nil => rfl
      | cons x xs => rw [List.getLast?_drop, if_neg (by simp)]
    unfold latest
    rw [hlast, hone, ← hlast]

end Answers

/--
In every state of every run of records, batches and collections, and at any time not before
the last collection: a query within the retention misses nothing.
-/
theorem retention_invisible {retainDays : Nat} {s : ProbeTable}
    (hreach : (probeTable retainDays).Reachable (fun _ _ => True) s) {now : Instant}
    (hnow : forall earlier, earlier ∈ s.collected -> earlier <= now) (nodeId : String) :
    SameAnswers retainDays s.rows s.recorded nodeId now ∧ s.rows.Sublist s.recorded := by
  have hkept := kept hreach
  refine ⟨sameAnswers (hkept.since _ ?_), hkept.sublist⟩
  intro earlier hearlier
  apply toEpoch_mono
  unfold retainCutoff
  exact Int.sub_le_sub_right (hnow earlier hearlier) _

/-- An old outage, a batch that is rolled back, a row of today, and a collection. -/
def collectedRun : List ProbeEvent :=
  [ProbeEvent.record "p" ⟨5 * microsPerSecond, none, PeerStatus.dead⟩,
    ProbeEvent.recordMany [("p", ⟨6 * microsPerSecond, none, PeerStatus.dead⟩)] (some 1),
    ProbeEvent.record "p" ⟨90000 * microsPerSecond, some 3, PeerStatus.alive⟩,
    ProbeEvent.collect (90010 * microsPerSecond)]

theorem retention_invisible_collected :
    SameAnswers 1 [⟨"p", 90000, some 3, PeerStatus.alive⟩]
      [⟨"p", 5, none, PeerStatus.dead⟩, ⟨"p", 90000, some 3, PeerStatus.alive⟩] "p"
      (90020 * microsPerSecond) := by
  have hstart : (probeTable 1).Run (fun _ _ => True) []
      { rows := [], recorded := [], collected := [] } := Machine.Run.start rfl
  have hrun := hstart.exec collectedRun ⟨trivial, trivial, trivial, trivial, trivial⟩
  have hsame := (@retention_invisible 1 _ ⟨_, hrun⟩ (90020 * microsPerSecond)
    (by decide) "p").left
  exact hsame

end Liveness
end PanicMonitr
