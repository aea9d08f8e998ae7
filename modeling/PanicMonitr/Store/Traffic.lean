import PanicMonitr.Foundation.Counters
import PanicMonitr.Store.Conservation

/-!
# Traffic in the roll-ups

A 5-minute row holds how far the two network counters moved between the first and the
last reading of its window, an hourly row the sum of these.  What passes between the last
reading of a window and the first of the next is in neither.
-/

namespace PanicMonitr
namespace Store

open Foundation

variable {V : Type}

inductive Direction where
  | rx
  | tx
  deriving DecidableEq

namespace Direction

def reading : Direction -> Snapshot V -> Option Int
  | rx => Snapshot.netRecvBytes
  | tx => Snapshot.netSentBytes

def delta : Direction -> StatBucket V -> Option Int
  | rx => StatBucket.netRxDelta
  | tx => StatBucket.netTxDelta

def readings (d : Direction) (window : Int × List (RawRow V)) : List Int :=
  (window.2.map RawRow.payload).filterMap d.reading

end Direction

theorem delta_bucketOf [LinearOrder V] (mean : List V -> V) (own : String) (d : Direction)
    (window : Int × List (RawRow V)) :
    d.delta (bucketOf mean own window) = deltaOf (d.readings window) := by
  cases d <;> rfl

theorem delta_hourlyRow [LinearOrder V] (mean : List V -> V) (own : String) (start : Int)
    (subbuckets : List (StatBucket V)) (d : Direction) :
    d.delta (hourlyRow mean own start subbuckets) = some (sumOf (subbuckets.map d.delta)) := by
  cases d <;> rfl

/-!
## Sums of deltas
-/

theorem deltaOf_getD (xs : List Int) : (deltaOf xs).getD 0 = spread xs := by
  cases xs with
  | nil => rfl
  | cons x xs =>
      cases xs with
      | nil =>
          show 0 = x - x
          omega
      | cons y ys =>
          have htwo : 2 <= (x :: y :: ys).length := Nat.le_add_left 2 ys.length
          unfold deltaOf spread
          rw [List.getLast?_eq_some_getLast (List.cons_ne_nil x (y :: ys))]
          simp only [List.head?_cons, if_pos htwo, Option.getD_some]

theorem deltaOf_eq_some {xs : List Int} {n : Int} (h : deltaOf xs = some n) : n = spread xs := by
  rw [← deltaOf_getD, h]
  rfl

theorem deltaOf_eq (xs : List Int) :
    deltaOf xs = if 2 <= xs.length then some (spread xs) else none := by
  split
  · rename_i htwo
    cases hdelta : deltaOf xs with
    | none =>
        unfold deltaOf at hdelta
        rw [List.getLast?_eq_some_getLast (List.ne_nil_of_length_pos (by omega)),
          List.head?_eq_some_head (List.ne_nil_of_length_pos (by omega))] at hdelta
        simp [htwo] at hdelta
    | some n => rw [deltaOf_eq_some hdelta]
  · rename_i hfew
    cases xs with
    | nil => rfl
    | cons x xs =>
        cases xs with
        | nil => rfl
        | cons y ys => exact absurd (Nat.le_add_left 2 ys.length) hfew

theorem sumOf_cons (x : Option Int) (xs : List (Option Int)) :
    sumOf (x :: xs) = x.getD 0 + sumOf xs := by
  unfold sumOf
  cases x with
  | none =>
      rw [List.filterMap_cons_none rfl]
      show _ = 0 + _
      omega
  | some n =>
      show (n :: xs.filterMap id).sum = n + _
      exact List.sum_cons

theorem sumOf_deltaOf (groups : List (List Int)) :
    sumOf (groups.map deltaOf) = (groups.map spread).sum := by
  induction groups with
  | nil => rfl
  | cons group groups ih =>
      rw [List.map_cons, sumOf_cons, deltaOf_getD, ih, List.map_cons, List.sum_cons]

theorem sumOf_readings (d : Direction) (span : List (Int × List (RawRow V))) :
    sumOf (span.map (fun window => deltaOf (d.readings window))) =
      ((span.map d.readings).map spread).sum := by
  rw [← sumOf_deltaOf, List.map_map]
  rfl

theorem sumOf_readings_nonneg (d : Direction) {span : List (Int × List (RawRow V))}
    (hsorted : forall window, window ∈ span ->
      (d.readings window).Pairwise (fun a b => a <= b)) :
    0 <= sumOf (span.map (fun window => deltaOf (d.readings window))) := by
  rw [sumOf_readings]
  apply List.sum_nonneg
  intro n hn
  rcases List.mem_map.mp hn with ⟨xs, hxs, rfl⟩
  rcases List.mem_map.mp hxs with ⟨window, hwindow, rfl⟩
  exact spread_nonneg (hsorted window hwindow)

/-!
## The order of the windows
-/

structure Sequenced [LinearOrder V] (mean : List V -> V) (w : Ledger V) : Prop where
  listed : (sized w.store.own BUCKET_5MIN_SECS w.store.buckets).Sublist
    (w.counted.map (bucketOf mean w.store.own))
  ascending : w.counted.Pairwise (fun a b => a.1 < b.1)
  ordered : forall window, window ∈ w.counted ->
    window.2.Pairwise (fun a b => a.ts <= b.ts)

theorem windowOf_mono {size ts ts' : Int} (hsize : 0 < size) (h : ts <= ts') :
    windowOf size ts <= windowOf size ts' :=
  Int.mul_le_mul_of_nonneg_right (Int.ediv_le_ediv hsize h) (Int.le_of_lt hsize)

theorem fiveMinuteGroups_ascending (now : Instant) (s : LogStore V) :
    (fiveMinuteGroups now s).Pairwise (fun a b => a.1 < b.1) := by
  have hsorted : (rawRows now s).Pairwise (fun a b =>
      windowOf BUCKET_5MIN_SECS a.ts <= windowOf BUCKET_5MIN_SECS b.ts) := by
    refine (orderBy_sorted RawRow.ts _).imp ?_
    intro a b hab
    exact windowOf_mono fiveMinutes_pos hab
  exact List.pairwise_map.mp (Assoc.pairwise_keys_groupBy hsorted)

section Runs

variable [LinearOrder V] (mean : List V -> V) (readable : EventRow -> Bool)

theorem sequenced_start {w : Ledger V} (h : w.Start) : Sequenced mean w := by
  constructor
  · rw [h.buckets]
    exact List.nil_sublist _
  · rw [h.counted]
    exact List.Pairwise.nil
  · intro window hwindow
    rw [h.counted] at hwindow
    cases hwindow

theorem Sequenced.fewer {w : Ledger V} (h : Sequenced mean w) (store : LogStore V)
    (now : Instant) (recorded : List (RawRow V)) (hown : store.own = w.store.own)
    (hbuckets : (sized store.own BUCKET_5MIN_SECS store.buckets).Sublist
      (sized w.store.own BUCKET_5MIN_SECS w.store.buckets)) :
    Sequenced mean
      { store := store, clock := now, recorded := recorded, counted := w.counted } := by
  refine ⟨?_, h.ascending, h.ordered⟩
  show (sized store.own _ store.buckets).Sublist (w.counted.map (bucketOf mean store.own))
  rw [hown] at hbuckets ⊢
  exact hbuckets.trans h.listed

theorem Sequenced.rollUp5min {w : Ledger V} (h : Sequenced mean w) (hbooked : Booked w)
    (now : Instant) :
    Sequenced mean
      { store := (Store.rollUp5min mean now w.store).1
        clock := now
        recorded := w.recorded
        counted := w.counted ++ fiveMinuteGroups now w.store } := by
  have haligned := hbooked.marked.right.left
  constructor
  · show (sized w.store.own _ (Store.rollUp5min mean now w.store).1.buckets).Sublist _
    rw [sized_taken, taken_rollUp5min mean hbooked.shape haligned, List.map_append]
    exact h.listed.append (List.Sublist.refl _)
  · show (w.counted ++ fiveMinuteGroups now w.store).Pairwise _
    rw [List.pairwise_append]
    refine ⟨h.ascending, fiveMinuteGroups_ascending now w.store, ?_⟩
    intro window hold window' hnew
    -- the rows of a new window lie past the end of every old one
    rcases mem_fiveMinuteGroups haligned hnew with ⟨hrows, hne, _, hlow, _⟩
    rcases List.exists_mem_of_ne_nil _ hne with ⟨r, hr⟩
    rw [hrows] at hr
    rcases mem_windowRows.mp hr with ⟨hraw, hown, hin⟩
    have hbounds := windowOf_le fiveMinutes_pos r.ts
    rw [hin] at hbounds
    have hahead := hbooked.ahead r hraw hown (Int.le_trans hlow hbounds.left) window hold
    omega
  · intro window hwindow
    rcases List.mem_append.mp hwindow with hold | hnew
    · exact h.ordered window hold
    · rw [(mem_fiveMinuteGroups haligned hnew).left]
      exact orderBy_sorted RawRow.ts _

theorem sequenced_step {w : Ledger V} {job : Job V} (h : Sequenced mean w)
    (hbooked : Booked w) : Sequenced mean ((ledgers mean readable).step w job) := by
  cases job with
  | recordEvent event detail now =>
      rw [ledger_step_idle mean readable rfl rfl]
      exact h.fewer mean _ now _ rfl (List.Sublist.refl _)
  | recordSnapshot snap now =>
      rw [ledger_step_recordSnapshot]
      exact h.fewer mean _ now _ rfl (List.Sublist.refl _)
  | rollUp5min now =>
      rw [ledger_step_rollUp5min mean readable hbooked]
      exact h.rollUp5min mean hbooked now
  | rollHourly now =>
      rw [ledger_step_idle mean readable rfl rfl]
      refine h.fewer mean _ now _ rfl ?_
      show (sized w.store.own _ (rollHourly mean now w.store).1.buckets).Sublist _
      rw [sized_rollHourly mean now w.store]
  | rollDaily now =>
      rw [ledger_step_idle mean readable rfl rfl]
      exact h.fewer mean _ now _ rfl (List.Sublist.refl _)
  | prune now =>
      rw [ledger_step_idle mean readable rfl rfl]
      exact h.fewer mean _ now _ rfl (List.filter_sublist.filter _)

theorem sequenced_of_reachable {w : Ledger V}
    (hreach : (ledgers mean readable).Reachable InOrder w) : Sequenced mean w := by
  have hboth : Booked w ∧ Sequenced mean w := by
    refine hreach.invariant (I := fun w => Booked w ∧ Sequenced mean w) ?_ ?_
    · intro w hw
      exact ⟨booked_start hw, sequenced_start mean hw⟩
    · intro w job h hjob
      exact ⟨booked_step mean readable h.left hjob, sequenced_step mean readable h.right h.left⟩
  exact hboth.right

end Runs

/-!
## What the rows hold
-/

section Metered

variable [LinearOrder V] {mean : List V -> V}

/-- The 5-minute rows of an hour that `roll_hourly` finds. -/
def hourRows (now : Instant) (start : Int) (s : LogStore V) : List (StatBucket V) :=
  (sized s.own BUCKET_5MIN_SECS s.buckets).filter (fun b =>
    decide (b.windowStart <= hourlyCutoff now) &&
      decide (windowOf BUCKET_1HOUR_SECS b.windowStart = start))

theorem hourGroups_rows {w : Ledger V} (h : Sequenced mean w) {now : Instant}
    {hour : Int × List (StatBucket V)} (hhour : hour ∈ hourGroups now w.store) :
    hour.2 = hourRows now hour.1 w.store ∧ hour.2 ≠ [] := by
  have hstarts : (sized w.store.own BUCKET_5MIN_SECS w.store.buckets).Pairwise
      (fun a b => a.windowStart <= b.windowStart) := by
    refine List.Pairwise.sublist h.listed ?_
    rw [List.pairwise_map]
    refine h.ascending.imp ?_
    intro a b hab
    exact Int.le_of_lt hab
  have helig : eligible BUCKET_5MIN_SECS (hourlyCutoff now) w.store =
      (sized w.store.own BUCKET_5MIN_SECS w.store.buckets).filter
        (fun r => decide (r.windowStart <= hourlyCutoff now)) := by
    unfold eligible orderBy
    exact List.Pairwise.insertionSort_eq (hstarts.sublist List.filter_sublist)
  rcases Assoc.mem_groupBy_iff.mp hhour with ⟨hgroup, hne⟩
  refine ⟨?_, hne⟩
  rw [hgroup, helig, List.filter_filter]
  unfold hourRows
  congr 1
  funext b
  exact Bool.and_comm _ _

/-- Stored 5-minute rows belong to windows that were counted, in the same order. -/
theorem Sequenced.span {w : Ledger V} (h : Sequenced mean w) {rows : List (StatBucket V)}
    (hrows : rows.Sublist (sized w.store.own BUCKET_5MIN_SECS w.store.buckets)) :
    exists span : List (Int × List (RawRow V)), span.Sublist w.counted ∧
      rows = span.map (bucketOf mean w.store.own) :=
  List.sublist_map_iff.mp (hrows.trans h.listed)

/-- The row of a window: it starts there and holds how far the counter moved in it. -/
def RowOf (d : Direction) (b : StatBucket V) (window : Int × List (RawRow V)) : Prop :=
  b.windowStart = window.1 ∧ d.delta b =
    if 2 <= (d.readings window).length then some (spread (d.readings window)) else none

theorem rowOf_bucketOf (d : Direction) (own : String) (window : Int × List (RawRow V)) :
    RowOf d (bucketOf mean own window) window :=
  ⟨rfl, (delta_bucketOf mean own d window).trans (deltaOf_eq _)⟩

theorem map_delta_bucketOf (d : Direction) (own : String)
    (span : List (Int × List (RawRow V))) :
    (span.map (bucketOf mean own)).map d.delta =
      span.map (fun window => deltaOf (d.readings window)) := by
  rw [List.map_map]
  apply List.map_congr_left
  intro window _
  exact delta_bucketOf mean own d window

/-- What a row of `roll_hourly` holds of the 5-minute rows of its hour. -/
structure HourlySum (w : Ledger V) (d : Direction) (now : Instant) (r : StatBucket V) :
    Prop where
  found : hourRows now r.windowStart w.store ≠ []
  sum : d.delta r = some (sumOf ((hourRows now r.windowStart w.store).map d.delta))
  nonneg : (forall window, window ∈ w.counted ->
    windowOf BUCKET_1HOUR_SECS window.1 = r.windowStart ->
      (d.readings window).Pairwise (fun a b => a <= b)) -> forall n, d.delta r = some n -> 0 <= n

structure SpanSum (w : Ledger V) (d : Direction) (rows : List (StatBucket V))
    (span : List (Int × List (RawRow V))) : Prop where
  counted : span.Sublist w.counted
  rowOf : List.Forall₂ (RowOf d) rows span
  total : sumOf (rows.map d.delta) + crossing none (span.map d.readings) =
    spread (span.map d.readings).flatten
  forward : (span.map d.readings).flatten.Pairwise (fun a b => a <= b) ->
    0 <= crossing none (span.map d.readings)

/-- The deltas of one direction, in the rows and over any run of windows. -/
structure Metered (mean : List V -> V) (w : Ledger V) (d : Direction) : Prop where
  ascending : w.counted.Pairwise (fun a b => a.1 < b.1)
  ordered : forall window, window ∈ w.counted -> window.2.Pairwise (fun a b => a.ts <= b.ts)
  row : forall b, b ∈ sized w.store.own BUCKET_5MIN_SECS w.store.buckets ->
    exists window, window ∈ w.counted ∧ RowOf d b window ∧
      ((d.readings window).Pairwise (fun a b => a <= b) -> forall n, d.delta b = some n -> 0 <= n)
  /-- Of the rows the next `roll_hourly` stores, whenever that is. -/
  hourly : forall now r, r ∈ (rollHourly mean now w.store).1.buckets -> r ∉ w.store.buckets ->
    HourlySum w d now r
  total : forall rows, rows.Sublist (sized w.store.own BUCKET_5MIN_SECS w.store.buckets) ->
    exists span, SpanSum w d rows span

theorem hourlySum {w : Ledger V} (h : Sequenced mean w) (d : Direction) {now : Instant}
    {r : StatBucket V} (hr : r ∈ hourlyRows mean now w.store) : HourlySum w d now r := by
  rcases mem_hourlyRows mean hr with ⟨hour, hhour, _, rfl⟩
  rcases hourGroups_rows h hhour with ⟨hrows, hne⟩
  have hsum : d.delta (hourlyRow mean w.store.own hour.1 hour.2) =
      some (sumOf ((hourRows now hour.1 w.store).map d.delta)) := by
    rw [delta_hourlyRow, hrows]
  constructor
  · show hourRows now hour.1 w.store ≠ []
    rw [← hrows]
    exact hne
  · exact hsum
  · intro hsorted n hn
    rw [hsum] at hn
    rw [← Option.some.inj hn]
    have hsub : (hourRows now hour.1 w.store).Sublist
        (sized w.store.own BUCKET_5MIN_SECS w.store.buckets) := List.filter_sublist
    rcases h.span hsub with ⟨span, hspan, heq⟩
    rw [heq, map_delta_bucketOf]
    apply sumOf_readings_nonneg
    intro window hwindow
    apply hsorted window (hspan.subset hwindow)
    have hin : bucketOf mean w.store.own window ∈ hourRows now hour.1 w.store := by
      rw [heq]
      exact List.mem_map_of_mem hwindow
    have hhere := (List.mem_filter.mp hin).right
    rw [Bool.and_eq_true, decide_eq_true_eq, decide_eq_true_eq] at hhere
    exact hhere.right

theorem spanSum {w : Ledger V} (h : Sequenced mean w) (d : Direction)
    {rows : List (StatBucket V)}
    (hrows : rows.Sublist (sized w.store.own BUCKET_5MIN_SECS w.store.buckets)) :
    exists span, SpanSum w d rows span := by
  rcases h.span hrows with ⟨span, hspan, rfl⟩
  refine ⟨span, hspan, ?_, ?_, ?_⟩
  · rw [List.forall₂_map_left_iff]
    exact List.forall₂_same.mpr (fun window _ => rowOf_bucketOf d w.store.own window)
  · rw [map_delta_bucketOf, sumOf_readings]
    exact spread_add_crossing _
  · exact fun hsorted => crossing_nonneg hsorted (fun _ hlast => (nomatch hlast))

/-- Whatever the readings: the deltas of stored rows and the traffic between them add up. -/
theorem roll_up_traffic (readable : EventRow -> Bool) {w : Ledger V}
    (hreach : (ledgers mean readable).Reachable InOrder w) (d : Direction) :
    Metered mean w d := by
  have h := sequenced_of_reachable mean readable hreach
  constructor
  · exact h.ascending
  · exact h.ordered
  · intro b hb
    rcases List.mem_map.mp (h.listed.subset hb) with ⟨window, hwindow, rfl⟩
    refine ⟨window, hwindow, rowOf_bucketOf d w.store.own window, ?_⟩
    intro hsorted n hn
    rw [delta_bucketOf] at hn
    rw [deltaOf_eq_some hn]
    exact spread_nonneg hsorted
  · intro now r hr hnew
    exact hourlySum h d ((of_mem_insertMany hr).resolve_left hnew)
  · exact fun rows hrows => spanSum h d hrows

end Metered

/-!
Counter readings 100 and 150 in the first window, 200 and 260 in the second: the rows hold
110 of the 160 bytes, and so does the row of the hour.
-/

def receiving (bytes : Int) : Snapshot Int where
  cpuPercent := none
  memPercent := none
  diskPercent := none
  netRecvBytes := some bytes
  netSentBytes := none

def receivingJobs : List (Job Int) :=
  [Job.recordSnapshot (receiving 100) 0,
    Job.recordSnapshot (receiving 150) (299 * microsPerSecond),
    Job.recordSnapshot (receiving 200) (300 * microsPerSecond),
    Job.recordSnapshot (receiving 260) (599 * microsPerSecond),
    Job.rollUp5min (hours 1)]

theorem receivingJobs_inOrder :
    (ledgers integerMean (fun _ => true)).Reachable InOrder
      ((ledgers integerMean (fun _ => true)).exec newLedger receivingJobs) :=
  ⟨_, Machine.Run.exec (Machine.Run.start newLedger_start) receivingJobs (by decide)⟩

theorem roll_up_traffic_two_windows :
    let w := (ledgers integerMean (fun _ => true)).exec newLedger receivingJobs
    w.store.buckets.map StatBucket.netRxDelta = [some 50, some 60] ∧
      (rollHourly integerMean (hours 26) w.store).1.buckets.map StatBucket.netRxDelta =
        [some 50, some 60, some 110] ∧
      Metered integerMean w Direction.rx :=
  ⟨by decide, by decide, roll_up_traffic (fun _ => true) receivingJobs_inOrder Direction.rx⟩

/-- The bytes that arrive between two windows are counted nowhere. -/
theorem roll_up_traffic_lost :
    ¬ forall (mean : List Int -> Int) (readable : EventRow -> Bool) (w : Ledger Int)
      (d : Direction), (ledgers mean readable).Reachable InOrder w ->
        (forall window, window ∈ w.counted -> forall n,
          deltaOf (d.readings window) = some n -> 0 <= n) ∧
        forall span, span <:+: w.counted ->
          (span.map d.readings).flatten.Pairwise (fun a b => a <= b) ->
            sumOf (span.map (fun window => deltaOf (d.readings window))) =
              spread (span.map d.readings).flatten := by
  intro hclaim
  have htotal := (hclaim _ _ _ Direction.rx receivingJobs_inOrder).right _
    (List.infix_refl _) (by decide)
  revert htotal
  decide

end Store
end PanicMonitr
