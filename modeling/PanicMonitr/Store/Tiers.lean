import PanicMonitr.Store.Jobs
import Mathlib.Algebra.Order.BigOperators.Group.List
import Mathlib.Algebra.Order.Ring.Int

/-!
# What the tiers of the store hold

A snapshot goes into the raw rows, from there into a 5-minute row, an hourly row and a
daily summary, each some time later.  On schedule, the times of the snapshots and the
last run of each job determine what every tier holds.
-/

namespace PanicMonitr
namespace Store

open Foundation

variable {V : Type}

/-!
## Runs with their history
-/

/--
A store with what was recorded, newest first, and how far each job has got: the rows
before `rawFrom` and `bucketsFrom` are pruned, windows that ended by `rolledTo` are rolled
up, and so are 5-minute rows that start by `hourlyTo` and hours that start by `dailyTo`.
-/
structure Recording (V : Type) where
  store : LogStore V
  clock : Instant
  snapshots : List (Instant × Snapshot V)
  events : List (Instant × EventRow)
  rawFrom : Int
  bucketsFrom : Int
  rolledTo : Int
  hourlyTo : Int
  dailyTo : Int

/-- The end of the windows `roll_up_5min` takes. -/
def rollCutoff (now : Instant) : Int :=
  epochOf now - epochOf now % BUCKET_5MIN_SECS

def rawCutoff (now : Instant) : Int :=
  epochOf (now - hours RAW_RETAIN_HOURS)

def bucketCutoff (now : Instant) : Int :=
  epochOf (now - days BUCKET_5MIN_RETAIN_DAYS)

namespace Recording

def lastOf (w : Recording V) (ts : Int) : Option (Snapshot V) :=
  (w.snapshots.find? (fun x => decide (epochOf x.1 = ts))).map Prod.snd

def step [LinearOrder V] (mean : List V -> V) (readable : EventRow -> Bool)
    (w : Recording V) : Job V -> Recording V
  | Job.recordEvent event detail now =>
      { w with
        store := Store.recordEvent event detail now w.store
        clock := now
        events :=
          (now,
            { peerNodeId := w.store.own
              ts := Int.tdiv now 1000
              event := event
              detail := detail }) :: w.events }
  | Job.recordSnapshot snap now =>
      { w with
        store := Store.recordSnapshot snap now w.store
        clock := now
        snapshots := (now, snap) :: w.snapshots }
  | Job.rollUp5min now =>
      { w with
        store := (Store.rollUp5min mean now w.store).1
        clock := now
        rolledTo := rollCutoff now }
  | Job.rollHourly now =>
      { w with
        store := (Store.rollHourly mean now w.store).1
        clock := now
        hourlyTo := max w.hourlyTo (hourlyCutoff now) }
  | Job.rollDaily now =>
      { w with
        store := (Store.rollDaily mean readable now w.store).1
        clock := now
        dailyTo := max w.dailyTo (dailyCutoff now) }
  | Job.prune now =>
      { w with
        store := (Store.prune now w.store).1
        clock := now
        rawFrom := max w.rawFrom (rawCutoff now)
        bucketsFrom := max w.bucketsFrom (bucketCutoff now) }

/-- The own node has no rows yet, and the clock shows a time after the epoch. -/
structure Start (w : Recording V) : Prop where
  clock : 0 <= w.clock
  snapshots : w.snapshots = []
  events : w.events = []
  marks : w.rawFrom = 0 ∧ w.bucketsFrom = 0 ∧ w.rolledTo = 0 ∧ w.hourlyTo = -1 ∧ w.dailyTo = -1
  raw : forall r, r ∈ w.store.raw -> r.peerNodeId ≠ w.store.own
  buckets : forall r, r ∈ w.store.buckets -> r.peerNodeId ≠ w.store.own
  daily : forall r, r ∈ w.store.daily -> r.peerNodeId ≠ w.store.own
  ownEvents : forall e, e ∈ w.store.events -> e.peerNodeId ≠ w.store.own
  eventKeys : (w.store.events.map eventKey).Nodup

end Recording

def recordings [LinearOrder V] (mean : List V -> V) (readable : EventRow -> Bool) :
    Machine (Recording V) (Job V) where
  start := Recording.Start
  step := Recording.step mean readable

theorem store_step [LinearOrder V] (mean : List V -> V) (readable : EventRow -> Bool)
    (w : Recording V) (job : Job V) :
    ((recordings mean readable).step w job).store = job.run mean readable w.store := by
  cases job <;> rfl

/--
The clock does not run backwards, and each job finds the work of the one before it done:
what is pruned has been rolled up, and what is rolled up has reached its tier.
-/
def OnSchedule (w : Recording V) (job : Job V) : Prop :=
  w.clock <= job.now ∧
    match job with
    | Job.recordEvent _ detail _ => detail ≠ some ""
    | Job.rollHourly now => hourlyCutoff now + BUCKET_5MIN_SECS <= w.rolledTo
    | Job.rollDaily now => dailyCutoff now + BUCKET_1HOUR_SECS <= w.hourlyTo
    | Job.prune now => rawCutoff now <= w.rolledTo ∧ bucketCutoff now <= w.hourlyTo + 1
    | _ => True

/-!
## Times
-/

theorem epochOf_bounds (t : Instant) :
    epochOf t * 1000000 < t + 1000000 ∧ t < epochOf t * 1000000 + 1000000 := by
  have hcut : forall a : Int, Int.tdiv a 1000000 * 1000000 < a + 1000000 ∧
      a < Int.tdiv a 1000000 * 1000000 + 1000000 := by
    intro a
    rcases Int.le_total 0 a with hpos | hneg
    · rw [Int.tdiv_eq_ediv_of_nonneg hpos]
      omega
    · have hflip : Int.tdiv a 1000000 = -((-a) / 1000000) := by
        rw [← Int.tdiv_eq_ediv_of_nonneg (by omega), Int.neg_tdiv, Int.neg_neg]
      rw [hflip]
      omega
  exact hcut t

theorem epochOf_nonneg {t : Instant} (h : 0 <= t) : epochOf t = t / 1000000 :=
  Int.tdiv_eq_ediv_of_nonneg h

theorem epochOf_le {t u : Instant} (h : t <= u) : epochOf t <= epochOf u :=
  Int.tdiv_le_tdiv (by decide) h

theorem fiveMinutes_pos : 0 < BUCKET_5MIN_SECS := by
  decide

theorem oneHour_pos : 0 < BUCKET_1HOUR_SECS := by
  decide

theorem windowOf_le {size : Int} (hsize : 0 < size) (ts : Int) :
    windowOf size ts <= ts ∧ ts < windowOf size ts + size :=
  (windowOf_iff ts hsize (windowOf_aligned size ts)).mp rfl

theorem window_nonneg {size : Int} (hsize : 0 < size) {t : Instant} (ht : 0 <= t) :
    0 <= windowOf size (epochOf t) := by
  have hepoch : 0 <= epochOf t := Int.tdiv_nonneg ht (by decide)
  exact Int.mul_nonneg (Int.ediv_nonneg hepoch (Int.le_of_lt hsize)) (Int.le_of_lt hsize)

/-!
## Keys
-/

def HasBucket (s : LogStore V) (size start : Int) : Prop :=
  (s.own, start, size) ∈ s.buckets.map bucketKey

def HasSummary (s : LogStore V) (date : Int) : Prop :=
  (s.own, date) ∈ s.daily.map dailyKey

def HasRaw (s : LogStore V) (ts : Int) (snap : Snapshot V) : Prop :=
  exists r, r ∈ s.raw ∧ r.peerNodeId = s.own ∧ r.ts = ts ∧ r.payload = snap

section Keys

variable (mean : List V -> V)

theorem keys_fiveMinuteBuckets [LinearOrder V] {now : Instant} {s : LogStore V} {key : String × Int × Int} :
    key ∈ (fiveMinuteBuckets mean now s).map bucketKey <->
      exists r, r ∈ rawRows now s ∧
        key = (s.own, windowOf BUCKET_5MIN_SECS r.ts, BUCKET_5MIN_SECS) := by
  constructor
  · intro h
    rcases List.mem_map.mp h with ⟨b, hb, hkey⟩
    rcases mem_fiveMinuteBuckets mean hb with ⟨hown, hsize, r, hr, hstart⟩
    refine ⟨r, hr, ?_⟩
    rw [← hkey, bucketKey, hown, hstart, hsize]
  · intro h
    rcases h with ⟨r, hr, hkey⟩
    rw [hkey]
    rcases Assoc.mem_groupBy_of_mem (fun r : RawRow V => windowOf BUCKET_5MIN_SECS r.ts) hr with
      ⟨group, hgroup⟩
    exact List.mem_map.mpr ⟨_, List.mem_map.mpr ⟨_, hgroup, rfl⟩, rfl⟩

theorem keys_hourlyRows [LinearOrder V] {now : Instant} {s : LogStore V} {key : String × Int × Int}
    (hsamples : forall b, b ∈ sized s.own BUCKET_5MIN_SECS s.buckets -> 1 <= b.samples) :
    key ∈ (hourlyRows mean now s).map bucketKey <->
      exists b, b ∈ sized s.own BUCKET_5MIN_SECS s.buckets ∧
        b.windowStart <= hourlyCutoff now ∧
        key = (s.own, windowOf BUCKET_1HOUR_SECS b.windowStart, BUCKET_1HOUR_SECS) := by
  constructor
  · intro h
    rcases List.mem_map.mp h with ⟨r, hr, hkey⟩
    rcases mem_hourlyRows mean hr with ⟨hour, hhour, _, hrow⟩
    rcases Assoc.mem_groupBy_iff.mp hhour with ⟨hgroup, hne⟩
    rcases List.exists_mem_of_ne_nil _ hne with ⟨b, hb⟩
    rw [hgroup] at hb
    rcases List.mem_filter.mp hb with ⟨helig, hstart⟩
    rcases List.mem_filter.mp (mem_orderBy.mp helig) with ⟨hstored, hle⟩
    refine ⟨b, hstored, decide_eq_true_iff.mp hle, ?_⟩
    rw [← hkey, hrow, decide_eq_true_iff.mp hstart]
    rfl
  · intro h
    rcases h with ⟨b, hb, hle, hkey⟩
    have helig : b ∈ eligible BUCKET_5MIN_SECS (hourlyCutoff now) s :=
      mem_orderBy.mpr (List.mem_filter.mpr ⟨hb, decide_eq_true hle⟩)
    rcases Assoc.mem_groupBy_of_mem
      (fun r : StatBucket V => windowOf BUCKET_1HOUR_SECS r.windowStart) helig with
      ⟨group, hgroup⟩
    rcases Assoc.mem_groupBy_iff.mp hgroup with ⟨hfilter, hne⟩
    have hpositive : 0 < (group.map StatBucket.samples).sum := by
      apply List.sum_pos
      · intro n hn
        rcases List.mem_map.mp hn with ⟨b', hb', rfl⟩
        rw [hfilter] at hb'
        have hin := (List.mem_filter.mp (mem_orderBy.mp (List.mem_filter.mp hb').left)).left
        have hone := hsamples b' hin
        omega
      · intro hempty
        exact hne (List.map_eq_nil_iff.mp hempty)
    rw [hkey]
    refine List.mem_map.mpr ⟨hourlyRow mean s.own (windowOf BUCKET_1HOUR_SECS b.windowStart)
      group, List.mem_filterMap.mpr ⟨_, hgroup, ?_⟩, rfl⟩
    exact if_neg (Int.ne_of_gt hpositive)

theorem keys_dailyRows (readable : EventRow -> Bool) {now : Instant} {s : LogStore V}
    {key : String × Int} :
    key ∈ ((dayGroups now s).map (fun day => dailyRow mean readable s day.1 day.2)).map
        dailyKey <->
      exists b, b ∈ sized s.own BUCKET_1HOUR_SECS s.buckets ∧
        b.windowStart <= dailyCutoff now ∧ key = (s.own, dateOf b.windowStart) := by
  constructor
  · intro h
    rcases List.mem_map.mp h with ⟨r, hr, hkey⟩
    rcases List.mem_map.mp hr with ⟨day, hday, rfl⟩
    rcases Assoc.mem_groupBy_iff.mp hday with ⟨hgroup, hne⟩
    rcases List.exists_mem_of_ne_nil _ hne with ⟨b, hb⟩
    rw [hgroup] at hb
    rcases List.mem_filter.mp hb with ⟨helig, hdate⟩
    rcases List.mem_filter.mp (mem_orderBy.mp helig) with ⟨hstored, hle⟩
    refine ⟨b, hstored, decide_eq_true_iff.mp hle, ?_⟩
    rw [← hkey, decide_eq_true_iff.mp hdate]
    rfl
  · intro h
    rcases h with ⟨b, hb, hle, hkey⟩
    have helig : b ∈ eligible BUCKET_1HOUR_SECS (dailyCutoff now) s :=
      mem_orderBy.mpr (List.mem_filter.mpr ⟨hb, decide_eq_true hle⟩)
    rcases Assoc.mem_groupBy_of_mem (fun r : StatBucket V => dateOf r.windowStart) helig with
      ⟨group, hgroup⟩
    rw [hkey]
    exact List.mem_map.mpr ⟨_, List.mem_map.mpr ⟨_, hgroup, rfl⟩, rfl⟩

theorem hasBucket_iff {s : LogStore V} {size start : Int} : HasBucket s size start <->
    exists b, b ∈ sized s.own size s.buckets ∧ b.windowStart = start := by
  unfold HasBucket
  rw [List.mem_map]
  constructor
  · intro h
    rcases h with ⟨b, hb, hkey⟩
    have hown := (Prod.mk.inj hkey).left
    have hrest := Prod.mk.inj (Prod.mk.inj hkey).right
    exact ⟨b, mem_sized.mpr ⟨hb, hown, hrest.right⟩, hrest.left⟩
  · intro h
    rcases h with ⟨b, hb, hstart⟩
    rcases mem_sized.mp hb with ⟨hin, hown, hsize⟩
    exact ⟨b, hin, by rw [bucketKey, hown, hstart, hsize]⟩

end Keys

/-!
## The marks

How far each job has got, next to the clock and next to each other.
-/

structure Marks (w : Recording V) : Prop where
  clock : 0 <= w.clock
  snapshots : forall x, x ∈ w.snapshots -> 0 <= x.1 ∧ x.1 <= w.clock
  rolled : w.rawFrom <= w.rolledTo
  raw : w.rawFrom <= max 0 (rawCutoff w.clock)
  pruned : w.bucketsFrom <= max 0 (w.rawFrom - BUCKET_5MIN_SECS)
  hourly : w.bucketsFrom <= w.hourlyTo + 1
  buckets : w.bucketsFrom <= max 0 (bucketCutoff w.clock)
  aligned : w.rolledTo % BUCKET_5MIN_SECS = 0
  rolledTo : 0 <= w.rolledTo ∧ w.rolledTo <= epochOf w.clock
  hourlyTo : w.hourlyTo <= max (-1) (hourlyCutoff w.clock)
  dailyTo : w.dailyTo <= max (-1) (dailyCutoff w.clock)

theorem cutoffs_mono {t u : Instant} (h : t <= u) :
    rawCutoff t <= rawCutoff u ∧ bucketCutoff t <= bucketCutoff u ∧
      hourlyCutoff t <= hourlyCutoff u ∧ dailyCutoff t <= dailyCutoff u := by
  refine ⟨epochOf_le ?_, epochOf_le ?_, epochOf_le ?_, epochOf_le ?_⟩ <;>
    exact Int.sub_le_sub_right h _

theorem bucketCutoff_le (now : Instant) :
    bucketCutoff now <= rawCutoff now - BUCKET_5MIN_SECS := by
  have hbucket : bucketCutoff now * 1000000 < now - 2592000000000 + 1000000 :=
    (epochOf_bounds (now - days BUCKET_5MIN_RETAIN_DAYS)).left
  have hraw : -(rawCutoff now * 1000000 + 1000000) < -(now - 7200000000) :=
    Int.neg_lt_neg (epochOf_bounds (now - hours RAW_RETAIN_HOURS)).right
  unfold BUCKET_5MIN_SECS
  omega

theorem rollCutoff_spec {now : Instant} {rolledTo : Int}
    (haligned : rolledTo % BUCKET_5MIN_SECS = 0) (hle : rolledTo <= epochOf now) :
    rolledTo <= rollCutoff now ∧ rollCutoff now <= epochOf now ∧
      rollCutoff now % BUCKET_5MIN_SECS = 0 := by
  unfold rollCutoff
  unfold BUCKET_5MIN_SECS at *
  omega

theorem marks_start {w : Recording V} (h : w.Start) : Marks w := by
  rcases h.marks with ⟨hraw, hbuckets, hrolled, hhourly, hdaily⟩
  constructor
  · exact h.clock
  · intro x hx
    rw [h.snapshots] at hx
    cases hx
  · omega
  · omega
  · omega
  · omega
  · omega
  · rw [hrolled]
    rfl
  · exact ⟨by omega, by rw [hrolled]; exact Int.tdiv_nonneg h.clock (by decide)⟩
  · omega
  · omega

theorem Marks.later {w : Recording V} (h : Marks w) {now : Instant} (hnow : w.clock <= now)
    {snapshots : List (Instant × Snapshot V)}
    (hsnapshots : forall x, x ∈ snapshots -> x ∈ w.snapshots ∨ x.1 = now)
    (store : LogStore V) (events : List (Instant × EventRow)) :
    Marks { w with store := store, clock := now, snapshots := snapshots, events := events } := by
  rcases cutoffs_mono hnow with ⟨hraw, hbucket, hhourly, hdaily⟩
  have hclock : 0 <= now := Int.le_trans h.clock hnow
  constructor
  · exact hclock
  · intro x hx
    show 0 <= x.1 ∧ x.1 <= now
    rcases hsnapshots x hx with hold | hnew
    · have hbounds := h.snapshots x hold
      exact ⟨hbounds.left, Int.le_trans hbounds.right hnow⟩
    · rw [hnew]
      exact ⟨hclock, Int.le_refl now⟩
  · exact h.rolled
  · show w.rawFrom <= max 0 (rawCutoff now)
    have hmark := h.raw
    omega
  · exact h.pruned
  · exact h.hourly
  · show w.bucketsFrom <= max 0 (bucketCutoff now)
    have hmark := h.buckets
    omega
  · exact h.aligned
  · exact ⟨h.rolledTo.left, Int.le_trans h.rolledTo.right (epochOf_le hnow)⟩
  · show w.hourlyTo <= max (-1) (hourlyCutoff now)
    have hmark := h.hourlyTo
    omega
  · show w.dailyTo <= max (-1) (dailyCutoff now)
    have hmark := h.dailyTo
    omega

theorem marks_step [LinearOrder V] (mean : List V -> V) (readable : EventRow -> Bool)
    {w : Recording V} {job : Job V} (h : Marks w) (hguard : OnSchedule w job) :
    Marks ((recordings mean readable).step w job) := by
  rcases hguard with ⟨hnow, hguard⟩
  have hold : forall x, x ∈ w.snapshots -> x ∈ w.snapshots ∨ x.1 = job.now := by
    intro x hx
    exact Or.inl hx
  cases job with
  | recordEvent event detail now => exact h.later hnow hold _ _
  | recordSnapshot snap now =>
      refine h.later hnow ?_ _ _
      intro x hx
      rcases List.mem_cons.mp hx with hhead | hx
      · exact Or.inr (by rw [hhead]; rfl)
      · exact Or.inl hx
  | rollUp5min now =>
      have hlater := h.later hnow hold (rollUp5min mean now w.store).1 w.events
      rcases rollCutoff_spec h.aligned hlater.rolledTo.right with ⟨hge, hle, haligned⟩
      exact
        { hlater with
          rolled := Int.le_trans h.rolled hge
          aligned := haligned
          rolledTo := ⟨Int.le_trans h.rolledTo.left hge, hle⟩ }
  | rollHourly now =>
      have hlater := h.later hnow hold (rollHourly mean now w.store).1 w.events
      exact
        { hlater with
          hourly := by
            have hmark := h.hourly
            show w.bucketsFrom <= max w.hourlyTo (hourlyCutoff now) + 1
            omega
          hourlyTo := by
            have hmark : w.hourlyTo <= max (-1) (hourlyCutoff now) := hlater.hourlyTo
            show max w.hourlyTo (hourlyCutoff now) <= max (-1) (hourlyCutoff now)
            omega }
  | rollDaily now =>
      have hlater := h.later hnow hold (rollDaily mean readable now w.store).1 w.events
      exact
        { hlater with
          dailyTo := by
            have hmark : w.dailyTo <= max (-1) (dailyCutoff now) := hlater.dailyTo
            show max w.dailyTo (dailyCutoff now) <= max (-1) (dailyCutoff now)
            omega }
  | prune now =>
      have hlater := h.later hnow hold (prune now w.store).1 w.events
      have hcutoffs := bucketCutoff_le now
      have hpruned := h.pruned
      have hraw : w.rawFrom <= max 0 (rawCutoff now) := hlater.raw
      have hbuckets : w.bucketsFrom <= max 0 (bucketCutoff now) := hlater.buckets
      have hrolled := h.rolled
      have hhourly := h.hourly
      rcases hguard with ⟨hrolledTo, hhourlyTo⟩
      exact
        { hlater with
          rolled := by
            show max w.rawFrom (rawCutoff now) <= w.rolledTo
            omega
          raw := by
            show max w.rawFrom (rawCutoff now) <= max 0 (rawCutoff now)
            omega
          pruned := by
            show max w.bucketsFrom (bucketCutoff now) <=
              max 0 (max w.rawFrom (rawCutoff now) - BUCKET_5MIN_SECS)
            omega
          hourly := by
            show max w.bucketsFrom (bucketCutoff now) <= w.hourlyTo + 1
            omega
          buckets := by
            show max w.bucketsFrom (bucketCutoff now) <= max 0 (bucketCutoff now)
            omega }

/-!
## What the tiers hold
-/

namespace Recording

/-- A 5-minute window with snapshots in it, over and not pruned yet. -/
def WindowRolled (w : Recording V) (start : Int) : Prop :=
  w.bucketsFrom <= start ∧ start + BUCKET_5MIN_SECS <= w.rolledTo ∧
    exists x, x ∈ w.snapshots ∧ windowOf BUCKET_5MIN_SECS (epochOf x.1) = start

def HourRolled (w : Recording V) (start : Int) : Prop :=
  exists x, x ∈ w.snapshots ∧ windowOf BUCKET_1HOUR_SECS (epochOf x.1) = start ∧
    windowOf BUCKET_5MIN_SECS (epochOf x.1) <= w.hourlyTo

/-- The date on which the hour of a snapshot starts, when that hour was old enough. -/
def DateRolled (w : Recording V) (date : Int) : Prop :=
  exists x, x ∈ w.snapshots ∧ dateOf (windowOf BUCKET_1HOUR_SECS (epochOf x.1)) = date ∧
    windowOf BUCKET_1HOUR_SECS (epochOf x.1) <= w.dailyTo

end Recording

/-- Every own row of one size spans its window and counts a snapshot. -/
def Shaped (size : Int) (s : LogStore V) : Prop :=
  forall b, b ∈ sized s.own size s.buckets ->
    b.windowEnd = b.windowStart + size ∧ 1 <= b.samples

structure Tiered (w : Recording V) : Prop where
  raw : forall ts snap,
    HasRaw w.store ts snap <-> w.rawFrom <= ts ∧ w.lastOf ts = some snap
  five : forall start, HasBucket w.store BUCKET_5MIN_SECS start <-> w.WindowRolled start
  hourly : forall start, HasBucket w.store BUCKET_1HOUR_SECS start <-> w.HourRolled start
  daily : forall date, HasSummary w.store date <-> w.DateRolled date
  fiveShape : Shaped BUCKET_5MIN_SECS w.store
  hourShape : Shaped BUCKET_1HOUR_SECS w.store

theorem lastOf_eq_some {w : Recording V} {ts : Int} {snap : Snapshot V}
    (h : w.lastOf ts = some snap) : exists x, x ∈ w.snapshots ∧ epochOf x.1 = ts := by
  rcases Option.map_eq_some_iff.mp h with ⟨x, hfind, _⟩
  have hts := List.find?_some hfind
  exact ⟨x, List.mem_of_find?_eq_some hfind, of_decide_eq_true hts⟩

theorem exists_lastOf {w : Recording V} {x : Instant × Snapshot V} (hx : x ∈ w.snapshots) :
    exists snap, w.lastOf (epochOf x.1) = some snap := by
  cases hfind : w.snapshots.find? (fun y => decide (epochOf y.1 = epochOf x.1)) with
  | none =>
      have hother := List.find?_eq_none.mp hfind x hx
      exact absurd (decide_eq_true rfl) hother
  | some y =>
      refine ⟨y.2, ?_⟩
      rw [Recording.lastOf, hfind]
      rfl

theorem not_hasBucket_of_nil {s : LogStore V} {size start : Int}
    (h : forall r, r ∈ s.buckets -> r.peerNodeId ≠ s.own) : ¬ HasBucket s size start := by
  intro hbucket
  rcases hasBucket_iff.mp hbucket with ⟨b, hb, _⟩
  rcases mem_sized.mp hb with ⟨hin, hown, _⟩
  exact h b hin hown

theorem tiered_start {w : Recording V} (h : w.Start) : Tiered w := by
  have hnone : forall x, x ∉ w.snapshots := by
    intro x
    rw [h.snapshots]
    exact List.not_mem_nil
  have hshape : forall size, Shaped size w.store := by
    intro size b hb
    rcases mem_sized.mp hb with ⟨hin, hown, _⟩
    exact absurd hown (h.buckets b hin)
  constructor
  · intro ts snap
    constructor
    · intro hraw
      rcases hraw with ⟨r, hr, hown, _⟩
      exact absurd hown (h.raw r hr)
    · intro hlast
      rcases lastOf_eq_some hlast.right with ⟨x, hx, _⟩
      exact absurd hx (hnone x)
  · intro start
    constructor
    · intro hbucket
      exact absurd hbucket (not_hasBucket_of_nil h.buckets)
    · intro hrolled
      rcases hrolled with ⟨_, _, x, hx, _⟩
      exact absurd hx (hnone x)
  · intro start
    constructor
    · intro hbucket
      exact absurd hbucket (not_hasBucket_of_nil h.buckets)
    · intro hrolled
      rcases hrolled with ⟨x, hx, _⟩
      exact absurd hx (hnone x)
  · intro date
    constructor
    · intro hsummary
      rcases List.mem_map.mp hsummary with ⟨r, hr, hkey⟩
      exact absurd (Prod.mk.inj hkey).left (h.daily r hr)
    · intro hrolled
      rcases hrolled with ⟨x, hx, _⟩
      exact absurd hx (hnone x)
  · exact hshape BUCKET_5MIN_SECS
  · exact hshape BUCKET_1HOUR_SECS

/-!
## Recording a snapshot
-/

theorem lastOf_cons {w : Recording V} {store : LogStore V} {now : Instant}
    {snap : Snapshot V} (ts : Int) :
    Recording.lastOf
        { w with store := store, clock := now, snapshots := (now, snap) :: w.snapshots } ts =
      if epochOf now = ts then some snap else w.lastOf ts := by
  unfold Recording.lastOf
  rw [List.find?_cons]
  by_cases hts : epochOf now = ts
  · rw [if_pos hts, decide_eq_true hts]
    rfl
  · rw [if_neg hts, decide_eq_false hts]

theorem hasRaw_recordSnapshot {s : LogStore V} {now : Instant} {snap snap' : Snapshot V}
    {ts : Int} :
    HasRaw (recordSnapshot snap now s) ts snap' <->
      if epochOf now = ts then snap = snap' else HasRaw s ts snap' := by
  constructor
  · intro h
    rcases h with ⟨r, hr, hown, hts, hpayload⟩
    rcases List.mem_append.mp hr with hold | hnew
    · rcases List.mem_filter.mp hold with ⟨hin, hkey⟩
      have hother : ¬ epochOf now = ts := by
        intro hnow
        apply of_decide_eq_true hkey
        show (r.peerNodeId, r.ts) = (s.own, epochOf now)
        rw [hown, hts, hnow]
        rfl
      rw [if_neg hother]
      exact ⟨r, hin, hown, hts, hpayload⟩
    · rw [List.mem_singleton.mp hnew] at hts hpayload
      rw [if_pos hts]
      exact hpayload
  · intro h
    by_cases hnow : epochOf now = ts
    · rw [if_pos hnow] at h
      exact ⟨_, List.mem_append.mpr (Or.inr List.mem_cons_self), rfl, hnow, h⟩
    · rw [if_neg hnow] at h
      rcases h with ⟨r, hr, hown, hts, hpayload⟩
      refine ⟨r, List.mem_append.mpr (Or.inl (List.mem_filter.mpr ⟨hr, ?_⟩)), hown, hts, hpayload⟩
      apply decide_eq_true
      intro hkey
      have hsame : r.ts = epochOf now := (Prod.mk.inj hkey).right
      exact hnow (hsame.symm.trans hts)

theorem cutoffs_lt (now : Instant) :
    hourlyCutoff now + BUCKET_1HOUR_SECS < epochOf now ∧
      dailyCutoff now + BUCKET_1HOUR_SECS < epochOf now ∧ rawCutoff now <= epochOf now := by
  have hhourly : hourlyCutoff now * 1000000 < now - 86400000000 + 1000000 :=
    (epochOf_bounds (now - hours 24)).left
  have hdaily : dailyCutoff now * 1000000 < now - 604800000000 + 1000000 :=
    (epochOf_bounds (now - days 7)).left
  have hraw : rawCutoff now <= epochOf now := by
    apply epochOf_le
    exact Int.sub_le_self _ (by decide)
  have hnow : -(epochOf now * 1000000 + 1000000) < -now :=
    Int.neg_lt_neg (epochOf_bounds now).right
  unfold BUCKET_1HOUR_SECS
  omega

theorem Marks.ahead {w : Recording V} (h : Marks w) {now : Instant} (hnow : w.clock <= now) :
    ¬ windowOf BUCKET_5MIN_SECS (epochOf now) + BUCKET_5MIN_SECS <= w.rolledTo ∧
      ¬ windowOf BUCKET_5MIN_SECS (epochOf now) <= w.hourlyTo ∧
      ¬ windowOf BUCKET_1HOUR_SECS (epochOf now) <= w.dailyTo := by
  rcases cutoffs_mono hnow with ⟨_, _, hhourly, hdaily⟩
  rcases cutoffs_lt now with ⟨hafterHourly, hafterDaily, _⟩
  have hclock := Int.le_trans h.clock hnow
  have hfive := windowOf_le fiveMinutes_pos (epochOf now)
  have hhour := windowOf_le oneHour_pos (epochOf now)
  have hfivePos := window_nonneg fiveMinutes_pos hclock
  have hhourPos := window_nonneg oneHour_pos hclock
  have hrolledTo := Int.le_trans h.rolledTo.right (epochOf_le hnow)
  have hhourlyTo := h.hourlyTo
  have hdailyTo := h.dailyTo
  unfold BUCKET_5MIN_SECS BUCKET_1HOUR_SECS at *
  omega

theorem exists_cons_iff {elem : Type _} {p : elem -> Prop} {x : elem} {xs : List elem}
    (hx : ¬ p x) : (exists y, y ∈ x :: xs ∧ p y) <-> exists y, y ∈ xs ∧ p y := by
  rw [List.exists_mem_cons_iff]
  exact or_iff_right hx

theorem tiered_recordSnapshot {w : Recording V} (h : Tiered w) (hmarks : Marks w)
    {now : Instant} (hnow : w.clock <= now) (snap : Snapshot V) :
    Tiered { w with
      store := recordSnapshot snap now w.store
      clock := now
      snapshots := (now, snap) :: w.snapshots } := by
  rcases hmarks.ahead hnow with ⟨hwindow, hhour, hdate⟩
  constructor
  · intro ts snap'
    rw [hasRaw_recordSnapshot, lastOf_cons]
    by_cases hts : epochOf now = ts
    · rw [if_pos hts, if_pos hts]
      constructor
      · intro hsnap
        refine ⟨?_, congrArg some hsnap⟩
        show w.rawFrom <= ts
        have hepoch : 0 <= epochOf now :=
          Int.tdiv_nonneg (Int.le_trans hmarks.clock hnow) (by decide)
        have hmark := hmarks.raw
        have hraw := (cutoffs_mono hnow).left
        have hafter := (cutoffs_lt now).right.right
        omega
      · intro hsnap
        exact Option.some.inj hsnap.right
    · rw [if_neg hts, if_neg hts]
      exact h.raw ts snap'
  · intro start
    refine (h.five start).trans (and_congr_right (fun _ => and_congr_right (fun hto => ?_)))
    apply (exists_cons_iff _).symm
    intro hstart
    rw [← hstart] at hto
    exact hwindow hto
  · intro start
    exact (h.hourly start).trans (exists_cons_iff (fun hnew => hhour hnew.right)).symm
  · intro date
    exact (h.daily date).trans (exists_cons_iff (fun hnew => hdate hnew.right)).symm
  · exact h.fiveShape
  · exact h.hourShape

/-!
## The roll-ups
-/

theorem hasBucket_congr {s s' : LogStore V} {size start : Int}
    (h : sized s'.own size s'.buckets = sized s.own size s.buckets) :
    HasBucket s' size start <-> HasBucket s size start := by
  rw [hasBucket_iff, hasBucket_iff, h]

theorem shaped_congr {s s' : LogStore V} {size : Int}
    (h : sized s'.own size s'.buckets = sized s.own size s.buckets) (hshape : Shaped size s) :
    Shaped size s' := by
  intro b hb
  rw [h] at hb
  exact hshape b hb

theorem hasBucket_insertMany {s : LogStore V} (news : List (StatBucket V)) {size start : Int} :
    HasBucket { s with buckets := insertMany bucketKey s.buckets news } size start <->
      HasBucket s size start ∨ (s.own, start, size) ∈ news.map bucketKey :=
  keys_insertMany

theorem shaped_insertMany {s : LogStore V} {news : List (StatBucket V)} {size : Int}
    (h : Shaped size s)
    (hnews : forall b, b ∈ news -> b.bucketSize = size ->
      b.windowEnd = b.windowStart + size ∧ 1 <= b.samples) :
    Shaped size { s with buckets := insertMany bucketKey s.buckets news } := by
  intro b hb
  rcases mem_sized.mp hb with ⟨hin, hown, hsize⟩
  rcases of_mem_insertMany hin with hold | hnew
  · exact h b (mem_sized.mpr ⟨hold, hown, hsize⟩)
  · exact hnews b hnew hsize

/-- The rows `roll_up_5min` reads start no later than where the last one stopped. -/
theorem lowerBound_le {w : Recording V} (h : Tiered w) (hmarks : Marks w) :
    (((sized w.store.own BUCKET_5MIN_SECS w.store.buckets).map
      StatBucket.windowEnd).max?).getD 0 <= w.rolledTo := by
  cases hmax : ((sized w.store.own BUCKET_5MIN_SECS w.store.buckets).map
      StatBucket.windowEnd).max? with
  | none => exact hmarks.rolledTo.left
  | some last =>
      have hmem := (List.max?_eq_some_iff.mp hmax).left
      rcases List.mem_map.mp hmem with ⟨b, hb, hlast⟩
      have hrolled := (h.five b.windowStart).mp (hasBucket_iff.mpr ⟨b, hb, rfl⟩)
      show last <= w.rolledTo
      rw [← hlast, (h.fiveShape b hb).left]
      exact hrolled.right.left

section RollUps

variable (mean : List V -> V)

theorem hasSummary_rollDaily (readable : EventRow -> Bool) {now : Instant} {s : LogStore V}
    {date : Int} :
    HasSummary (rollDaily mean readable now s).1 date <->
      HasSummary s date ∨
        exists hour, HasBucket s BUCKET_1HOUR_SECS hour ∧ hour <= dailyCutoff now ∧
          dateOf hour = date := by
  show (s.own, date) ∈ (insertMany dailyKey s.daily _).map dailyKey <-> _
  rw [keys_insertMany, keys_dailyRows]
  apply or_congr_right
  constructor
  · intro h
    rcases h with ⟨b, hb, hle, hkey⟩
    exact ⟨b.windowStart, hasBucket_iff.mpr ⟨b, hb, rfl⟩, hle, (Prod.mk.inj hkey).right.symm⟩
  · intro h
    rcases h with ⟨hour, hhour, hle, hdate⟩
    rcases hasBucket_iff.mp hhour with ⟨b, hb, hb'⟩
    refine ⟨b, hb, by rw [hb']; exact hle, ?_⟩
    rw [hb', hdate]

theorem tiered_rollDaily (readable : EventRow -> Bool) {w : Recording V} (h : Tiered w)
    {now : Instant} (hschedule : dailyCutoff now + BUCKET_1HOUR_SECS <= w.hourlyTo) :
    Tiered { w with
      store := (rollDaily mean readable now w.store).1
      clock := now
      dailyTo := max w.dailyTo (dailyCutoff now) } := by
  refine ⟨h.raw, h.five, h.hourly, ?_, h.fiveShape, h.hourShape⟩
  intro date
  rw [hasSummary_rollDaily, h.daily date]
  constructor
  · intro hsummary
    rcases hsummary with hold | hnew
    · rcases hold with ⟨x, hx, hdate, hto⟩
      exact ⟨x, hx, hdate, Int.le_trans hto (Int.le_max_left ..)⟩
    · rcases hnew with ⟨hour, hhour, hle, hdate⟩
      rcases (h.hourly hour).mp hhour with ⟨x, hx, hstart, _⟩
      rw [← hstart] at hle hdate
      exact ⟨x, hx, hdate, Int.le_trans hle (Int.le_max_right ..)⟩
  · intro hrolled
    rcases hrolled with ⟨x, hx, hdate, hto⟩
    have hto' : windowOf BUCKET_1HOUR_SECS (epochOf x.1) <=
      max w.dailyTo (dailyCutoff now) := hto
    by_cases hdone : windowOf BUCKET_1HOUR_SECS (epochOf x.1) <= w.dailyTo
    · exact Or.inl ⟨x, hx, hdate, hdone⟩
    · right
      have hfive := windowOf_le fiveMinutes_pos (epochOf x.1)
      have hhour := windowOf_le oneHour_pos (epochOf x.1)
      exact ⟨_, (h.hourly _).mpr ⟨x, hx, rfl, by omega⟩, by omega, hdate⟩

variable [LinearOrder V]

theorem hasBucket_rollUp5min {now : Instant} {s : LogStore V} {start : Int} :
    HasBucket (rollUp5min mean now s).1 BUCKET_5MIN_SECS start <->
      HasBucket s BUCKET_5MIN_SECS start ∨
        exists r, r ∈ rawRows now s ∧ windowOf BUCKET_5MIN_SECS r.ts = start := by
  refine (hasBucket_insertMany (fiveMinuteBuckets mean now s)).trans (or_congr_right ?_)
  rw [keys_fiveMinuteBuckets]
  constructor
  · intro h
    rcases h with ⟨r, hr, hkey⟩
    exact ⟨r, hr, (Prod.mk.inj (Prod.mk.inj hkey).right).left.symm⟩
  · intro h
    rcases h with ⟨r, hr, hstart⟩
    exact ⟨r, hr, by rw [hstart]⟩

/-- `roll_hourly` adds the hours of the old enough 5-minute rows, and nothing else. -/
theorem hasBucket_rollHourly {now : Instant} {s : LogStore V} {size start : Int}
    (hshape : Shaped BUCKET_5MIN_SECS s) :
    HasBucket (rollHourly mean now s).1 size start <->
      HasBucket s size start ∨ (size = BUCKET_1HOUR_SECS ∧
        exists five, HasBucket s BUCKET_5MIN_SECS five ∧ five <= hourlyCutoff now ∧
          windowOf BUCKET_1HOUR_SECS five = start) := by
  refine (hasBucket_insertMany (hourlyRows mean now s)).trans (or_congr_right ?_)
  rw [keys_hourlyRows mean (fun b hb => (hshape b hb).right)]
  constructor
  · intro h
    rcases h with ⟨b, hb, hle, hkey⟩
    have hrest := Prod.mk.inj (Prod.mk.inj hkey).right
    exact ⟨hrest.right, b.windowStart, hasBucket_iff.mpr ⟨b, hb, rfl⟩, hle, hrest.left.symm⟩
  · intro h
    rcases h with ⟨hsize, five, hfive, hle, hstart⟩
    rcases hasBucket_iff.mp hfive with ⟨b, hb, hb'⟩
    refine ⟨b, hb, by rw [hb']; exact hle, ?_⟩
    rw [hb', hstart, hsize]

theorem shape_fiveMinuteBuckets {now : Instant} {s : LogStore V} {b : StatBucket V}
    (hb : b ∈ fiveMinuteBuckets mean now s) :
    b.windowEnd = b.windowStart + BUCKET_5MIN_SECS ∧ 1 <= b.samples := by
  rcases List.mem_map.mp hb with ⟨window, hwindow, rfl⟩
  refine ⟨rfl, ?_⟩
  have hne := (Assoc.mem_groupBy_iff.mp hwindow).right
  show 1 <= ((window.2.map RawRow.payload).length : Int)
  rw [List.length_map]
  have hpos := List.length_pos_of_ne_nil hne
  omega

theorem shape_hourlyRows {now : Instant} {s : LogStore V} {b : StatBucket V}
    (hshape : Shaped BUCKET_5MIN_SECS s) (hb : b ∈ hourlyRows mean now s) :
    b.windowEnd = b.windowStart + BUCKET_1HOUR_SECS ∧ 1 <= b.samples := by
  rcases mem_hourlyRows mean hb with ⟨hour, hhour, hne, rfl⟩
  refine ⟨rfl, ?_⟩
  have hgroup := (Assoc.mem_groupBy_iff.mp hhour).left
  have hsum : 0 <= (hour.2.map StatBucket.samples).sum := by
    apply List.sum_nonneg
    intro n hn
    rcases List.mem_map.mp hn with ⟨b, hb, rfl⟩
    rw [hgroup] at hb
    have hin := List.mem_of_mem_filter (mem_orderBy.mp (List.mem_of_mem_filter hb))
    have hone := (hshape b hin).right
    omega
  show 1 <= (hour.2.map StatBucket.samples).sum
  omega

theorem tiered_rollUp5min {w : Recording V} (h : Tiered w) (hmarks : Marks w) {now : Instant}
    (hnow : w.clock <= now) :
    Tiered { w with
      store := (rollUp5min mean now w.store).1
      clock := now
      rolledTo := rollCutoff now } := by
  have hlower := lowerBound_le h hmarks
  rcases rollCutoff_spec hmarks.aligned
    (Int.le_trans hmarks.rolledTo.right (epochOf_le hnow)) with ⟨hge, _, haligned⟩
  have hpruned := hmarks.pruned
  have hrolled := hmarks.rolled
  have hto := hmarks.aligned
  have hother : BUCKET_1HOUR_SECS ≠ BUCKET_5MIN_SECS := by decide
  have hsized := sized_rollUp5min mean w.store.own hother now w.store
  constructor
  · exact h.raw
  · intro start
    rw [hasBucket_rollUp5min, h.five start]
    constructor
    · intro hbucket
      rcases hbucket with hold | hnew
      · rcases hold with ⟨hfrom, hend, hx⟩
        exact ⟨hfrom, Int.le_trans hend hge, hx⟩
      · rcases hnew with ⟨r, hr, hstart⟩
        have hin := mem_orderBy.mp hr
        rcases of_decide_eq_true (List.mem_filter.mp hin).right with ⟨hown, _, hlt⟩
        have hraw := (h.raw r.ts r.payload).mp
          ⟨r, (List.mem_filter.mp hin).left, hown, rfl, rfl⟩
        rcases lastOf_eq_some hraw.right with ⟨x, hx, hts⟩
        have hwindow := windowOf_le fiveMinutes_pos r.ts
        have hmultiple := windowOf_aligned BUCKET_5MIN_SECS r.ts
        have hbefore : r.ts < rollCutoff now := hlt
        have hpositive : 0 <= r.ts := by
          rw [← hts]
          exact Int.tdiv_nonneg (hmarks.snapshots x hx).left (by decide)
        rw [hstart] at hwindow hmultiple
        refine ⟨?_, ?_, x, hx, by rw [hts]; exact hstart⟩
        · show w.bucketsFrom <= start
          have hfrom := hraw.left
          unfold BUCKET_5MIN_SECS at *
          omega
        · show start + BUCKET_5MIN_SECS <= rollCutoff now
          unfold BUCKET_5MIN_SECS at *
          omega
    · intro hbucket
      rcases hbucket with ⟨hfrom, hend, x, hx, hstart⟩
      have hend' : start + BUCKET_5MIN_SECS <= rollCutoff now := hend
      by_cases hdone : start + BUCKET_5MIN_SECS <= w.rolledTo
      · exact Or.inl ⟨hfrom, hdone, x, hx, hstart⟩
      · -- the last snapshot of the second is still there, past the last bucket
        right
        have hwindow := windowOf_le fiveMinutes_pos (epochOf x.1)
        have hmultiple := windowOf_aligned BUCKET_5MIN_SECS (epochOf x.1)
        rw [hstart] at hwindow hmultiple
        have hafter : w.rolledTo <= epochOf x.1 := by
          unfold BUCKET_5MIN_SECS at *
          omega
        rcases exists_lastOf hx with ⟨snap, hlast⟩
        rcases (h.raw (epochOf x.1) snap).mpr ⟨Int.le_trans hrolled hafter, hlast⟩ with
          ⟨r, hr, hown, hts, _⟩
        refine ⟨r, mem_orderBy.mpr (List.mem_filter.mpr ⟨hr, decide_eq_true ⟨hown, ?_, ?_⟩⟩),
          by rw [hts]; exact hstart⟩
        · rw [hts]
          exact Int.le_trans hlower hafter
        · rw [hts]
          show epochOf x.1 < rollCutoff now
          omega
  · intro start
    exact (hasBucket_congr hsized).trans (h.hourly start)
  · exact h.daily
  · exact shaped_insertMany h.fiveShape (fun b hb _ => shape_fiveMinuteBuckets mean hb)
  · exact shaped_congr hsized h.hourShape

theorem windowOf_windowOf (ts : Int) :
    windowOf BUCKET_1HOUR_SECS (windowOf BUCKET_5MIN_SECS ts) =
      windowOf BUCKET_1HOUR_SECS ts := by
  unfold windowOf BUCKET_1HOUR_SECS BUCKET_5MIN_SECS
  omega

theorem tiered_rollHourly {w : Recording V} (h : Tiered w) (hmarks : Marks w) {now : Instant}
    (hschedule : hourlyCutoff now + BUCKET_5MIN_SECS <= w.rolledTo) :
    Tiered { w with
      store := (rollHourly mean now w.store).1
      clock := now
      hourlyTo := max w.hourlyTo (hourlyCutoff now) } := by
  constructor
  · exact h.raw
  · intro start
    rw [hasBucket_rollHourly mean h.fiveShape, h.five start]
    constructor
    · intro hbucket
      rcases hbucket with hold | hnew
      · exact hold
      · exact absurd hnew.left (by decide)
    · exact Or.inl
  · intro start
    rw [hasBucket_rollHourly mean h.fiveShape, h.hourly start]
    constructor
    · intro hbucket
      rcases hbucket with hold | hnew
      · rcases hold with ⟨x, hx, hstart, hto⟩
        exact ⟨x, hx, hstart, Int.le_trans hto (Int.le_max_left ..)⟩
      · rcases hnew with ⟨_, five, hfive, hle, hstart⟩
        rcases (h.five five).mp hfive with ⟨_, _, x, hx, hwindow⟩
        refine ⟨x, hx, ?_, ?_⟩
        · rw [← windowOf_windowOf, hwindow]
          exact hstart
        · rw [hwindow]
          exact Int.le_trans hle (Int.le_max_right ..)
    · intro hrolled
      rcases hrolled with ⟨x, hx, hstart, hto⟩
      have hto' : windowOf BUCKET_5MIN_SECS (epochOf x.1) <=
        max w.hourlyTo (hourlyCutoff now) := hto
      by_cases hdone : windowOf BUCKET_5MIN_SECS (epochOf x.1) <= w.hourlyTo
      · exact Or.inl ⟨x, hx, hstart, hdone⟩
      · right
        have hfrom := hmarks.hourly
        refine ⟨rfl, windowOf BUCKET_5MIN_SECS (epochOf x.1),
          (h.five _).mpr ⟨by omega, by omega, x, hx, rfl⟩, by omega, ?_⟩
        rw [windowOf_windowOf]
        exact hstart
  · exact h.daily
  · refine shaped_insertMany h.fiveShape ?_
    intro b hb hsize
    rcases mem_hourlyRows mean hb with ⟨hour, _, _, rfl⟩
    have hdifferent : BUCKET_1HOUR_SECS ≠ BUCKET_5MIN_SECS := by decide
    exact absurd hsize hdifferent
  · exact shaped_insertMany h.hourShape
      (fun b hb _ => shape_hourlyRows mean h.fiveShape hb)

end RollUps

/-!
## Pruning
-/

theorem hasRaw_prune {now : Instant} {s : LogStore V} {ts : Int} {snap : Snapshot V} :
    HasRaw (prune now s).1 ts snap <-> rawCutoff now <= ts ∧ HasRaw s ts snap := by
  constructor
  · intro h
    rcases h with ⟨r, hr, hown, hts, hpayload⟩
    rcases List.mem_filter.mp hr with ⟨hin, hkept⟩
    have hcutoff : ¬ r.ts < rawCutoff now := of_decide_eq_true hkept
    exact ⟨by omega, r, hin, hown, hts, hpayload⟩
  · intro h
    rcases h with ⟨hcutoff, r, hr, hown, hts, hpayload⟩
    have hkept : ¬ r.ts < rawCutoff now := by omega
    exact ⟨r, List.mem_filter.mpr ⟨hr, decide_eq_true hkept⟩, hown, hts, hpayload⟩

theorem mem_sized_prune {now : Instant} {s : LogStore V} {b : StatBucket V} :
    b ∈ sized s.own BUCKET_5MIN_SECS (prune now s).1.buckets <->
      bucketCutoff now <= b.windowStart ∧ b ∈ sized s.own BUCKET_5MIN_SECS s.buckets := by
  rw [mem_sized, mem_sized]
  constructor
  · intro h
    rcases h with ⟨hin, hown, hsize⟩
    rcases List.mem_filter.mp hin with ⟨hin, hkept⟩
    have hcutoff := of_decide_eq_true hkept
    refine ⟨?_, hin, hown, hsize⟩
    apply Int.not_lt.mp
    intro hlt
    exact hcutoff ⟨hsize, hlt⟩
  · intro h
    rcases h with ⟨hcutoff, hin, hown, hsize⟩
    refine ⟨List.mem_filter.mpr ⟨hin, decide_eq_true ?_⟩, hown, hsize⟩
    intro hold
    exact Int.not_lt.mpr hcutoff hold.right

theorem tiered_prune {w : Recording V} (h : Tiered w) (now : Instant) :
    Tiered { w with
      store := (prune now w.store).1
      clock := now
      rawFrom := max w.rawFrom (rawCutoff now)
      bucketsFrom := max w.bucketsFrom (bucketCutoff now) } := by
  have hother : BUCKET_1HOUR_SECS ≠ BUCKET_5MIN_SECS := by decide
  have hsized := sized_prune w.store.own hother now w.store
  constructor
  · intro ts snap
    rw [hasRaw_prune, h.raw ts snap]
    show _ <-> max w.rawFrom (rawCutoff now) <= ts ∧ w.lastOf ts = some snap
    rw [Int.max_le, and_left_comm, and_assoc]
  · intro start
    rw [hasBucket_iff]
    show (exists b, b ∈ sized w.store.own BUCKET_5MIN_SECS (prune now w.store).1.buckets ∧ _) <->
      max w.bucketsFrom (bucketCutoff now) <= start ∧ _
    constructor
    · intro hbucket
      rcases hbucket with ⟨b, hb, hstart⟩
      rcases mem_sized_prune.mp hb with ⟨hcutoff, hin⟩
      rcases (h.five start).mp (hasBucket_iff.mpr ⟨b, hin, hstart⟩) with ⟨hfrom, hrest⟩
      rw [hstart] at hcutoff
      exact ⟨Int.max_le.mpr ⟨hfrom, hcutoff⟩, hrest⟩
    · intro hrolled
      rcases hrolled with ⟨hfrom, hrest⟩
      rcases Int.max_le.mp hfrom with ⟨hfrom, hcutoff⟩
      rcases hasBucket_iff.mp ((h.five start).mpr ⟨hfrom, hrest⟩) with ⟨b, hb, hstart⟩
      exact ⟨b, mem_sized_prune.mpr ⟨by rw [hstart]; exact hcutoff, hb⟩, hstart⟩
  · intro start
    exact (hasBucket_congr hsized).trans (h.hourly start)
  · exact h.daily
  · intro b hb
    exact h.fiveShape b (mem_sized_prune.mp hb).right
  · exact shaped_congr hsized h.hourShape

/-!
## Events
-/

structure EventsKept (w : Recording V) : Prop where
  kept : forall x, x ∈ w.events ->
    x.2 ∈ w.store.events ∧ x.2.peerNodeId = w.store.own ∧ x.2.ts = Int.tdiv x.1 1000
  times : forall x, x ∈ w.events -> 0 <= x.1
  keys : (w.store.events.map eventKey).Nodup
  details : forall e, e ∈ w.store.events -> e.peerNodeId = w.store.own -> e.detail ≠ some ""

theorem eventsKept_start {w : Recording V} (h : w.Start) : EventsKept w := by
  have hnone : forall x, x ∉ w.events := by
    intro x
    rw [h.events]
    exact List.not_mem_nil
  constructor
  · intro x hx
    exact absurd hx (hnone x)
  · intro x hx
    exact absurd hx (hnone x)
  · exact h.eventKeys
  · intro e he hown
    exact absurd hown (h.ownEvents e he)

theorem eventKey_inj {e e' : EventRow} (he : e.detail ≠ some "") (he' : e'.detail ≠ some "")
    (hkey : eventKey e = eventKey e') : e = e' := by
  cases e with
  | mk peer ts event detail =>
      cases e' with
      | mk peer' ts' event' detail' =>
          unfold eventKey at hkey
          simp only [Prod.mk.injEq] at hkey
          rcases hkey with ⟨hpeer, hts, hevent, hdetail⟩
          have hsame : detail = detail' := by
            cases detail with
            | none =>
                cases detail' with
                | none => rfl
                | some text => exact absurd (congrArg some hdetail.symm) he'
            | some text =>
                cases detail' with
                | none => exact absurd (congrArg some hdetail) he
                | some text' => exact congrArg some hdetail
          rw [hpeer, hts, hevent, hsame]

theorem eventsKept_recordEvent {w : Recording V} (h : EventsKept w) {now : Instant}
    (hnow : 0 <= now) (event : String) {detail : Option String} (hdetail : detail ≠ some "") :
    EventsKept { w with
      store := recordEvent event detail now w.store
      clock := now
      events :=
        (now,
          { peerNodeId := w.store.own
            ts := Int.tdiv now 1000
            event := event
            detail := detail }) :: w.events } := by
  have htimes : forall x, x ∈ (now, (⟨w.store.own, Int.tdiv now 1000, event, detail⟩ : EventRow)) ::
      w.events -> 0 <= x.1 := by
    intro x hx
    rcases List.mem_cons.mp hx with hhead | hx
    · rw [hhead]
      exact hnow
    · exact h.times x hx
  by_cases htaken : eventKey ⟨w.store.own, Int.tdiv now 1000, event, detail⟩ ∈
      w.store.events.map eventKey
  · -- the row that is there is the same one
    have hsame : (recordEvent event detail now w.store).events = w.store.events :=
      if_pos htaken
    rcases List.mem_map.mp htaken with ⟨e, he, hkey⟩
    have howner : e.peerNodeId = w.store.own := (Prod.mk.inj hkey).left
    have hrow := eventKey_inj (h.details e he howner) hdetail hkey
    refine ⟨?_, htimes, by rw [hsame]; exact h.keys, by rw [hsame]; exact h.details⟩
    intro x hx
    rw [hsame]
    rcases List.mem_cons.mp hx with hhead | hx
    · rw [hhead]
      exact ⟨hrow ▸ he, rfl, rfl⟩
    · exact h.kept x hx
  · have hnew : (recordEvent event detail now w.store).events =
        w.store.events ++ [⟨w.store.own, Int.tdiv now 1000, event, detail⟩] :=
      if_neg htaken
    refine ⟨?_, htimes, ?_, ?_⟩
    · intro x hx
      rw [hnew]
      rcases List.mem_cons.mp hx with hhead | hx
      · rw [hhead]
        exact ⟨List.mem_append.mpr (Or.inr List.mem_cons_self), rfl, rfl⟩
      · rcases h.kept x hx with ⟨hin, hrest⟩
        exact ⟨List.mem_append.mpr (Or.inl hin), hrest⟩
    · rw [hnew, List.map_append]
      exact List.nodup_append.mpr ⟨h.keys, List.nodup_singleton _,
        fun key hold key' hkey' heq => htaken (by
          rw [← List.mem_singleton.mp hkey', ← heq]
          exact hold)⟩
    · intro e he hown
      rw [hnew] at he
      rcases List.mem_append.mp he with hold | hlast
      · exact h.details e hold hown
      · rw [List.mem_singleton.mp hlast]
        exact hdetail

/-!
## Runs
-/

structure Sound (w : Recording V) : Prop where
  marks : Marks w
  tiered : Tiered w
  events : EventsKept w

section Runs

variable [LinearOrder V] (mean : List V -> V) (readable : EventRow -> Bool)

theorem tiered_step {w : Recording V} {job : Job V} (h : Tiered w) (hmarks : Marks w)
    (hguard : OnSchedule w job) : Tiered ((recordings mean readable).step w job) := by
  rcases hguard with ⟨hnow, hguard⟩
  cases job with
  | recordEvent event detail now =>
      exact ⟨h.raw, h.five, h.hourly, h.daily, h.fiveShape, h.hourShape⟩
  | recordSnapshot snap now => exact tiered_recordSnapshot h hmarks hnow snap
  | rollUp5min now => exact tiered_rollUp5min mean h hmarks hnow
  | rollHourly now => exact tiered_rollHourly mean h hmarks hguard
  | rollDaily now => exact tiered_rollDaily mean readable h hguard
  | prune now => exact tiered_prune h now

theorem eventsKept_step {w : Recording V} {job : Job V} (h : EventsKept w) (hmarks : Marks w)
    (hguard : OnSchedule w job) : EventsKept ((recordings mean readable).step w job) := by
  rcases hguard with ⟨hnow, hguard⟩
  cases job with
  | recordEvent event detail now =>
      exact eventsKept_recordEvent h (Int.le_trans hmarks.clock hnow) event hguard
  | recordSnapshot snap now => exact ⟨h.kept, h.times, h.keys, h.details⟩
  | rollUp5min now => exact ⟨h.kept, h.times, h.keys, h.details⟩
  | rollHourly now => exact ⟨h.kept, h.times, h.keys, h.details⟩
  | rollDaily now => exact ⟨h.kept, h.times, h.keys, h.details⟩
  | prune now => exact ⟨h.kept, h.times, h.keys, h.details⟩

/-- On schedule the marks say what the tiers hold, and every event is kept. -/
theorem sound_of_reachable {w : Recording V}
    (hreach : (recordings mean readable).Reachable OnSchedule w) : Sound w := by
  refine hreach.invariant ?_ ?_
  · intro w hstart
    exact ⟨marks_start hstart, tiered_start hstart, eventsKept_start hstart⟩
  · intro w job h hguard
    exact ⟨marks_step mean readable h.marks hguard,
      tiered_step mean readable h.tiered h.marks hguard,
      eventsKept_step mean readable h.events h.marks hguard⟩

end Runs

end Store
end PanicMonitr
