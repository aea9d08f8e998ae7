import PanicMonitr.Store.Jobs
import Mathlib.Algebra.BigOperators.Group.List.Basic
import Mathlib.Algebra.Group.Int.Defs

/-!
# Completeness of the hourly roll-up

An hourly row is written once and never revisited, so it is complete exactly when its
hour was: all 5-minute rows of the hour that will ever be stored are there, and none of
them is younger than the cutoff.
-/

namespace PanicMonitr
namespace Store

open Foundation

variable {V : Type}

/-!
## The specification
-/

/-- The rows whose window starts in `[h, h + 3600)`. -/
def inHour (h : Int) (rows : List (StatBucket V)) : List (StatBucket V) :=
  rows.filter (fun b =>
    decide (h <= b.windowStart ∧ b.windowStart < h + BUCKET_1HOUR_SECS))

/-- An hourly row carries the totals of all 5-minute rows of its hour. -/
structure HourComplete [LinearOrder V] (ever : List (StatBucket V)) (r : StatBucket V) :
    Prop where
  samples : r.samples = ((inHour r.windowStart ever).map StatBucket.samples).sum
  cpuMax : r.cpuMax = ((inHour r.windowStart ever).filterMap StatBucket.cpuMax).max?
  memMax : r.memMax = ((inHour r.windowStart ever).filterMap StatBucket.memMax).max?
  netRxDelta : r.netRxDelta =
    some (sumOf ((inHour r.windowStart ever).map StatBucket.netRxDelta))
  netTxDelta : r.netTxDelta =
    some (sumOf ((inHour r.windowStart ever).map StatBucket.netTxDelta))

def rolledHours (w : World V) : List Int :=
  w.hourly.map StatBucket.windowStart

/-- The hour is over for the roll-up: nothing pruned, and nothing after the cutoff. -/
def HourSettled (cutoff : Int) (w : World V) (h : Int) : Prop :=
  inHour h w.fiveMinute = inHour h w.ever ∧
    forall b, b ∈ inHour h w.fiveMinute -> b.windowStart <= cutoff

/--
What a job must find: a new hourly row only for a settled hour, and no new 5-minute
row in an hour that already has its row.
-/
def HoursSettled (w : World V) : Job V -> Prop
  | Job.rollHourly now =>
      forall b, b ∈ w.fiveMinute -> b.windowStart <= hourlyCutoff now ->
        windowOf BUCKET_1HOUR_SECS b.windowStart ∉ rolledHours w ->
        HourSettled (hourlyCutoff now) w (windowOf BUCKET_1HOUR_SECS b.windowStart)
  | Job.rollUp5min now =>
      forall r, r ∈ rawRows now w.store ->
        windowOf BUCKET_5MIN_SECS r.ts ∉ w.fiveMinute.map StatBucket.windowStart ->
        windowOf BUCKET_1HOUR_SECS r.ts ∉ rolledHours w
  | _ => True

instance [DecidableEq V] (w : World V) (job : Job V) : Decidable (HoursSettled w job) :=
  match job with
  | Job.rollHourly now =>
      have (h : Int) : Decidable (HourSettled (hourlyCutoff now) w h) :=
        inferInstanceAs (Decidable (_ ∧ forall b, b ∈ _ -> _))
      inferInstanceAs (Decidable (forall b, b ∈ w.fiveMinute ->
        b.windowStart <= hourlyCutoff now ->
        windowOf BUCKET_1HOUR_SECS b.windowStart ∉ rolledHours w ->
        HourSettled (hourlyCutoff now) w (windowOf BUCKET_1HOUR_SECS b.windowStart)))
  | Job.rollUp5min now =>
      inferInstanceAs (Decidable (forall r, r ∈ rawRows now w.store ->
        windowOf BUCKET_5MIN_SECS r.ts ∉ w.fiveMinute.map StatBucket.windowStart ->
        windowOf BUCKET_1HOUR_SECS r.ts ∉ rolledHours w))
  | Job.recordEvent _ _ _ => isTrue trivial
  | Job.recordSnapshot _ _ => isTrue trivial
  | Job.rollDaily _ => isTrue trivial
  | Job.prune _ => isTrue trivial

/-!
## The invariant
-/

structure Settled [LinearOrder V] (w : World V) : Prop where
  aligned : forall r, r ∈ w.hourly -> r.windowStart % BUCKET_1HOUR_SECS = 0
  complete : forall r, r ∈ w.hourly -> HourComplete w.ever r

theorem inHour_append (h : Int) (rows rows' : List (StatBucket V)) :
    inHour h (rows ++ rows') = inHour h rows ++ inHour h rows' :=
  List.filter_append rows rows'

/-- In a settled hour `roll_hourly` sees every 5-minute row ever stored. -/
theorem group_perm {w : World V} {now : Instant} {hour : Int × List (StatBucket V)}
    (hhour : hour ∈ hourGroups now w.store)
    (hsettled : HourSettled (hourlyCutoff now) w hour.1) :
    hour.2.Perm (inHour hour.1 w.ever) := by
  rcases Assoc.mem_groupBy_iff.mp hhour with ⟨hgroup, hne⟩
  have haligned : hour.1 % BUCKET_1HOUR_SECS = 0 := by
    rcases List.exists_mem_of_ne_nil _ hne with ⟨b, hb⟩
    rw [hgroup] at hb
    rw [← decide_eq_true_iff.mp (List.mem_filter.mp hb).right]
    exact windowOf_aligned _ _
  rcases hsettled with ⟨hever, hcutoff⟩
  rw [hgroup, eligible, filter_orderBy, List.filter_filter]
  refine (orderBy_perm _ _).trans ?_
  rw [← hever]
  apply List.Perm.of_eq
  unfold inHour World.fiveMinute World.own
  apply List.filter_congr
  intro b hb
  have hiff := windowOf_iff b.windowStart
    (show (0 : Int) < BUCKET_1HOUR_SECS by decide) haligned
  by_cases hin : hour.1 <= b.windowStart ∧ b.windowStart < hour.1 + BUCKET_1HOUR_SECS
  · have hle : b.windowStart <= hourlyCutoff now :=
      hcutoff b (List.mem_filter.mpr ⟨hb, decide_eq_true hin⟩)
    simp [hiff.mpr hin, hin, hle]
  · have hother : ¬ windowOf BUCKET_1HOUR_SECS b.windowStart = hour.1 :=
      fun heq => hin (hiff.mp heq)
    simp [hother, hin]

section Steps

variable [LinearOrder V]

theorem HourComplete.append {ever more : List (StatBucket V)} {r : StatBucket V}
    (h : HourComplete ever r) (hmore : inHour r.windowStart more = []) :
    HourComplete (ever ++ more) r := by
  have hsame : inHour r.windowStart (ever ++ more) = inHour r.windowStart ever := by
    rw [inHour_append, hmore, List.append_nil]
  constructor
  · rw [hsame]
    exact h.samples
  · rw [hsame]
    exact h.cpuMax
  · rw [hsame]
    exact h.memMax
  · rw [hsame]
    exact h.netRxDelta
  · rw [hsame]
    exact h.netTxDelta

theorem hourComplete_hourlyRow (mean : List V -> V) (own : String) {h : Int}
    {subbuckets ever : List (StatBucket V)} (hperm : subbuckets.Perm (inHour h ever)) :
    HourComplete ever (hourlyRow mean own h subbuckets) := by
  constructor
  · exact (hperm.map StatBucket.samples).sum_eq
  · exact max?_perm (hperm.filterMap StatBucket.cpuMax)
  · exact max?_perm (hperm.filterMap StatBucket.memMax)
  · exact congrArg some ((hperm.map StatBucket.netRxDelta).filterMap id).sum_eq
  · exact congrArg some ((hperm.map StatBucket.netTxDelta).filterMap id).sum_eq

variable (mean : List V -> V) (readable : EventRow -> Bool)

theorem Settled.start {w : World V} (hstart : w.Start) : Settled w := by
  rcases hstart with ⟨_, hhourly, _⟩
  constructor
  · rw [hhourly]
    exact fun r hr => by cases hr
  · rw [hhourly]
    exact fun r hr => by cases hr

theorem Settled.idle {w : World V} (h : Settled w) {s : LogStore V} (now : Instant)
    (hown : s.own = w.own) (hbuckets : s.buckets = w.store.buckets) :
    Settled (w.after s now) := by
  have hhourly : (w.after s now).hourly = w.hourly := by
    show sized s.own _ s.buckets = _
    rw [hown, hbuckets]
    rfl
  have hever : (w.after s now).ever = w.ever := by
    show w.ever ++ sized w.own _ (appended w.store.buckets s.buckets) = _
    rw [hbuckets, appended_self]
    exact List.append_nil _
  constructor
  · rw [hhourly]
    exact h.aligned
  · rw [hhourly, hever]
    exact h.complete

theorem Settled.rollHourly {w : World V} (h : Settled w) {now : Instant}
    (hsettled : HoursSettled w (Job.rollHourly now)) :
    Settled (w.after (Store.rollHourly mean now w.store).1 now) := by
  have hever : (w.after (Store.rollHourly mean now w.store).1 now).ever = w.ever := by
    show w.ever ++ sized w.own _ (appended w.store.buckets
      (insertMany bucketKey w.store.buckets (hourlyRows mean now w.store))) = _
    rw [appended_insertMany bucketKey (nodup_hourlyRows mean now w.store)]
    refine List.append_right_eq_self.mpr
      (sized_eq_nil BUCKET_1HOUR_SECS (fun r hr => ?_) (by decide))
    rcases mem_hourlyRows mean (List.mem_of_mem_filter hr) with ⟨hour, _, _, hrow⟩
    rw [hrow]
    rfl
  have hnew : forall r, r ∈ hourlyRows mean now w.store ->
      r.windowStart ∉ rolledHours w ->
      r.windowStart % BUCKET_1HOUR_SECS = 0 ∧ HourComplete w.ever r := by
    intro r hr hfree
    rcases mem_hourlyRows mean hr with ⟨hour, hhour, _, hrow⟩
    rcases Assoc.mem_groupBy_iff.mp hhour with ⟨hgroup, hne⟩
    rcases List.exists_mem_of_ne_nil _ hne with ⟨b, hb⟩
    rw [hgroup] at hb
    rcases List.mem_filter.mp hb with ⟨helig, hkey⟩
    rcases List.mem_filter.mp (mem_orderBy.mp helig) with ⟨hstored, hle⟩
    have hstart : windowOf BUCKET_1HOUR_SECS b.windowStart = hour.1 :=
      decide_eq_true_iff.mp hkey
    have hready : HourSettled (hourlyCutoff now) w hour.1 := by
      rw [← hstart]
      apply hsettled b hstored (decide_eq_true_iff.mp hle)
      rw [hstart]
      rw [hrow] at hfree
      exact hfree
    rw [hrow]
    refine ⟨?_, hourComplete_hourlyRow mean w.store.own (group_perm hhour hready)⟩
    show hour.1 % BUCKET_1HOUR_SECS = 0
    rw [← hstart]
    exact windowOf_aligned _ _
  have hcases : forall r, r ∈ (w.after (Store.rollHourly mean now w.store).1 now).hourly ->
      r.windowStart % BUCKET_1HOUR_SECS = 0 ∧ HourComplete w.ever r := by
    intro r hr
    rcases (mem_hourly_rollHourly mean now w.store).mp hr with hold | ⟨hin, hfree⟩
    · exact ⟨h.aligned r hold, h.complete r hold⟩
    · exact hnew r hin hfree
  constructor
  · exact fun r hr => (hcases r hr).left
  · rw [hever]
    exact fun r hr => (hcases r hr).right

theorem Settled.rollUp5min {w : World V} (h : Settled w) {now : Instant}
    (hsettled : HoursSettled w (Job.rollUp5min now)) :
    Settled (w.after (Store.rollUp5min mean now w.store).1 now) := by
  have hhourly : (w.after (Store.rollUp5min mean now w.store).1 now).hourly = w.hourly :=
    sized_rollUp5min mean w.own (by decide) now w.store
  have hever : (w.after (Store.rollUp5min mean now w.store).1 now).ever =
      w.ever ++ sized w.own BUCKET_5MIN_SECS
        ((fiveMinuteBuckets mean now w.store).filter
          (isFree bucketKey w.store.buckets)) := by
    show w.ever ++ sized w.own _ (appended w.store.buckets
      (insertMany bucketKey w.store.buckets (fiveMinuteBuckets mean now w.store))) = _
    rw [appended_insertMany bucketKey (nodup_fiveMinuteBuckets mean now w.store)]
  -- a new 5-minute row lies in an hour without a row
  have hother : forall b, b ∈ sized w.own BUCKET_5MIN_SECS
        ((fiveMinuteBuckets mean now w.store).filter
          (isFree bucketKey w.store.buckets)) ->
      windowOf BUCKET_1HOUR_SECS b.windowStart ∉ rolledHours w := by
    intro b hb
    rcases mem_sized.mp hb with ⟨hin, hown, hsize⟩
    rcases List.mem_filter.mp hin with ⟨hbuilt, hfree⟩
    rcases mem_fiveMinuteBuckets mean hbuilt with ⟨_, _, r, hraw, hstart⟩
    have hnest : windowOf BUCKET_1HOUR_SECS (windowOf BUCKET_5MIN_SECS r.ts) =
        windowOf BUCKET_1HOUR_SECS r.ts := by
      unfold windowOf BUCKET_1HOUR_SECS BUCKET_5MIN_SECS
      omega
    rw [hstart, hnest]
    apply hsettled r hraw
    intro htaken
    rcases List.mem_map.mp htaken with ⟨b', hb', hstart'⟩
    rcases mem_sized.mp hb' with ⟨hin', hown', hsize'⟩
    refine isFree_iff.mp hfree (List.mem_map.mpr ⟨b', hin', ?_⟩)
    unfold bucketKey
    rw [hown', hsize', hstart', hown, hsize, hstart]
  constructor
  · rw [hhourly]
    exact h.aligned
  · rw [hhourly, hever]
    intro r hr
    apply (h.complete r hr).append
    unfold inHour
    rw [List.filter_eq_nil_iff]
    intro b hb hin
    apply hother b hb
    rw [(windowOf_iff _ (by decide) (h.aligned r hr)).mpr (decide_eq_true_iff.mp hin)]
    exact List.mem_map_of_mem hr

theorem Settled.prune {w : World V} (h : Settled w) (now : Instant) :
    Settled (w.after (Store.prune now w.store).1 now) := by
  have hhourly : (w.after (Store.prune now w.store).1 now).hourly = w.hourly :=
    sized_prune w.own (by decide) now w.store
  have hever : (w.after (Store.prune now w.store).1 now).ever = w.ever := by
    show w.ever ++ sized w.own _ (appended w.store.buckets (w.store.buckets.filter _)) = _
    rw [appended_filter]
    exact List.append_nil _
  constructor
  · rw [hhourly]
    exact h.aligned
  · rw [hhourly, hever]
    exact h.complete

theorem Settled.step {w : World V} (h : Settled w) {job : Job V}
    (hsettled : HoursSettled w job) : Settled ((jobs mean readable).step w job) := by
  cases job with
  | recordEvent event detail now => exact h.idle now rfl rfl
  | recordSnapshot snap now => exact h.idle now rfl rfl
  | rollUp5min now => exact h.rollUp5min mean hsettled
  | rollHourly now => exact h.rollHourly mean hsettled
  | rollDaily now => exact h.idle now rfl rfl
  | prune now => exact h.prune now

/-!
## Main result
-/

/--
In every run of jobs that find their hours settled, every hourly row of the own node
carries the totals of all 5-minute rows of its hour that were ever stored.
-/
theorem hourly_rollup_complete {past : List (World V)} {w : World V}
    (hrun : (jobs mean readable).Run HoursSettled past w) :
    forall r, r ∈ w.hourly -> HourComplete w.ever r := by
  have hstart : forall w, (jobs mean readable).start w -> Settled w :=
    fun w hw => Settled.start hw
  have hstep : forall w job, Settled w -> HoursSettled w job ->
      Settled ((jobs mean readable).step w job) :=
    fun w job h hsettled => h.step mean readable hsettled
  exact (hrun.invariant hstart hstep).complete

end Steps

/-!
Two 5-minute rows of the first hour, and the integer mean, for concrete runs.
-/

def sampleBucket (windowStart samples : Int) : StatBucket Int :=
  { peerNodeId := "self"
    windowStart := windowStart
    windowEnd := windowStart + BUCKET_5MIN_SECS
    bucketSize := BUCKET_5MIN_SECS
    cpuAvg := some samples
    cpuMax := some samples
    memAvg := none
    memMax := none
    diskPctAvg := none
    netRxDelta := some 10
    netTxDelta := none
    samples := samples }

def integerMean (xs : List Int) : Int :=
  xs.sum / xs.length

def sampleWorld (buckets : List (StatBucket Int)) (events : List EventRow) : World Int :=
  { store :=
      { ownNodeId := "", events := events, raw := [], buckets := buckets, daily := [] }
    ever := sized "self" BUCKET_5MIN_SECS buckets
    clock := 0 }

/-- The roll-up runs after the cutoff has passed the whole hour. -/
theorem hourly_rollup_complete_settled :
    let w := (jobs integerMean (fun _ => true)).exec
      (sampleWorld [sampleBucket 0 30, sampleBucket 1800 12] [])
      [Job.rollHourly (hours 25), Job.prune (hours 800), Job.rollHourly (hours 801)]
    w.hourly.map StatBucket.samples = [42] ∧
      forall r, r ∈ w.hourly -> HourComplete w.ever r :=
  ⟨by decide,
    hourly_rollup_complete integerMean (fun _ => true)
      (Machine.Run.exec
        (show (jobs integerMean (fun _ => true)).Run HoursSettled []
            (sampleWorld [sampleBucket 0 30, sampleBucket 1800 12] []) from
          Machine.Run.start ⟨rfl, rfl, rfl⟩)
        [Job.rollHourly (hours 25), Job.prune (hours 800), Job.rollHourly (hours 801)]
        (by decide))⟩

/--
The roll-up runs when the cutoff is a quarter into the hour, and again later: the hour
keeps the totals of its first quarter.
-/
theorem hourly_rollup_partial :
    ¬ forall (mean : List Int -> Int) (readable : EventRow -> Bool)
      (past : List (World Int)) (w : World Int),
      (jobs mean readable).Run OnClock past w ->
        forall r, r ∈ w.hourly -> HourComplete w.ever r := by
  intro hclaim
  have hstart : (jobs integerMean (fun _ => true)).Run OnClock []
      (sampleWorld [sampleBucket 0 30, sampleBucket 1800 12] []) :=
    Machine.Run.start ⟨rfl, rfl, rfl⟩
  have hrun := hstart.exec
    [Job.rollHourly (hours 24 + 900 * microsPerSecond), Job.rollHourly (hours 26)]
    (by decide)
  have hcomplete := hclaim _ _ _ _ hrun
    (hourlyRow integerMean "self" 0 [sampleBucket 0 30]) (by decide)
  have hsamples := hcomplete.samples
  revert hsamples
  decide

end Store
end PanicMonitr
