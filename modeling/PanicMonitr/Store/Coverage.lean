import PanicMonitr.Store.Hourly
import PanicMonitr.Store.Payload
import PanicMonitr.Store.Tiers

/-!
# What a sync payload covers

Every tier lags behind the recording, and every query cuts off the window the gap starts
in.  A payload therefore covers its gap exactly when the tier of its strategy has got as
far as each snapshot of the gap, and the events of the gap are few enough.
-/

namespace PanicMonitr
namespace Store

open Foundation

variable {V : Type}

/-!
## The specification
-/

/-- Each snapshot recorded in the gap is represented, and each event is there. -/
structure Covers (w : Recording V) (since : Instant) (p : SyncPayload V) : Prop where
  snapshots : forall x, x ∈ w.snapshots -> since < x.1 -> p.Represents x
  events : forall x, x ∈ w.events -> since < x.1 -> x.2 ∈ p.events

/-- The snapshot is the last of its second, and of a time the query asks for. -/
def Latest (w : Recording V) (x : Instant × Snapshot V) : Prop :=
  w.lastOf (epochOf x.1) = some x.2 ∧ epochOf x.1 <= RAW_UNTIL

/--
The tier of the strategy has got as far as a snapshot, and the query does not cut it
off.  A raw row must be the last of its second; a window or date must not start before
that of the gap; and a row of the window must have been made, for hours and dates of any
snapshot in them.
-/
def TierReached (w : Recording V) (now : Instant) (lastSeen : Datetime) (since : Instant)
    (x : Instant × Snapshot V) : Prop :=
  match strategyFor (now - since) with
  | SyncStrategy.raw => Latest w x
  | SyncStrategy.fiveMinutes =>
      (epochOf (now - 30 * 60 * microsPerSecond) <= epochOf x.1 ∧ Latest w x) ∨
        (epochOf since <= windowOf BUCKET_5MIN_SECS (epochOf x.1) ∧
          windowOf BUCKET_5MIN_SECS (epochOf x.1) + BUCKET_5MIN_SECS <= w.rolledTo)
  | SyncStrategy.oneHour =>
      epochOf since <= windowOf BUCKET_1HOUR_SECS (epochOf x.1) ∧
        w.HourRolled (windowOf BUCKET_1HOUR_SECS (epochOf x.1))
  | SyncStrategy.daily =>
      localDate lastSeen <= dateOf (epochOf x.1) ∧ w.DateRolled (dateOf (epochOf x.1))

/-- Fewer events than the limit come before this one. -/
def EventReached (w : Recording V) (since : Instant) (e : EventRow) : Prop :=
  e.ts <= EVENTS_UNTIL ∧
    rowsBefore EventRow.ts e (eventsSince (epochOf since) w.store) < EVENT_LIMIT

/-!
## Seconds and windows
-/

theorem contains_iff {t : Instant} (ht : 0 <= t) (first last : Int) :
    first * microsPerSecond <= t ∧ t < last * microsPerSecond <->
      first <= epochOf t ∧ epochOf t < last := by
  have hlow : epochOf t * 1000000 <= t := by
    rw [epochOf_nonneg ht]
    exact Int.ediv_mul_le t (by decide)
  have hhigh := (epochOf_bounds t).right
  have hbounds : forall T : Int, epochOf t * 1000000 <= T -> T < epochOf t * 1000000 + 1000000 ->
      (first * 1000000 <= T ∧ T < last * 1000000 <-> first <= epochOf t ∧ epochOf t < last) := by
    intro T hT hT'
    omega
  exact hbounds t hlow hhigh

/-- A row of the right shape contains an instant when it is the row of its window. -/
theorem contains_window {size : Int} (hsize : 0 < size) {t : Instant} (ht : 0 <= t)
    {b : StatBucket V} (haligned : b.windowStart % size = 0)
    (hend : b.windowEnd = b.windowStart + size) :
    (SyncBucket.window b).Contains t <-> windowOf size (epochOf t) = b.windowStart := by
  rw [windowOf_iff (epochOf t) hsize haligned, ← hend]
  exact contains_iff ht _ _

theorem contains_day {t : Instant} (ht : 0 <= t) (r : DailyRow V) :
    (SyncBucket.day r).Contains t <-> dateOf (epochOf t) = r.date := by
  refine (contains_iff ht _ _).trans ?_
  unfold dateOf dayStart IST_OFFSET DAY_SECS
  omega

theorem since_le_millis {since t : Instant} (h : since < t) (ht : 0 <= t) :
    epochOf since * 1000 <= Int.tdiv t 1000 := by
  have hle := epochOf_le (Int.le_of_lt h)
  have hnow := epochOf_nonneg ht
  rw [Int.tdiv_eq_ediv_of_nonneg ht]
  have hseconds : forall T : Int, epochOf since <= T / 1000000 ->
      epochOf since * 1000 <= T / 1000 := by
    intro T hT
    omega
  apply hseconds
  rw [← hnow]
  exact hle

/-!
## The tiers of a sound recording
-/

section Recorded

variable {w : Recording V} {x : Instant × Snapshot V}

theorem window_represents {size : Int} (hsize : 0 < size) (since : Int) (hx : 0 <= x.1)
    (hshape : Shaped size w.store)
    (haligned : forall start, HasBucket w.store size start -> start % size = 0) :
    (exists b, b ∈ (getBuckets since size w.store).map SyncBucket.window ∧ b.Contains x.1) <->
      since <= windowOf size (epochOf x.1) ∧
        HasBucket w.store size (windowOf size (epochOf x.1)) := by
  constructor
  · intro h
    rcases h with ⟨b, hb, hcontains⟩
    rcases List.mem_map.mp hb with ⟨row, hrow, rfl⟩
    rcases mem_getBuckets.mp hrow with ⟨hstored, hsince⟩
    have hbucket : HasBucket w.store size row.windowStart :=
      hasBucket_iff.mpr ⟨row, hstored, rfl⟩
    have hwindow := (contains_window hsize hx (haligned _ hbucket)
      (hshape row hstored).left).mp hcontains
    rw [hwindow]
    exact ⟨hsince, hbucket⟩
  · intro h
    rcases h with ⟨hsince, hbucket⟩
    rcases hasBucket_iff.mp hbucket with ⟨row, hstored, hstart⟩
    rw [← hstart] at hsince hbucket
    refine ⟨SyncBucket.window row,
      List.mem_map.mpr ⟨row, mem_getBuckets.mpr ⟨hstored, hsince⟩, rfl⟩, ?_⟩
    exact (contains_window hsize hx (haligned _ hbucket)
      (hshape row hstored).left).mpr hstart.symm

theorem day_represents (sinceDate : Int) (hx : 0 <= x.1) :
    (exists b, b ∈ (getDailySummaries sinceDate w.store).map SyncBucket.day ∧
        b.Contains x.1) <->
      sinceDate <= dateOf (epochOf x.1) ∧ HasSummary w.store (dateOf (epochOf x.1)) := by
  constructor
  · intro h
    rcases h with ⟨b, hb, hcontains⟩
    rcases List.mem_map.mp hb with ⟨row, hrow, rfl⟩
    rcases mem_getDailySummaries.mp hrow with ⟨hstored, hown, hsince⟩
    rw [(contains_day hx row).mp hcontains]
    exact ⟨hsince, List.mem_map.mpr ⟨row, hstored, by rw [dailyKey, hown]⟩⟩
  · intro h
    rcases h with ⟨hsince, hsummary⟩
    rcases List.mem_map.mp hsummary with ⟨row, hstored, hkey⟩
    have hdate : row.date = dateOf (epochOf x.1) := (Prod.mk.inj hkey).right
    rw [← hdate] at hsince
    exact ⟨SyncBucket.day row, List.mem_map.mpr ⟨row,
        mem_getDailySummaries.mpr ⟨hstored, (Prod.mk.inj hkey).left, hsince⟩, rfl⟩,
      (contains_day hx row).mpr hdate.symm⟩

/-- A snapshot is among the raw rows from a second on that is not pruned yet. -/
theorem raw_represents (h : Tiered w) {since : Int}
    (hfrom : since <= epochOf x.1 -> w.rawFrom <= epochOf x.1) :
    (exists r, r ∈ getRawSnapshots since w.store ∧ r.ts = epochOf x.1 ∧ r.payload = x.2) <->
      since <= epochOf x.1 ∧ Latest w x := by
  constructor
  · intro hraw
    rcases hraw with ⟨r, hr, hts, hpayload⟩
    rcases mem_getRawSnapshots.mp hr with ⟨hin, hown, hsince, huntil⟩
    rw [hts] at hsince huntil
    exact ⟨hsince, ((h.raw _ _).mp ⟨r, hin, hown, hts, hpayload⟩).right, huntil⟩
  · intro hlatest
    rcases hlatest with ⟨hsince, hlast, huntil⟩
    rcases (h.raw (epochOf x.1) x.2).mpr ⟨hfrom hsince, hlast⟩ with ⟨r, hr, hown, hts, hpayload⟩
    rw [← hts] at hsince huntil
    exact ⟨r, mem_getRawSnapshots.mpr ⟨hr, hown, hsince, huntil⟩, hts, hpayload⟩

theorem aligned_five (h : Tiered w) (start : Int)
    (hbucket : HasBucket w.store BUCKET_5MIN_SECS start) : start % BUCKET_5MIN_SECS = 0 := by
  rcases (h.five start).mp hbucket with ⟨_, _, y, _, hstart⟩
  rw [← hstart]
  exact windowOf_aligned _ _

theorem aligned_hour (h : Tiered w) (start : Int)
    (hbucket : HasBucket w.store BUCKET_1HOUR_SECS start) : start % BUCKET_1HOUR_SECS = 0 := by
  rcases (h.hourly start).mp hbucket with ⟨y, _, hstart, _⟩
  rw [← hstart]
  exact windowOf_aligned _ _

theorem rawFrom_le (hmarks : Marks w) (hx : 0 <= x.1) {now : Instant} (hnow : w.clock <= now)
    {since : Int} (hrecent : rawCutoff now <= since) (hsince : since <= epochOf x.1) :
    w.rawFrom <= epochOf x.1 := by
  have hmark := hmarks.raw
  have hcutoff := (cutoffs_mono hnow).left
  have hepoch : 0 <= epochOf x.1 := Int.tdiv_nonneg hx (by decide)
  omega

/-- The 5-minute row of a snapshot, for a window of the last thirty days. -/
theorem hasBucket_five (h : Sound w) (hin : x ∈ w.snapshots) {now : Instant}
    (hnow : w.clock <= now) {since : Int} (hrecent : bucketCutoff now <= since)
    (hsince : since <= windowOf BUCKET_5MIN_SECS (epochOf x.1)) :
    HasBucket w.store BUCKET_5MIN_SECS (windowOf BUCKET_5MIN_SECS (epochOf x.1)) <->
      windowOf BUCKET_5MIN_SECS (epochOf x.1) + BUCKET_5MIN_SECS <= w.rolledTo := by
  rw [h.tiered.five]
  have hmark := h.marks.buckets
  have hcutoff := (cutoffs_mono hnow).right.left
  have hwindow := window_nonneg fiveMinutes_pos (h.marks.snapshots x hin).left
  constructor
  · intro hrolled
    exact hrolled.right.left
  · intro hto
    exact ⟨by omega, hto, x, hin, rfl⟩

end Recorded

/-!
## Coverage
-/

theorem cutoff_le_of_gap {now since : Instant} {span kept : Int} (hgap : now - since < span)
    (hkept : span <= kept) : epochOf (now - kept) <= epochOf since := by
  apply epochOf_le
  have hle : forall N S : Int, N - S < span -> N - kept <= S := by
    intro N S hNS
    omega
  exact hle now since hgap

theorem gap_raw {gap : Int} (h : strategyFor gap = SyncStrategy.raw) : gap < hours 1 := by
  unfold strategyFor at h
  split at h
  · assumption
  · split at h
    · cases h
    · split at h <;> cases h

theorem gap_fiveMinutes {gap : Int} (h : strategyFor gap = SyncStrategy.fiveMinutes) :
    gap < hours 24 := by
  unfold strategyFor at h
  split at h
  · cases h
  · split at h
    · assumption
    · split at h <;> cases h

theorem represents_iff {w : Recording V} (h : Sound w) {now : Instant} (hnow : w.clock <= now)
    (lastSeen : Datetime) {since : Instant} {x : Instant × Snapshot V} (hin : x ∈ w.snapshots)
    (hsince : since < x.1) :
    (syncPayload now lastSeen since w.store).Represents x <->
      TierReached w now lastSeen since x := by
  have hx := (h.marks.snapshots x hin).left
  have hafter : epochOf since <= epochOf x.1 := epochOf_le (Int.le_of_lt hsince)
  unfold SyncPayload.Represents syncPayload TierReached
  cases hstrategy : strategyFor (now - since) with
  | raw =>
      have hrecent : rawCutoff now <= epochOf since :=
        cutoff_le_of_gap (gap_raw hstrategy) (by decide)
      simp only [List.not_mem_nil, false_and, exists_false, or_false]
      rw [raw_represents h.tiered (rawFrom_le h.marks hx hnow hrecent)]
      exact and_iff_right hafter
  | fiveMinutes =>
      have hrecent : bucketCutoff now <= epochOf since :=
        cutoff_le_of_gap (gap_fiveMinutes hstrategy) (by decide)
      have hhalf : rawCutoff now <= epochOf (now - 30 * 60 * microsPerSecond) :=
        epochOf_le (Int.sub_le_sub_left (by decide) now)
      simp only
      rw [raw_represents h.tiered (rawFrom_le h.marks hx hnow hhalf),
        window_represents fiveMinutes_pos _ hx h.tiered.fiveShape (aligned_five h.tiered)]
      apply or_congr_right
      apply and_congr_right
      exact hasBucket_five h hin hnow hrecent
  | oneHour =>
      simp only [List.not_mem_nil, false_and, exists_false, false_or]
      rw [window_represents oneHour_pos _ hx h.tiered.hourShape (aligned_hour h.tiered),
        h.tiered.hourly]
  | daily =>
      simp only [List.not_mem_nil, false_and, exists_false, false_or]
      rw [day_represents _ hx, h.tiered.daily]

theorem dailyCutoff_le (now : Instant) : dailyCutoff now + DAY_SECS <= hourlyCutoff now := by
  have hdaily : dailyCutoff now * 1000000 < now - 604800000000 + 1000000 :=
    (epochOf_bounds (now - days 7)).left
  have hhourly : -(hourlyCutoff now * 1000000 + 1000000) < -(now - 86400000000) :=
    Int.neg_lt_neg (epochOf_bounds (now - hours 24)).right
  unfold DAY_SECS
  omega

/--
The hourly rows and the daily summaries are at least a day late: with a gap of a day or
more, no snapshot of its last 23 hours is represented.
-/
theorem recent_not_represented {w : Recording V} (h : Sound w) {now : Instant}
    (hnow : w.clock <= now) (lastSeen : Datetime) {since : Instant}
    {x : Instant × Snapshot V} (hin : x ∈ w.snapshots) (hsince : since < x.1)
    (hgap : hours 24 <= now - since)
    (hrecent : hourlyCutoff now + BUCKET_1HOUR_SECS <= epochOf x.1) :
    ¬ (syncPayload now lastSeen since w.store).Represents x := by
  rw [represents_iff h hnow lastSeen hin hsince]
  rcases cutoffs_mono hnow with ⟨_, _, hhourly, hdaily⟩
  unfold TierReached
  cases hstrategy : strategyFor (now - since) with
  | raw =>
      have hshort := gap_raw hstrategy
      exact absurd (Int.lt_of_le_of_lt hgap hshort) (by decide)
  | fiveMinutes => exact absurd (gap_fiveMinutes hstrategy) (Int.not_lt.mpr hgap)
  | oneHour =>
      intro hreached
      rcases hreached with ⟨_, y, hy, hhour, hto⟩
      have hmark := h.marks.hourlyTo
      have hpos := window_nonneg fiveMinutes_pos (h.marks.snapshots y hy).left
      have hfirst := (windowOf_le oneHour_pos (windowOf BUCKET_5MIN_SECS (epochOf y.1))).left
      have hlast := (windowOf_le oneHour_pos (epochOf x.1)).right
      rw [windowOf_windowOf, hhour] at hfirst
      omega
  | daily =>
      intro hreached
      rcases hreached with ⟨_, y, hy, hdate, hto⟩
      have hmark := h.marks.dailyTo
      have hpos := window_nonneg oneHour_pos (h.marks.snapshots y hy).left
      have hcutoffs := dailyCutoff_le now
      unfold dateOf IST_OFFSET DAY_SECS at hdate
      unfold DAY_SECS at hcutoffs
      unfold BUCKET_1HOUR_SECS at *
      omega

theorem mem_events_iff {w : Recording V} (h : Sound w) (now : Instant) (lastSeen : Datetime)
    {since : Instant} {x : Instant × EventRow} (hin : x ∈ w.events) (hsince : since < x.1) :
    x.2 ∈ (syncPayload now lastSeen since w.store).events <-> EventReached w since x.2 := by
  have hevents : (syncPayload now lastSeen since w.store).events =
      getEventsSince (epochOf since) w.store := by
    unfold syncPayload
    cases strategyFor (now - since) <;> rfl
  rcases h.events.kept x hin with ⟨hstored, hown, hts⟩
  have hmillis := since_le_millis hsince (h.events.times x hin)
  rw [← hts] at hmillis
  rw [hevents, mem_getEventsSince, eventsSince, List.mem_filter, decide_eq_true_iff]
  constructor
  · intro hmem
    exact ⟨hmem.left.right.right.right, hmem.right⟩
  · intro hreached
    exact ⟨⟨hstored, hown, hmillis, hreached.left⟩, hreached.right⟩

/--
On schedule, at any time and for any gap: the payload covers the gap exactly when the
tier of its strategy has reached each snapshot and the limit leaves out no event.
-/
theorem getSyncPayload_covers_iff [LinearOrder V] (mean : List V -> V)
    (readable : EventRow -> Bool) {w : Recording V}
    (hreach : (recordings mean readable).Reachable OnSchedule w) {now : Instant}
    (hnow : w.clock <= now) {lastSeen : Datetime} {since : Instant}
    (haware : lastSeen.instant? = some since) :
    exists payload, getSyncPayload now lastSeen w.store = some payload ∧
      (Covers w since payload <->
        (forall x, x ∈ w.snapshots -> since < x.1 -> TierReached w now lastSeen since x) ∧
          forall x, x ∈ w.events -> since < x.1 -> EventReached w since x.2) := by
  have hsound := sound_of_reachable mean readable hreach
  refine ⟨syncPayload now lastSeen since w.store, ?_, ?_⟩
  · rw [getSyncPayload, haware]
    rfl
  · constructor
    · intro hcovers
      constructor
      · intro x hx hsince
        exact (represents_iff hsound hnow lastSeen hx hsince).mp (hcovers.snapshots x hx hsince)
      · intro x hx hsince
        exact (mem_events_iff hsound now lastSeen hx hsince).mp (hcovers.events x hx hsince)
    · intro hreached
      constructor
      · intro x hx hsince
        exact (represents_iff hsound hnow lastSeen hx hsince).mpr (hreached.left x hx hsince)
      · intro x hx hsince
        exact (mem_events_iff hsound now lastSeen hx hsince).mpr (hreached.right x hx hsince)

/-!
A node that has run for ten minutes: a snapshot and an event on the second of February
1970, at 23:00 UTC, rolled up five minutes later.
-/

def tenMinutesIn : Recording Int where
  store := { ownNodeId := "", events := [], raw := [], buckets := [], daily := [] }
  clock := days 31 + hours 47
  snapshots := []
  events := []
  rawFrom := 0
  bucketsFrom := 0
  rolledTo := 0
  hourlyTo := -1
  dailyTo := -1

def firstSnapshot : Snapshot Int where
  cpuPercent := some 12
  memPercent := some 40
  diskPercent := none
  netRecvBytes := some 900
  netSentBytes := some 300

def firstJobs : List (Job Int) :=
  [Job.recordSnapshot firstSnapshot (days 31 + hours 47),
    Job.recordEvent EV_CONTAINER_EXITED none (days 31 + hours 47),
    Job.rollUp5min (days 31 + hours 47 + 300 * microsPerSecond)]

def firstRun : Recording Int :=
  (recordings integerMean (fun _ => true)).exec tenMinutesIn firstJobs

theorem firstRun_reachable :
    (recordings integerMean (fun _ => true)).Reachable OnSchedule firstRun := by
  have hstart : (recordings integerMean (fun _ => true)).Run OnSchedule [] tenMinutesIn := by
    apply Machine.Run.start
    constructor
    · decide
    · rfl
    · rfl
    · exact ⟨rfl, rfl, rfl, rfl, rfl⟩
    · intro r hr
      cases hr
    · intro r hr
      cases hr
    · intro r hr
      cases hr
    · intro e he
      cases he
    · exact List.nodup_nil
  refine ⟨_, hstart.exec firstJobs ⟨⟨?_, ?_⟩, ⟨?_, ?_⟩, ⟨?_, ?_⟩, ?_⟩⟩
  · exact Int.le_refl _
  · trivial
  · exact Int.le_refl _
  · exact fun h => nomatch h
  · decide
  · trivial
  · trivial

/-- 17:10 on the first of February, 30 hours before the end of the run. -/
def dayBefore : Datetime where
  year := 1970
  month := 2
  day := 1
  hour := 17
  minute := 10
  second := 0
  microsecond := 0
  utcoffset := some 0
  hyear := by decide
  hmonth := by decide
  hday := by decide
  htime := by decide
  hoffset := offset_some (by decide)

def hourBefore : Datetime :=
  { dayBefore with
    day := 2
    hour := 22
    minute := 30
    hday := by decide
    htime := by decide }

/-- A peer that was away for 30 hours gets nothing of the snapshot. -/
theorem getSyncPayload_misses_recent :
    ¬ forall (mean : List Int -> Int) (readable : EventRow -> Bool) (w : Recording Int)
      (now : Instant) (lastSeen : Datetime) (since : Instant),
      (recordings mean readable).Reachable OnSchedule w -> w.clock <= now ->
        lastSeen.instant? = some since -> since < now ->
          exists payload, getSyncPayload now lastSeen w.store = some payload ∧
            Covers w since payload := by
  intro hclaim
  have haware : dayBefore.instant? = some (days 31 + hours 17 + 600 * microsPerSecond) := by
    decide
  rcases hclaim integerMean (fun _ => true) firstRun (days 31 + hours 47 + 600 * microsPerSecond)
    dayBefore (days 31 + hours 17 + 600 * microsPerSecond) firstRun_reachable (by decide) haware
    (by decide) with ⟨payload, hpayload, hcovers⟩
  rw [getSyncPayload, haware] at hpayload
  have hsnapshot : (days 31 + hours 47, firstSnapshot) ∈ firstRun.snapshots := List.mem_cons_self
  have hrepresents := hcovers.snapshots _ hsnapshot (by decide)
  rw [← Option.some.inj hpayload] at hrepresents
  have hsound := sound_of_reachable integerMean (fun _ => true) firstRun_reachable
  exact recent_not_represented hsound (by decide) _ hsnapshot (by decide) (by decide)
    (by decide) hrepresents

/-- A peer that was away for 40 minutes gets all of it. -/
theorem getSyncPayload_covers_recent :
    exists payload,
      getSyncPayload (days 31 + hours 47 + 600 * microsPerSecond) hourBefore firstRun.store =
          some payload ∧
        Covers firstRun (days 31 + hours 46 + 1800 * microsPerSecond) payload := by
  rcases getSyncPayload_covers_iff integerMean (fun _ => true) firstRun_reachable
    (show firstRun.clock <= days 31 + hours 47 + 600 * microsPerSecond by decide)
    (show hourBefore.instant? = some (days 31 + hours 46 + 1800 * microsPerSecond) by decide) with
    ⟨payload, hpayload, hcovers⟩
  refine ⟨payload, hpayload, hcovers.mpr ⟨?_, ?_⟩⟩
  · intro x hx _
    rw [List.mem_singleton.mp hx]
    exact ⟨rfl, by decide⟩
  · intro x hx _
    rw [List.mem_singleton.mp hx]
    exact ⟨by decide, by decide⟩

end Store
end PanicMonitr
