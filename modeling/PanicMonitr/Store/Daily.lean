import PanicMonitr.Store.Hourly

/-!
# Completeness of the daily summaries

A summary is written once as well.  It is right when all hours of its date were rolled
up and old enough, when the event query was not cut at its limit, and when nothing
happened exactly at the midnight the query includes at its upper end.
-/

namespace PanicMonitr
namespace Store

open Foundation

variable {V : Type}

/-!
## The specification
-/

def onDate (date : Int) (rows : List (StatBucket V)) : List (StatBucket V) :=
  rows.filter (fun r => decide (dateOf r.windowStart = date))

def incidentsOn (own : String) (date : Int) (events : List EventRow) : Nat :=
  events.countP (fun e =>
    decide (e.peerNodeId = own ∧ dateOf (e.ts / 1000) = date) && isIncident e)

structure DayComplete (mean : List V -> V) (w : World V) (r : DailyRow V) : Prop where
  avgCpu : r.avgCpu = avgOf mean
    ((orderBy StatBucket.windowStart (onDate r.date w.hourly)).filterMap StatBucket.cpuAvg)
  avgMem : r.avgMem = avgOf mean
    ((orderBy StatBucket.windowStart (onDate r.date w.hourly)).filterMap StatBucket.memAvg)
  incidents : r.incidents = incidentsOn w.own r.date w.store.events

def summarised (w : World V) : List Int :=
  w.summaries.map DailyRow.date

/-- The own events between the two midnights of a date, both included. -/
def dayEvents (w : World V) (date : Int) : List EventRow :=
  w.store.events.filter (fun e =>
    decide (e.peerNodeId = w.own ∧ dayStart date * 1000 <= e.ts ∧
      e.ts <= dayStart (date + 1) * 1000))

structure DaySettled (readable : EventRow -> Bool) (cutoff : Int) (w : World V)
    (date : Int) : Prop where
  past : forall b, b ∈ onDate date w.hourly -> b.windowStart <= cutoff
  few : (dayEvents w date).length <= EVENT_LIMIT
  readable : forall e, e ∈ dayEvents w date -> readable e = true
  midnight : forall e, e ∈ dayEvents w date -> isIncident e = true ->
    e.ts ≠ dayStart (date + 1) * 1000

/--
What a job must find: a new summary only for a settled date, and no new hourly row on
a date that already has its summary.
-/
def DaysSettled (readable : EventRow -> Bool) (w : World V) : Job V -> Prop
  | Job.rollDaily now =>
      forall b, b ∈ w.hourly -> b.windowStart <= dailyCutoff now ->
        dateOf b.windowStart ∉ summarised w ->
        DaySettled readable (dailyCutoff now) w (dateOf b.windowStart)
  | Job.rollHourly now =>
      forall b, b ∈ w.fiveMinute -> b.windowStart <= hourlyCutoff now ->
        windowOf BUCKET_1HOUR_SECS b.windowStart ∉ rolledHours w ->
        dateOf (windowOf BUCKET_1HOUR_SECS b.windowStart) ∉ summarised w
  | _ => True

instance (readable : EventRow -> Bool) (cutoff : Int) (w : World V) (date : Int) :
    Decidable (DaySettled readable cutoff w date) :=
  decidable_of_iff
    ((forall b, b ∈ onDate date w.hourly -> b.windowStart <= cutoff) ∧
      (dayEvents w date).length <= EVENT_LIMIT ∧
      (forall e, e ∈ dayEvents w date -> readable e = true) ∧
      (forall e, e ∈ dayEvents w date -> isIncident e = true ->
        e.ts ≠ dayStart (date + 1) * 1000))
    ⟨fun ⟨a, b, c, d⟩ => ⟨a, b, c, d⟩, fun ⟨a, b, c, d⟩ => ⟨a, b, c, d⟩⟩

instance (readable : EventRow -> Bool) (w : World V) (job : Job V) :
    Decidable (DaysSettled readable w job) :=
  match job with
  | Job.rollDaily now =>
      inferInstanceAs (Decidable (forall b, b ∈ w.hourly ->
        b.windowStart <= dailyCutoff now -> dateOf b.windowStart ∉ summarised w ->
        DaySettled readable (dailyCutoff now) w (dateOf b.windowStart)))
  | Job.rollHourly now =>
      inferInstanceAs (Decidable (forall b, b ∈ w.fiveMinute ->
        b.windowStart <= hourlyCutoff now ->
        windowOf BUCKET_1HOUR_SECS b.windowStart ∉ rolledHours w ->
        dateOf (windowOf BUCKET_1HOUR_SECS b.windowStart) ∉ summarised w))
  | Job.recordEvent _ _ _ => isTrue trivial
  | Job.recordSnapshot _ _ => isTrue trivial
  | Job.rollUp5min _ => isTrue trivial
  | Job.prune _ => isTrue trivial

/-!
## Dates and midnights
-/

theorem dateOf_eq_iff {ts date : Int} :
    dateOf (ts / 1000) = date <->
      dayStart date * 1000 <= ts ∧ ts < dayStart (date + 1) * 1000 := by
  unfold dateOf dayStart IST_OFFSET DAY_SECS
  omega

theorem dayStart_le_of_cutoff {now : Instant} {ts : Int} (hcutoff : ts <= dailyCutoff now) :
    dayStart (dateOf ts + 1) * microsPerSecond <= now := by
  have hday : dayStart (dateOf ts + 1) <= ts + 86400 := by
    unfold dayStart dateOf IST_OFFSET DAY_SECS
    omega
  have hcut : dailyCutoff now * microsPerSecond <= now - days 7 + microsPerSecond := by
    unfold dailyCutoff epochOf microsPerSecond
    rw [Int.tdiv_eq_ediv]
    split
    · omega
    · have hsign : Int.sign 1000000 = 1 := rfl
      rw [hsign]
      omega
  unfold days hours at hcut
  unfold microsPerSecond at hcut ⊢
  omega

theorem dateOf_recorded_ne {now : Instant} {date : Int}
    (hover : dayStart (date + 1) * microsPerSecond <= now) :
    dateOf (now.tdiv 1000 / 1000) ≠ date := by
  intro heq
  have hmillis : dayStart (date + 1) * 1000 <= now.tdiv 1000 := by
    have hmono := Int.tdiv_le_tdiv (c := 1000) (by decide) hover
    have hmicros : dayStart (date + 1) * microsPerSecond =
        dayStart (date + 1) * 1000 * 1000 := by
      rw [Int.mul_assoc]
      rfl
    rw [hmicros, Int.mul_tdiv_cancel _ (by decide)] at hmono
    exact hmono
  have hlt := (dateOf_eq_iff.mp heq).right
  omega

/-!
## The event query
-/

/-- On a settled date the query counts exactly the incidents of the date. -/
theorem incidentCount_eq {readable : EventRow -> Bool} {cutoff : Int} {w : World V}
    {date : Int} (h : DaySettled readable cutoff w date) :
    incidentCount readable date w.store = incidentsOn w.own date w.store.events := by
  have hquery : getEvents (dayStart date) (dayStart (date + 1)) EVENT_LIMIT w.own w.store =
      orderBy EventRow.ts (dayEvents w date) := by
    unfold getEvents
    apply List.take_of_length_le
    rw [(orderBy_perm _ _).length_eq]
    exact h.few
  have hall : (orderBy EventRow.ts (dayEvents w date)).all readable = true := by
    rw [List.all_eq_true]
    intro e he
    exact h.readable e (mem_orderBy.mp he)
  unfold incidentCount
  rw [show w.store.own = w.own from rfl, hquery]
  simp only [hall, if_true]
  rw [(orderBy_perm _ _).countP_eq, dayEvents, List.countP_filter, incidentsOn]
  congr 1
  apply List.countP_congr
  intro e he
  simp only [Bool.and_eq_true, decide_eq_true_eq, dateOf_eq_iff]
  constructor
  · rintro ⟨hincident, hown, hlow, hhigh⟩
    have hne := h.midnight e
      (List.mem_filter.mpr ⟨he, decide_eq_true ⟨hown, hlow, hhigh⟩⟩) hincident
    exact ⟨⟨hown, hlow, by omega⟩, hincident⟩
  · rintro ⟨⟨hown, hlow, hhigh⟩, hincident⟩
    exact ⟨hincident, hown, hlow, by omega⟩

/-!
## The invariant
-/

structure Summarised (mean : List V -> V) (w : World V) : Prop where
  complete : forall r, r ∈ w.summaries -> DayComplete mean w r
  ended : forall r, r ∈ w.summaries -> dayStart (r.date + 1) * microsPerSecond <= w.clock

section Steps

variable (mean : List V -> V) (readable : EventRow -> Bool)

theorem onDate_append (date : Int) (rows rows' : List (StatBucket V)) :
    onDate date (rows ++ rows') = onDate date rows ++ onDate date rows' :=
  List.filter_append rows rows'

theorem Summarised.start {w : World V} (hstart : w.Start) : Summarised mean w := by
  rcases hstart with ⟨_, _, hsummaries⟩
  constructor
  · rw [hsummaries]
    exact fun r hr => by cases hr
  · rw [hsummaries]
    exact fun r hr => by cases hr

/-- A job that keeps the summaries, the hours of their dates and their incidents. -/
theorem Summarised.keep {w w' : World V} (h : Summarised mean w)
    (hclock : w.clock <= w'.clock) (hown : w'.own = w.own)
    (hsummaries : w'.summaries = w.summaries)
    (hhourly : forall date, date ∈ summarised w ->
      onDate date w'.hourly = onDate date w.hourly)
    (hincidents : forall date, date ∈ summarised w ->
      incidentsOn w.own date w'.store.events = incidentsOn w.own date w.store.events) :
    Summarised mean w' := by
  constructor
  · rw [hsummaries]
    intro r hr
    have hdate : r.date ∈ summarised w := List.mem_map_of_mem hr
    rcases h.complete r hr with ⟨hcpu, hmem, hinc⟩
    constructor
    · rw [hhourly r.date hdate]
      exact hcpu
    · rw [hhourly r.date hdate]
      exact hmem
    · rw [hown, hincidents r.date hdate]
      exact hinc
  · rw [hsummaries]
    exact fun r hr => Int.le_trans (h.ended r hr) hclock

theorem Summarised.recordEvent {w : World V} (h : Summarised mean w) {now : Instant}
    (htime : w.clock <= now) (event : String) (detail : Option String) :
    Summarised mean (w.after (Store.recordEvent event detail now w.store) now) := by
  refine h.keep mean htime rfl rfl (fun _ _ => rfl) ?_
  intro date hdate
  rcases List.mem_map.mp hdate with ⟨r, hr, hrdate⟩
  have hover := Int.le_trans (h.ended r hr) htime
  rw [hrdate] at hover
  have hne := dateOf_recorded_ne hover
  show incidentsOn w.own date (insertOrIgnore eventKey w.store.events _) = _
  unfold insertOrIgnore
  split
  · rfl
  · unfold incidentsOn
    rw [List.countP_append]
    simp [hne]

/-- On a settled date `roll_daily` sees every hourly row, in window order. -/
theorem dayGroup_eq {w : World V} {now : Instant} {day : Int × List (StatBucket V)}
    (hday : day ∈ dayGroups now w.store)
    (hsettled : DaySettled readable (dailyCutoff now) w day.1) :
    day.2 = orderBy StatBucket.windowStart (onDate day.1 w.hourly) := by
  rcases Assoc.mem_groupBy_iff.mp hday with ⟨hgroup, _⟩
  rw [hgroup, eligible, filter_orderBy, List.filter_filter]
  congr 1
  apply List.filter_congr
  intro b hb
  by_cases hdate : dateOf b.windowStart = day.1
  · have hle := hsettled.past b (List.mem_filter.mpr ⟨hb, decide_eq_true hdate⟩)
    simp [hdate, hle]
  · simp [hdate]

theorem nodup_dailyRows (now : Instant) (s : LogStore V) :
    (((dayGroups now s).map (fun day => dailyRow mean readable s day.1 day.2)).map
      dailyKey).Nodup := by
  have hkeys := Assoc.nodup_keys_groupBy
    (fun r : StatBucket V => dateOf r.windowStart)
    (eligible BUCKET_1HOUR_SECS (dailyCutoff now) s)
  rw [List.map_map]
  refine List.Nodup.of_map (fun k : String × Int => k.2) ?_
  rw [List.map_map]
  exact hkeys

theorem Summarised.rollDaily {w : World V} (h : Summarised mean w) {now : Instant}
    (htime : w.clock <= now) (hsettled : DaysSettled readable w (Job.rollDaily now)) :
    Summarised mean (w.after (Store.rollDaily mean readable now w.store).1 now) := by
  let w' := w.after (Store.rollDaily mean readable now w.store).1 now
  have hnew : forall r, r ∈ w'.summaries -> r ∈ w.summaries ∨
      (DayComplete mean w r ∧ dayStart (r.date + 1) * microsPerSecond <= now) := by
    intro r hr
    rcases List.mem_filter.mp hr with ⟨hin, hown⟩
    rcases (mem_insertMany (nodup_dailyRows mean readable now w.store)).mp hin with
      hold | ⟨hbuilt, hfree⟩
    · exact Or.inl (List.mem_filter.mpr ⟨hold, hown⟩)
    · right
      rcases List.mem_map.mp hbuilt with ⟨day, hday, rfl⟩
      rcases Assoc.mem_groupBy_iff.mp hday with ⟨hgroup, hne⟩
      rcases List.exists_mem_of_ne_nil _ hne with ⟨b, hb⟩
      rw [hgroup] at hb
      rcases List.mem_filter.mp hb with ⟨helig, hkey⟩
      rcases List.mem_filter.mp (mem_orderBy.mp helig) with ⟨hstored, hle⟩
      have hdate : dateOf b.windowStart = day.1 := decide_eq_true_iff.mp hkey
      have hcutoff : b.windowStart <= dailyCutoff now := decide_eq_true_iff.mp hle
      have hready : DaySettled readable (dailyCutoff now) w day.1 := by
        rw [← hdate]
        apply hsettled b hstored hcutoff
        rw [hdate]
        intro htaken
        rcases List.mem_map.mp htaken with ⟨r', hr', hdate'⟩
        rcases List.mem_filter.mp hr' with ⟨hin', hown'⟩
        refine hfree (List.mem_map.mpr ⟨r', hin', ?_⟩)
        unfold dailyKey
        rw [decide_eq_true_iff.mp hown', hdate']
        rfl
      have hrows := dayGroup_eq readable hday hready
      constructor
      · constructor
        · show avgOf mean (day.2.filterMap StatBucket.cpuAvg) = _
          rw [hrows]
          rfl
        · show avgOf mean (day.2.filterMap StatBucket.memAvg) = _
          rw [hrows]
          rfl
        · exact incidentCount_eq hready
      · show dayStart (day.1 + 1) * microsPerSecond <= now
        rw [← hdate]
        exact dayStart_le_of_cutoff hcutoff
  constructor
  · intro r hr
    rcases hnew r hr with hold | ⟨hcomplete, _⟩
    · rcases h.complete r hold with ⟨hcpu, hmem, hinc⟩
      exact ⟨hcpu, hmem, hinc⟩
    · rcases hcomplete with ⟨hcpu, hmem, hinc⟩
      exact ⟨hcpu, hmem, hinc⟩
  · intro r hr
    rcases hnew r hr with hold | ⟨_, hover⟩
    · exact Int.le_trans (h.ended r hold) htime
    · exact hover

variable [LinearOrder V]

theorem Summarised.rollHourly {w : World V} (h : Summarised mean w) {now : Instant}
    (htime : w.clock <= now) (hsettled : DaysSettled readable w (Job.rollHourly now)) :
    Summarised mean (w.after (Store.rollHourly mean now w.store).1 now) := by
  refine h.keep mean htime rfl rfl ?_ (fun _ _ => rfl)
  intro date hdate
  have hhourly : (w.after (Store.rollHourly mean now w.store).1 now).hourly =
      w.hourly ++ sized w.own BUCKET_1HOUR_SECS
        ((hourlyRows mean now w.store).filter (isFree bucketKey w.store.buckets)) := by
    show sized w.own _ (insertMany bucketKey w.store.buckets _) = _
    rw [insertMany_eq bucketKey (nodup_hourlyRows mean now w.store), sized_append]
    rfl
  rw [hhourly, onDate_append]
  refine List.append_right_eq_self.mpr ?_
  unfold onDate
  rw [List.filter_eq_nil_iff]
  intro r hr hin
  -- a new row on this date would need an hour the job must not find
  have hnew : r ∈ (Store.rollHourly mean now w.store).1.buckets ∧ r ∉ w.hourly := by
    rcases mem_sized.mp hr with ⟨hfree, hown, hsize⟩
    rcases List.mem_filter.mp hfree with ⟨hbuilt, hkey⟩
    refine ⟨(mem_insertMany (nodup_hourlyRows mean now w.store)).mpr
      (Or.inr ⟨hbuilt, isFree_iff.mp hkey⟩), ?_⟩
    intro hold
    exact isFree_iff.mp hkey (List.mem_map_of_mem (mem_sized.mp hold).left)
  rcases mem_sized.mp hr with ⟨_, hown, hsize⟩
  rcases (mem_hourly_rollHourly mean now w.store).mp
    (mem_sized.mpr ⟨hnew.left, hown, hsize⟩) with hold | ⟨hbuilt, hfree⟩
  · exact hnew.right hold
  · rcases mem_hourlyRows mean hbuilt with ⟨hour, hhour, _, hrow⟩
    rcases Assoc.mem_groupBy_iff.mp hhour with ⟨hgroup, hne⟩
    rcases List.exists_mem_of_ne_nil _ hne with ⟨b, hb⟩
    rw [hgroup] at hb
    rcases List.mem_filter.mp hb with ⟨helig, hkey⟩
    rcases List.mem_filter.mp (mem_orderBy.mp helig) with ⟨hstored, hle⟩
    have hstart : windowOf BUCKET_1HOUR_SECS b.windowStart = r.windowStart := by
      rw [hrow]
      exact decide_eq_true_iff.mp hkey
    have hnot := hsettled b hstored (decide_eq_true_iff.mp hle)
      (by rw [hstart]; exact hfree)
    rw [hstart, decide_eq_true_iff.mp hin] at hnot
    exact hnot hdate

theorem Summarised.step {w : World V} (h : Summarised mean w) {job : Job V}
    (htime : OnClock w job) (hsettled : DaysSettled readable w job) :
    Summarised mean ((jobs mean readable).step w job) := by
  cases job with
  | recordEvent event detail now => exact h.recordEvent mean htime event detail
  | recordSnapshot snap now =>
      exact h.keep mean htime rfl rfl (fun _ _ => rfl) (fun _ _ => rfl)
  | rollUp5min now =>
      refine h.keep mean htime rfl rfl (fun date _ => ?_) (fun _ _ => rfl)
      exact congrArg (onDate date) (sized_rollUp5min mean w.own (by decide) now w.store)
  | rollHourly now => exact h.rollHourly mean readable htime hsettled
  | rollDaily now => exact h.rollDaily mean readable htime hsettled
  | prune now =>
      refine h.keep mean htime rfl rfl (fun date _ => ?_) (fun _ _ => rfl)
      exact congrArg (onDate date) (sized_prune w.own (by decide) now w.store)

/-!
## Main result
-/

/--
In every run at nondecreasing times whose jobs find their dates settled, every summary
of the own node is made of all its hourly rows and counts each of its incidents.
-/
theorem daily_summaries_complete {past : List (World V)} {w : World V}
    (hrun : (jobs mean readable).Run
      (fun w job => OnClock w job ∧ DaysSettled readable w job) past w) :
    forall r, r ∈ w.summaries -> DayComplete mean w r := by
  have hstart : forall w, (jobs mean readable).start w -> Summarised mean w :=
    fun w hw => Summarised.start mean hw
  have hstep : forall w job, Summarised mean w ->
      OnClock w job ∧ DaysSettled readable w job ->
      Summarised mean ((jobs mean readable).step w job) :=
    fun w job h hguard => h.step mean readable hguard.left hguard.right
  exact (hrun.invariant hstart hstep).complete

end Steps

def sampleExit (ts : Int) : EventRow :=
  { peerNodeId := "self", ts := ts, event := EV_CONTAINER_EXITED, detail := none }

/-- Two hours and one incident of a date, summarised nine days later. -/
theorem daily_summaries_complete_settled :
    let w := (jobs integerMean (fun _ => true)).exec
      (sampleWorld [sampleBucket 0 30, sampleBucket 3600 12] [sampleExit 5000])
      [Job.rollHourly (hours 26), Job.rollDaily (days 9), Job.rollDaily (days 10)]
    w.summaries.map DailyRow.incidents = [1] ∧
      forall r, r ∈ w.summaries -> DayComplete integerMean w r :=
  ⟨by decide,
    daily_summaries_complete integerMean (fun _ => true)
      (Machine.Run.exec
        (show (jobs integerMean (fun _ => true)).Run
            (fun w job => OnClock w job ∧ DaysSettled (fun _ => true) w job) []
            (sampleWorld [sampleBucket 0 30, sampleBucket 3600 12] [sampleExit 5000]) from
          Machine.Run.start ⟨rfl, rfl, rfl⟩)
        [Job.rollHourly (hours 26), Job.rollDaily (days 9), Job.rollDaily (days 10)]
        (by decide))⟩

/-- The daily job runs when only the first of two hours of a date is a week old. -/
theorem daily_summaries_partial :
    ¬ forall (mean : List Int -> Int) (readable : EventRow -> Bool)
      (past : List (World Int)) (w : World Int),
      (jobs mean readable).Run OnClock past w ->
        forall r, r ∈ w.summaries -> DayComplete mean w r := by
  intro hclaim
  have hstart : (jobs integerMean (fun _ => true)).Run OnClock []
      (sampleWorld [sampleBucket 0 30, sampleBucket 3600 12] []) :=
    Machine.Run.start ⟨rfl, rfl, rfl⟩
  have hrun := hstart.exec
    [Job.rollHourly (hours 26), Job.rollDaily (days 7 + 1800 * microsPerSecond),
      Job.rollDaily (days 8)]
    (by decide)
  have hcomplete := hclaim _ _ _ _ hrun
    { peerNodeId := "self", date := 0, uptimePct := none, avgCpu := some 30,
      avgMem := none, incidents := 0 } (by decide)
  have hcpu := hcomplete.avgCpu
  revert hcpu
  decide

end Store
end PanicMonitr
