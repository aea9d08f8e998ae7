import PanicMonitr.Foundation.Machine
import PanicMonitr.Store.LogStore

/-!
# Runs of the store's jobs

The machine whose events are the calls on a log store, at any clock readings.  It
remembers every 5-minute bucket of the own node that was ever stored.
-/

namespace PanicMonitr
namespace Store

open Foundation

variable {V : Type}

inductive Job (V : Type) where
  | recordEvent (event : String) (detail : Option String) (now : Instant)
  | recordSnapshot (snap : Snapshot V) (now : Instant)
  | rollUp5min (now : Instant)
  | rollHourly (now : Instant)
  | rollDaily (now : Instant)
  | prune (now : Instant)

namespace Job

def now : Job V -> Instant
  | recordEvent _ _ now => now
  | recordSnapshot _ now => now
  | rollUp5min now => now
  | rollHourly now => now
  | rollDaily now => now
  | prune now => now

def run [LinearOrder V] (mean : List V -> V) (readable : EventRow -> Bool)
    (s : LogStore V) : Job V -> LogStore V
  | recordEvent event detail now => Store.recordEvent event detail now s
  | recordSnapshot snap now => Store.recordSnapshot snap now s
  | rollUp5min now => (Store.rollUp5min mean now s).1
  | rollHourly now => (Store.rollHourly mean now s).1
  | rollDaily now => (Store.rollDaily mean readable now s).1
  | prune now => (Store.prune now s).1

end Job

/-- `ever` is a history variable: the own 5-minute rows, in the order they were inserted. -/
structure World (V : Type) where
  store : LogStore V
  ever : List (StatBucket V)
  clock : Instant

namespace World

def own (w : World V) : String :=
  w.store.own

def fiveMinute (w : World V) : List (StatBucket V) :=
  sized w.own BUCKET_5MIN_SECS w.store.buckets

def hourly (w : World V) : List (StatBucket V) :=
  sized w.own BUCKET_1HOUR_SECS w.store.buckets

def summaries (w : World V) : List (DailyRow V) :=
  w.store.daily.filter (fun r => decide (r.peerNodeId = w.own))

/-- The store after a job; the own 5-minute rows it appended are remembered. -/
def after (w : World V) (s : LogStore V) (now : Instant) : World V :=
  { store := s
    ever := w.ever ++
      sized w.own BUCKET_5MIN_SECS (appended w.store.buckets s.buckets)
    clock := now }

/-- No roll-up has run yet: there are 5-minute rows, and nothing made of them. -/
def Start (w : World V) : Prop :=
  w.ever = w.fiveMinute ∧ w.hourly = [] ∧ w.summaries = []

end World

def jobs [LinearOrder V] (mean : List V -> V) (readable : EventRow -> Bool) :
    Machine (World V) (Job V) :=
  { start := World.Start
    step := fun w job => w.after (job.run mean readable w.store) job.now }

def OnClock (w : World V) (job : Job V) : Prop :=
  w.clock <= job.now

instance (w : World V) (job : Job V) : Decidable (OnClock w job) :=
  inferInstanceAs (Decidable (w.clock <= job.now))

/-!
## What the jobs leave alone
-/

theorem sized_append (own : String) (size : Int) (rows rows' : List (StatBucket V)) :
    sized own size (rows ++ rows') = sized own size rows ++ sized own size rows' :=
  List.filter_append rows rows'

theorem mem_sized {own : String} {size : Int} {rows : List (StatBucket V)}
    {r : StatBucket V} :
    r ∈ sized own size rows <->
      r ∈ rows ∧ r.peerNodeId = own ∧ r.bucketSize = size := by
  rw [sized, List.mem_filter, decide_eq_true_iff]

theorem sized_eq_nil (other : Int) {own : String} {size : Int} {rows : List (StatBucket V)}
    (hrows : forall r, r ∈ rows -> r.bucketSize = other) (hne : other ≠ size) :
    sized own size rows = [] := by
  rw [sized, List.filter_eq_nil_iff]
  intro r hr
  rw [decide_eq_true_iff, hrows r hr]
  exact fun h => hne h.right

@[simp] theorem appended_self {row : Type} (rows : List row) : appended rows rows = [] :=
  List.drop_length

theorem appended_filter {row : Type} (p : row -> Bool) (rows : List row) :
    appended rows (rows.filter p) = [] :=
  List.drop_eq_nil_of_le (List.length_filter_le p rows)

theorem sized_prune (own : String) {size : Int} (hsize : size ≠ BUCKET_5MIN_SECS)
    (now : Instant) (s : LogStore V) :
    sized own size (prune now s).1.buckets = sized own size s.buckets := by
  show sized own size (s.buckets.filter _) = _
  rw [sized, sized, List.filter_filter]
  apply List.filter_congr
  intro r _hr
  by_cases hr : r.peerNodeId = own ∧ r.bucketSize = size
  · have hkeep : ¬ r.bucketSize = BUCKET_5MIN_SECS := by
      rw [hr.right]
      exact hsize
    simp [hr, hsize]
  · simp [hr]

/-!
## The rows of the roll-ups
-/

section Rows

variable [LinearOrder V] (mean : List V -> V)

theorem nodup_fiveMinuteBuckets (now : Instant) (s : LogStore V) :
    ((fiveMinuteBuckets mean now s).map bucketKey).Nodup := by
  have hkeys := Assoc.nodup_keys_groupBy
    (fun r : RawRow V => windowOf BUCKET_5MIN_SECS r.ts) (rawRows now s)
  unfold fiveMinuteBuckets
  rw [List.map_map]
  refine List.Nodup.of_map (fun k : String × Int × Int => k.2.1) ?_
  rw [List.map_map]
  exact hkeys

/-- A bucket `roll_up_5min` builds has own 5-minute size and the window of a raw row. -/
theorem mem_fiveMinuteBuckets {now : Instant} {s : LogStore V} {b : StatBucket V}
    (hb : b ∈ fiveMinuteBuckets mean now s) :
    b.peerNodeId = s.own ∧ b.bucketSize = BUCKET_5MIN_SECS ∧
      exists r, r ∈ rawRows now s ∧ b.windowStart = windowOf BUCKET_5MIN_SECS r.ts := by
  rcases List.mem_map.mp hb with ⟨window, hwindow, rfl⟩
  rcases Assoc.mem_groupBy_iff.mp hwindow with ⟨hgroup, hne⟩
  refine ⟨rfl, rfl, ?_⟩
  rcases List.exists_mem_of_ne_nil _ hne with ⟨r, hr⟩
  rw [hgroup] at hr
  rcases List.mem_filter.mp hr with ⟨hraw, hkey⟩
  exact ⟨r, hraw, (decide_eq_true_iff.mp hkey).symm⟩

theorem nodup_hourlyRows (now : Instant) (s : LogStore V) :
    ((hourlyRows mean now s).map bucketKey).Nodup := by
  have hkeys := Assoc.nodup_keys_groupBy
    (fun r : StatBucket V => windowOf BUCKET_1HOUR_SECS r.windowStart)
    (eligible BUCKET_5MIN_SECS (hourlyCutoff now) s)
  refine List.Nodup.of_map (fun k : String × Int × Int => k.2.1) ?_
  rw [List.map_map]
  refine List.Nodup.sublist ?_ hkeys
  have hhours : forall groups : List (Int × List (StatBucket V)),
      ((groups.filterMap (fun hour =>
        if (hour.2.map StatBucket.samples).sum = 0 then none
        else some (hourlyRow mean s.own hour.1 hour.2))).map
          ((fun k : String × Int × Int => k.2.1) ∘ bucketKey)).Sublist
        (Assoc.keys groups) := by
    intro groups
    induction groups with
    | nil => exact List.Sublist.refl _
    | cons hour groups ih =>
        rw [List.filterMap_cons]
        split
        · exact ih.cons _
        · rename_i row hrow
          split at hrow
          · cases hrow
          · cases hrow
            exact ih.cons_cons _
  exact hhours (hourGroups now s)

theorem mem_hourlyRows {now : Instant} {s : LogStore V} {r : StatBucket V}
    (hr : r ∈ hourlyRows mean now s) :
    exists hour, hour ∈ hourGroups now s ∧ (hour.2.map StatBucket.samples).sum ≠ 0 ∧
      r = hourlyRow mean s.own hour.1 hour.2 := by
  rcases List.mem_filterMap.mp hr with ⟨hour, hhour, hrow⟩
  split at hrow
  · cases hrow
  · rename_i htotal
    exact ⟨hour, hhour, htotal, (Option.some.inj hrow).symm⟩

/-- The hourly rows after `roll_hourly`: the old ones, and those whose hour was free. -/
theorem mem_hourly_rollHourly (now : Instant) (s : LogStore V) {r : StatBucket V} :
    r ∈ sized s.own BUCKET_1HOUR_SECS (rollHourly mean now s).1.buckets <->
      r ∈ sized s.own BUCKET_1HOUR_SECS s.buckets ∨
        (r ∈ hourlyRows mean now s ∧
          r.windowStart ∉ (sized s.own BUCKET_1HOUR_SECS s.buckets).map
            StatBucket.windowStart) := by
  show r ∈ sized s.own BUCKET_1HOUR_SECS (insertMany bucketKey s.buckets _) <-> _
  rw [mem_sized, mem_insertMany (nodup_hourlyRows mean now s), mem_sized]
  have hfree : r ∈ hourlyRows mean now s ->
      (bucketKey r ∉ s.buckets.map bucketKey <->
        r.windowStart ∉ (sized s.own BUCKET_1HOUR_SECS s.buckets).map
          StatBucket.windowStart) := by
    intro hr
    rcases mem_hourlyRows mean hr with ⟨hour, _, _, hrow⟩
    have hown : r.peerNodeId = s.own := by
      rw [hrow]
      rfl
    have hsize : r.bucketSize = BUCKET_1HOUR_SECS := by
      rw [hrow]
      rfl
    rw [not_iff_not, List.mem_map, List.mem_map]
    constructor
    · rintro ⟨r', hr', hkey⟩
      have hkey' := Prod.mk.inj hkey
      have hrest := Prod.mk.inj hkey'.right
      exact ⟨r', mem_sized.mpr ⟨hr', hkey'.left.trans hown, hrest.right.trans hsize⟩,
        hrest.left⟩
    · rintro ⟨r', hr', hstart⟩
      rcases mem_sized.mp hr' with ⟨hin, hown', hsize'⟩
      refine ⟨r', hin, ?_⟩
      unfold bucketKey
      rw [hown', hsize', hstart, hown, hsize]
  constructor
  · rintro ⟨hold | ⟨hnew, hkey⟩, hown, hsize⟩
    · exact Or.inl ⟨hold, hown, hsize⟩
    · exact Or.inr ⟨hnew, (hfree hnew).mp hkey⟩
  · rintro (⟨hold, hown, hsize⟩ | ⟨hnew, hstart⟩)
    · exact ⟨Or.inl hold, hown, hsize⟩
    · rcases mem_hourlyRows mean hnew with ⟨hour, _, _, hrow⟩
      exact ⟨Or.inr ⟨hnew, (hfree hnew).mpr hstart⟩, by rw [hrow]; rfl, by rw [hrow]; rfl⟩

/-- `roll_up_5min` leaves the hourly rows alone. -/
theorem sized_rollUp5min (own : String) {size : Int} (hsize : size ≠ BUCKET_5MIN_SECS)
    (now : Instant) (s : LogStore V) :
    sized own size (rollUp5min mean now s).1.buckets = sized own size s.buckets := by
  show sized own size (insertMany bucketKey s.buckets _) = _
  rw [insertMany_eq bucketKey (nodup_fiveMinuteBuckets mean now s), sized_append]
  refine List.append_right_eq_self.mpr
    (sized_eq_nil BUCKET_5MIN_SECS (fun r hr => ?_) hsize.symm)
  exact (mem_fiveMinuteBuckets mean (List.mem_of_mem_filter hr)).right.left

end Rows

/-!
## Windows
-/

theorem windowOf_iff {size h : Int} (ts : Int) (hsize : 0 < size)
    (haligned : h % size = 0) :
    windowOf size ts = h <-> h <= ts ∧ ts < h + size := by
  have hdiv := Int.emod_add_mul_ediv ts size
  have hlow := Int.emod_nonneg ts (Int.ne_of_gt hsize)
  have hhigh := Int.emod_lt_of_pos ts hsize
  have hh := Int.emod_add_mul_ediv h size
  rw [haligned, Int.zero_add] at hh
  unfold windowOf
  rw [Int.mul_comm]
  constructor
  · intro heq
    rw [heq] at hdiv
    omega
  · rintro ⟨hge, hlt⟩
    rw [← hh] at hge hlt ⊢
    have hlower : h / size <= ts / size := by
      apply Int.le_of_lt_add_one
      apply lt_of_mul_lt_mul_left _ (Int.le_of_lt hsize)
      rw [mul_add, mul_one]
      omega
    have hupper : ts / size <= h / size := by
      apply Int.le_of_lt_add_one
      apply lt_of_mul_lt_mul_left _ (Int.le_of_lt hsize)
      rw [mul_add, mul_one]
      omega
    rw [Int.le_antisymm hupper hlower]

theorem windowOf_aligned (size ts : Int) : windowOf size ts % size = 0 :=
  Int.mul_emod_left _ _

end Store
end PanicMonitr
