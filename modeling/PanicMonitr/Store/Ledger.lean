import PanicMonitr.Foundation.Sequences
import PanicMonitr.Store.Sequence
import PanicMonitr.Store.Tiers

/-!
# Which bucket counted which snapshot

The store with two histories: the raw rows `record_snapshot` wrote, and for each 5-minute
row that was ever inserted the raw rows it was made of.
-/

namespace PanicMonitr
namespace Store

open Foundation

variable {V : Type}

/-- The row `record_snapshot` writes. -/
def recordedRow (snap : Snapshot V) (now : Instant) (s : LogStore V) : RawRow V :=
  { peerNodeId := s.own
    ts := epochOf now
    payload := snap
    seq := some (nextSeq s.own s) }

/-- The windows `roll_up_5min` finds, each with its raw rows. -/
def fiveMinuteGroups (now : Instant) (s : LogStore V) : List (Int × List (RawRow V)) :=
  Assoc.groupBy (fun r : RawRow V => windowOf BUCKET_5MIN_SECS r.ts) (rawRows now s)

def bucketOf [LinearOrder V] (mean : List V -> V) (own : String)
    (window : Int × List (RawRow V)) : StatBucket V :=
  aggregateSnaps mean own (window.2.map RawRow.payload) window.1
    (window.1 + BUCKET_5MIN_SECS) BUCKET_5MIN_SECS

/-- `MAX(window_end)` of the own 5-minute rows, or 0. -/
def mark (s : LogStore V) : Int :=
  (((sized s.own BUCKET_5MIN_SECS s.buckets).map StatBucket.windowEnd).max?).getD 0

/-- The own raw rows of a 5-minute window, in time order. -/
def windowRows (start : Int) (s : LogStore V) : List (RawRow V) :=
  orderBy RawRow.ts (s.raw.filter (fun r =>
    decide (r.peerNodeId = s.own ∧ windowOf BUCKET_5MIN_SECS r.ts = start)))

/-!
## Runs with their history
-/

/-- `recorded` is newest first. -/
structure Ledger (V : Type) where
  store : LogStore V
  clock : Instant
  recorded : List (RawRow V)
  counted : List (Int × List (RawRow V))

namespace Ledger

def written (s : LogStore V) : Job V -> List (RawRow V)
  | Job.recordSnapshot snap now => [recordedRow snap now s]
  | _ => []

def taken [LinearOrder V] (mean : List V -> V) (s : LogStore V) :
    Job V -> List (Int × List (RawRow V))
  | Job.rollUp5min now =>
      (fiveMinuteGroups now s).filter
        (fun window => isFree bucketKey s.buckets (bucketOf mean s.own window))
  | _ => []

def step [LinearOrder V] (mean : List V -> V) (readable : EventRow -> Bool) (w : Ledger V)
    (job : Job V) : Ledger V :=
  { store := job.run mean readable w.store
    clock := job.now
    recorded := written w.store job ++ w.recorded
    counted := w.counted ++ taken mean w.store job }

structure Start (w : Ledger V) : Prop where
  raw : forall r, r ∈ w.store.raw -> r.peerNodeId ≠ w.store.own
  buckets : sized w.store.own BUCKET_5MIN_SECS w.store.buckets = []
  recorded : w.recorded = []
  counted : w.counted = []

def lastOf (w : Ledger V) (ts : Int) : Option (RawRow V) :=
  w.recorded.find? (fun r => decide (r.ts = ts))

def OwnSecond (w : Ledger V) (r : RawRow V) : Prop :=
  forall r', r' ∈ w.recorded -> r'.ts = r.ts -> r' = r

/-- In how many 5-minute rows a raw row was counted. -/
def timesCounted [DecidableEq V] (w : Ledger V) (r : RawRow V) : Nat :=
  w.counted.countP (fun window => decide (r ∈ window.2))

end Ledger

def ledgers [LinearOrder V] (mean : List V -> V) (readable : EventRow -> Bool) :
    Machine (Ledger V) (Job V) where
  start := Ledger.Start
  step := Ledger.step mean readable

/-- The 5-minute rows that go in are those of the windows in the history. -/
theorem buckets_rollUp5min [LinearOrder V] (mean : List V -> V) (now : Instant)
    (s : LogStore V) :
    (rollUp5min mean now s).1.buckets =
      s.buckets ++ (Ledger.taken mean s (Job.rollUp5min now)).map (bucketOf mean s.own) := by
  show insertMany bucketKey s.buckets (fiveMinuteBuckets mean now s) = _
  rw [insertMany_eq bucketKey (nodup_fiveMinuteBuckets mean now s)]
  show _ ++ ((fiveMinuteGroups now s).map (bucketOf mean s.own)).filter _ = _
  rw [List.filter_map]
  rfl

/-!
## The mark
-/

theorem le_mark {s : LogStore V} {b : StatBucket V}
    (hb : b ∈ sized s.own BUCKET_5MIN_SECS s.buckets) : b.windowEnd <= mark s := by
  unfold mark
  cases hmax : ((sized s.own BUCKET_5MIN_SECS s.buckets).map StatBucket.windowEnd).max? with
  | none =>
      rw [List.max?_eq_none_iff, List.map_eq_nil_iff] at hmax
      rw [hmax] at hb
      cases hb
  | some last => exact (List.max?_eq_some_iff.mp hmax).right _ (List.mem_map_of_mem hb)

theorem mark_cases (s : LogStore V) :
    (sized s.own BUCKET_5MIN_SECS s.buckets = [] ∧ mark s = 0) ∨
      exists b, b ∈ sized s.own BUCKET_5MIN_SECS s.buckets ∧ b.windowEnd = mark s := by
  unfold mark
  cases hmax : ((sized s.own BUCKET_5MIN_SECS s.buckets).map StatBucket.windowEnd).max? with
  | none =>
      rw [List.max?_eq_none_iff, List.map_eq_nil_iff] at hmax
      exact Or.inl ⟨hmax, rfl⟩
  | some last =>
      rcases List.mem_map.mp (List.max?_eq_some_iff.mp hmax).left with ⟨b, hb, hend⟩
      exact Or.inr ⟨b, hb, hend⟩

theorem mark_congr {s s' : LogStore V}
    (h : sized s'.own BUCKET_5MIN_SECS s'.buckets = sized s.own BUCKET_5MIN_SECS s.buckets) :
    mark s' = mark s := by
  unfold mark
  rw [h]

/-- Pruning lowers the mark only when every raw row before it goes as well. -/
theorem mark_prune {s : LogStore V} (hshape : Shaped BUCKET_5MIN_SECS s) (hpos : 0 <= mark s)
    (now : Instant) :
    mark (prune now s).1 = mark s ∨
      (mark (prune now s).1 <= mark s ∧ mark s <= rawCutoff now) := by
  have hle : mark (prune now s).1 <= mark s := by
    rcases mark_cases (prune now s).1 with hnone | hlast
    · rw [hnone.right]
      exact hpos
    · rcases hlast with ⟨b, hb, hend⟩
      rw [← hend]
      exact le_mark (mem_sized_prune (s := s).mp hb).right
  rcases mark_cases s with hnone | hlast
  · left
    rcases mark_cases (prune now s).1 with hnone' | hlast'
    · rw [hnone.right, hnone'.right]
    · rcases hlast' with ⟨b, hb, _⟩
      have hin := (mem_sized_prune (s := s).mp hb).right
      rw [hnone.left] at hin
      cases hin
  · rcases hlast with ⟨b, hb, hend⟩
    by_cases hkept : bucketCutoff now <= b.windowStart
    · left
      have hmark : b.windowEnd <= mark (prune now s).1 :=
        le_mark (s := (prune now s).1) (mem_sized_prune.mpr ⟨hkept, hb⟩)
      omega
    · right
      have hcutoff := bucketCutoff_le now
      have hend' := (hshape b hb).left
      exact ⟨hle, by omega⟩

/-!
## The windows of a roll-up
-/

theorem mem_rawRows {now : Instant} {s : LogStore V} {r : RawRow V} :
    r ∈ rawRows now s <->
      r ∈ s.raw ∧ r.peerNodeId = s.own ∧ mark s <= r.ts ∧ r.ts < rollCutoff now := by
  show r ∈ orderBy RawRow.ts (s.raw.filter _) <-> _
  rw [mem_orderBy, List.mem_filter, decide_eq_true_iff]
  rfl

theorem rollCutoff_le (now : Instant) :
    rollCutoff now <= epochOf now ∧ rollCutoff now % BUCKET_5MIN_SECS = 0 := by
  unfold rollCutoff
  unfold BUCKET_5MIN_SECS
  omega

/-- A window of the roll-up has the rows of its time, lies behind the mark and is over. -/
theorem mem_fiveMinuteGroups {now : Instant} {s : LogStore V}
    (haligned : mark s % BUCKET_5MIN_SECS = 0) {window : Int × List (RawRow V)}
    (h : window ∈ fiveMinuteGroups now s) :
    window.2 = windowRows window.1 s ∧ window.2 ≠ [] ∧ window.1 % BUCKET_5MIN_SECS = 0 ∧
      mark s <= window.1 ∧ window.1 + BUCKET_5MIN_SECS <= rollCutoff now := by
  rcases Assoc.mem_groupBy_iff.mp h with ⟨hgroup, hne⟩
  rcases List.exists_mem_of_ne_nil _ hne with ⟨r, hr⟩
  rw [hgroup] at hr
  rcases List.mem_filter.mp hr with ⟨hraw, hkey⟩
  have hwindow : windowOf BUCKET_5MIN_SECS r.ts = window.1 := of_decide_eq_true hkey
  have hbounds := windowOf_le fiveMinutes_pos r.ts
  have hmultiple := windowOf_aligned BUCKET_5MIN_SECS r.ts
  rw [hwindow] at hbounds hmultiple
  rcases mem_rawRows.mp hraw with ⟨_, _, hlow, hhigh⟩
  have hcutoff := (rollCutoff_le now).right
  have hlower : mark s <= window.1 := by
    unfold BUCKET_5MIN_SECS at *
    omega
  have hupper : window.1 + BUCKET_5MIN_SECS <= rollCutoff now := by
    unfold BUCKET_5MIN_SECS at *
    omega
  refine ⟨?_, hne, hmultiple, hlower, hupper⟩
  rw [hgroup]
  unfold rawRows windowRows
  rw [filter_orderBy, List.filter_filter]
  congr 1
  apply List.filter_congr
  intro r' _
  -- the two bounds of the roll-up do not cut through a window
  rw [← Bool.decide_and, decide_eq_decide]
  constructor
  · intro h'
    exact ⟨h'.right.left, h'.left⟩
  · intro h'
    rcases h' with ⟨hown, hstart⟩
    have hbounds' := windowOf_le fiveMinutes_pos r'.ts
    rw [hstart] at hbounds'
    refine ⟨hstart, hown, ?_, ?_⟩
    · exact Int.le_trans hlower hbounds'.left
    · exact Int.lt_of_lt_of_le hbounds'.right hupper

/-- Behind the mark no window has a row yet, so every one of them goes in. -/
theorem taken_rollUp5min [LinearOrder V] (mean : List V -> V) {s : LogStore V}
    (hshape : Shaped BUCKET_5MIN_SECS s) (haligned : mark s % BUCKET_5MIN_SECS = 0)
    (now : Instant) :
    Ledger.taken mean s (Job.rollUp5min now) = fiveMinuteGroups now s := by
  apply List.filter_eq_self.mpr
  intro window hwindow
  rw [isFree_iff]
  intro htaken
  rcases mem_fiveMinuteGroups haligned hwindow with ⟨_, _, _, hlow, _⟩
  have hbucket : HasBucket s BUCKET_5MIN_SECS window.1 := htaken
  rcases hasBucket_iff.mp hbucket with ⟨b, hb, hstart⟩
  have hend := (hshape b hb).left
  have hmark := le_mark hb
  have hpos := fiveMinutes_pos
  omega

/-- Every raw row between the mark and the cutoff is in a window of the roll-up. -/
theorem exists_group {now : Instant} {s : LogStore V} {r : RawRow V} (hr : r ∈ s.raw)
    (hown : r.peerNodeId = s.own) (hlow : mark s <= r.ts) (hhigh : r.ts < rollCutoff now) :
    exists window, window ∈ fiveMinuteGroups now s ∧ r ∈ window.2 := by
  have hraw : r ∈ rawRows now s := mem_rawRows.mpr ⟨hr, hown, hlow, hhigh⟩
  rcases Assoc.mem_groupBy_of_mem (fun r : RawRow V => windowOf BUCKET_5MIN_SECS r.ts) hraw with
    ⟨group, hgroup⟩
  refine ⟨_, hgroup, ?_⟩
  rw [(Assoc.mem_groupBy_iff.mp hgroup).left]
  exact List.mem_filter.mpr ⟨hraw, decide_eq_true rfl⟩

theorem mem_windowRows {start : Int} {s : LogStore V} {r : RawRow V} :
    r ∈ windowRows start s <->
      r ∈ s.raw ∧ r.peerNodeId = s.own ∧ windowOf BUCKET_5MIN_SECS r.ts = start := by
  rw [windowRows, mem_orderBy, List.mem_filter, decide_eq_true_iff]

/-!
## What the histories say of the store
-/

/-- A raw row was counted by some 5-minute row. -/
def Ledger.Counted (w : Ledger V) (r : RawRow V) : Prop :=
  exists window, window ∈ w.counted ∧ r ∈ window.2

structure Booked (w : Ledger V) : Prop where
  recorded : forall r, r ∈ w.recorded -> r.peerNodeId = w.store.own ∧ r.ts <= epochOf w.clock
  stored : forall r, r ∈ w.store.raw -> r.peerNodeId = w.store.own -> w.lastOf r.ts = some r
  shape : Shaped BUCKET_5MIN_SECS w.store
  grid : forall b, b ∈ sized w.store.own BUCKET_5MIN_SECS w.store.buckets ->
    0 <= b.windowStart ∧ b.windowStart % BUCKET_5MIN_SECS = 0 ∧ b.windowEnd <= epochOf w.clock
  windows : (w.counted.map Prod.fst).Nodup
  ended : forall window, window ∈ w.counted ->
    window.1 % BUCKET_5MIN_SECS = 0 ∧ window.1 + BUCKET_5MIN_SECS <= epochOf w.clock
  rows : forall window, window ∈ w.counted -> forall r, r ∈ window.2 ->
    windowOf BUCKET_5MIN_SECS r.ts = window.1
  counted : forall r, r ∈ w.store.raw -> r.peerNodeId = w.store.own ->
    (w.Counted r <-> 0 <= r.ts ∧ r.ts < mark w.store)
  ahead : forall r, r ∈ w.store.raw -> r.peerNodeId = w.store.own ->
    mark w.store <= r.ts -> forall window, window ∈ w.counted ->
      window.1 + BUCKET_5MIN_SECS <= r.ts

/-- The last row of every second is in the raw rows or was counted. -/
def Kept (w : Ledger V) : Prop :=
  forall r, w.lastOf r.ts = some r -> r ∈ w.store.raw ∨ w.Counted r

theorem booked_start {w : Ledger V} (h : w.Start) : Booked w := by
  have hnone : forall window, window ∉ w.counted := by
    rw [h.counted]
    exact fun _ => List.not_mem_nil
  constructor
  · intro r hr
    rw [h.recorded] at hr
    cases hr
  · intro r hr hown
    exact absurd hown (h.raw r hr)
  · intro b hb
    rw [h.buckets] at hb
    cases hb
  · intro b hb
    rw [h.buckets] at hb
    cases hb
  · rw [h.counted]
    exact List.nodup_nil
  · intro window hwindow
    exact absurd hwindow (hnone window)
  · intro window hwindow
    exact absurd hwindow (hnone window)
  · intro r hr hown
    exact absurd hown (h.raw r hr)
  · intro r hr hown
    exact absurd hown (h.raw r hr)

theorem kept_start {w : Ledger V} (h : w.Start) : Kept w := by
  intro r hr
  have hin := List.mem_of_find?_eq_some hr
  rw [h.recorded] at hin
  cases hin

theorem Booked.marked {w : Ledger V} (h : Booked w) :
    0 <= mark w.store ∧ mark w.store % BUCKET_5MIN_SECS = 0 ∧
      mark w.store <= max 0 (epochOf w.clock) := by
  rcases mark_cases w.store with hnone | hlast
  · rw [hnone.right]
    exact ⟨Int.le_refl 0, rfl, Int.le_max_left 0 _⟩
  · rcases hlast with ⟨b, hb, hend⟩
    rcases h.grid b hb with ⟨hpos, haligned, hclock⟩
    have hwide := (h.shape b hb).left
    rw [← hend]
    unfold BUCKET_5MIN_SECS at *
    omega

theorem Booked.not_counted {w : Ledger V} (h : Booked w) {r : RawRow V}
    (hr : epochOf w.clock <= r.ts) : ¬ w.Counted r := by
  intro hcounted
  rcases hcounted with ⟨window, hwindow, hin⟩
  have hbounds := windowOf_le fiveMinutes_pos r.ts
  rw [h.rows window hwindow r hin] at hbounds
  have hended := (h.ended window hwindow).right
  omega

/-!
## Jobs that leave both tables alone
-/

theorem Booked.aged {w : Ledger V} (h : Booked w) {now : Instant} (hnow : w.clock <= now) :
    Booked { w with clock := now } := by
  have hepoch := epochOf_le hnow
  refine ⟨?_, h.stored, h.shape, ?_, h.windows, ?_, h.rows, h.counted, h.ahead⟩
  · intro r hr
    have hrecorded := h.recorded r hr
    exact ⟨hrecorded.left, Int.le_trans hrecorded.right hepoch⟩
  · intro b hb
    rcases h.grid b hb with ⟨hpos, haligned, hclock⟩
    exact ⟨hpos, haligned, Int.le_trans hclock hepoch⟩
  · intro window hwindow
    have hended := h.ended window hwindow
    exact ⟨hended.left, Int.le_trans hended.right hepoch⟩

theorem Booked.later {w : Ledger V} (h : Booked w) {now : Instant} (hnow : w.clock <= now)
    {store : LogStore V} (hown : store.own = w.store.own) (hraw : store.raw = w.store.raw)
    (hbuckets : sized store.own BUCKET_5MIN_SECS store.buckets =
      sized w.store.own BUCKET_5MIN_SECS w.store.buckets) :
    Booked { w with store := store, clock := now } := by
  have haged := h.aged hnow
  have hmark : mark store = mark w.store := mark_congr hbuckets
  constructor
  · intro r hr
    show r.peerNodeId = store.own ∧ r.ts <= epochOf now
    rw [hown]
    exact haged.recorded r hr
  · show forall r, r ∈ store.raw -> r.peerNodeId = store.own -> _
    rw [hraw, hown]
    exact h.stored
  · exact shaped_congr hbuckets h.shape
  · intro b hb
    rw [hbuckets] at hb
    exact haged.grid b hb
  · exact h.windows
  · exact haged.ended
  · exact h.rows
  · show forall r, r ∈ store.raw -> r.peerNodeId = store.own -> (_ <-> _ ∧ r.ts < mark store)
    rw [hraw, hown, hmark]
    exact h.counted
  · show forall r, r ∈ store.raw -> r.peerNodeId = store.own -> mark store <= r.ts -> _
    rw [hraw, hown, hmark]
    exact h.ahead

/-!
## Recording a snapshot
-/

theorem lastOf_recordedRow {w : Ledger V} {snap : Snapshot V} {now : Instant}
    {store : LogStore V} (counted : List (Int × List (RawRow V))) (ts : Int) :
    Ledger.lastOf
        { store := store
          clock := now
          recorded := recordedRow snap now w.store :: w.recorded
          counted := counted } ts =
      if epochOf now = ts then some (recordedRow snap now w.store) else w.lastOf ts := by
  unfold Ledger.lastOf
  rw [List.find?_cons]
  by_cases hts : epochOf now = ts
  · rw [if_pos hts, decide_eq_true (p := (recordedRow snap now w.store).ts = ts) hts]
  · rw [if_neg hts, decide_eq_false (p := (recordedRow snap now w.store).ts = ts) hts]

theorem mem_raw_recordedRow {snap : Snapshot V} {now : Instant} {s : LogStore V}
    {r : RawRow V} :
    r ∈ (recordSnapshot snap now s).raw <->
      (r ∈ s.raw ∧ rawKey r ≠ (s.own, epochOf now)) ∨ r = recordedRow snap now s :=
  mem_raw_recordSnapshot

theorem Booked.recordSnapshot {w : Ledger V} (h : Booked w) {snap : Snapshot V}
    {now : Instant} (hnow : w.clock <= now) :
    Booked
      { store := Store.recordSnapshot snap now w.store
        clock := now
        recorded := recordedRow snap now w.store :: w.recorded
        counted := w.counted } := by
  have hepoch := epochOf_le hnow
  have haged := h.aged hnow
  have hbound := h.marked.right.right
  constructor
  · intro r hr
    rcases List.mem_cons.mp hr with hhead | htail
    · rw [hhead]
      exact ⟨rfl, Int.le_refl _⟩
    · exact haged.recorded r htail
  · intro r hr hown
    rw [lastOf_recordedRow]
    rcases mem_raw_recordedRow.mp hr with hold | hnew
    · rw [if_neg (fun hts => hold.right (Prod.ext hown hts.symm))]
      exact h.stored r hold.left hown
    · rw [hnew]
      exact if_pos rfl
  · exact h.shape
  · exact haged.grid
  · exact h.windows
  · exact haged.ended
  · exact h.rows
  · intro r hr hown
    rcases mem_raw_recordedRow.mp hr with hold | hnew
    · exact h.counted r hold.left hown
    · -- no window reaches the present, and neither does the mark
      rw [hnew]
      constructor
      · intro hcounted
        exact absurd hcounted (h.not_counted hepoch)
      · intro hbounds
        have hlow : 0 <= epochOf now := hbounds.left
        have hhigh : epochOf now < mark w.store := hbounds.right
        omega
  · intro r hr hown hlow window hwindow
    rcases mem_raw_recordedRow.mp hr with hold | hnew
    · exact h.ahead r hold.left hown hlow window hwindow
    · rw [hnew]
      exact Int.le_trans (h.ended window hwindow).right hepoch

theorem Kept.recordSnapshot {w : Ledger V} (h : Kept w) (snap : Snapshot V) (now : Instant) :
    Kept
      { store := Store.recordSnapshot snap now w.store
        clock := now
        recorded := recordedRow snap now w.store :: w.recorded
        counted := w.counted } := by
  intro r hr
  rw [lastOf_recordedRow] at hr
  by_cases hts : epochOf now = r.ts
  · rw [if_pos hts] at hr
    exact Or.inl (mem_raw_recordedRow.mpr (Or.inr (Option.some.inj hr).symm))
  · rw [if_neg hts] at hr
    rcases h r hr with hin | hcounted
    · exact Or.inl (mem_raw_recordedRow.mpr
        (Or.inl ⟨hin, fun hkey => hts (Prod.mk.inj hkey).right.symm⟩))
    · exact Or.inr hcounted

/-!
## Rolling up
-/

theorem Booked.windows_rollUp5min {w : Ledger V} (h : Booked w) (now : Instant) :
    ((w.counted ++ fiveMinuteGroups now w.store).map Prod.fst).Nodup := by
  rw [List.map_append]
  refine List.Nodup.append h.windows (Assoc.nodup_keys_groupBy _ _) ?_
  intro start hold hnew
  rcases List.mem_map.mp hold with ⟨window, hwindow, hstart⟩
  rcases List.mem_map.mp hnew with ⟨window', hwindow', hstart'⟩
  rcases mem_fiveMinuteGroups h.marked.right.left hwindow' with ⟨hrows, hne, _, hlow, _⟩
  rcases List.exists_mem_of_ne_nil _ hne with ⟨r, hr⟩
  rw [hrows] at hr
  rcases mem_windowRows.mp hr with ⟨hraw, hown, hin⟩
  have hbounds := windowOf_le fiveMinutes_pos r.ts
  rw [hin] at hbounds
  have hahead := h.ahead r hraw hown (Int.le_trans hlow hbounds.left) window hwindow
  rw [hstart, ← hstart'] at hahead
  omega

section RollUp

variable [LinearOrder V] (mean : List V -> V)

/-- The own 5-minute rows after a roll-up: the old ones, then one for each window. -/
theorem sized_taken (now : Instant) (s : LogStore V) :
    sized s.own BUCKET_5MIN_SECS (rollUp5min mean now s).1.buckets =
      sized s.own BUCKET_5MIN_SECS s.buckets ++
        (Ledger.taken mean s (Job.rollUp5min now)).map (bucketOf mean s.own) := by
  rw [buckets_rollUp5min, sized_append]
  congr 1
  apply List.filter_eq_self.mpr
  intro b hb
  rcases List.mem_map.mp hb with ⟨window, _, rfl⟩
  exact decide_eq_true ⟨rfl, rfl⟩

theorem mem_sized_taken {now : Instant} {s : LogStore V} {b : StatBucket V}
    (hshape : Shaped BUCKET_5MIN_SECS s) (haligned : mark s % BUCKET_5MIN_SECS = 0) :
    b ∈ sized s.own BUCKET_5MIN_SECS (rollUp5min mean now s).1.buckets <->
      b ∈ sized s.own BUCKET_5MIN_SECS s.buckets ∨
        exists window, window ∈ fiveMinuteGroups now s ∧ bucketOf mean s.own window = b := by
  rw [sized_taken, List.mem_append, taken_rollUp5min mean hshape haligned, List.mem_map]

/-- The mark after a roll-up is where it was, or at the end of one of its windows. -/
theorem mark_rollUp5min {s : LogStore V} (hshape : Shaped BUCKET_5MIN_SECS s)
    (haligned : mark s % BUCKET_5MIN_SECS = 0) (hpos : 0 <= mark s) (now : Instant) :
    mark s <= mark (rollUp5min mean now s).1 ∧
      (mark (rollUp5min mean now s).1 = mark s ∨
        exists window, window ∈ fiveMinuteGroups now s ∧
          mark (rollUp5min mean now s).1 = window.1 + BUCKET_5MIN_SECS) := by
  have hcases : mark (rollUp5min mean now s).1 = 0 ∨
      exists b, b ∈ sized s.own BUCKET_5MIN_SECS (rollUp5min mean now s).1.buckets ∧
        b.windowEnd = mark (rollUp5min mean now s).1 :=
    (mark_cases (rollUp5min mean now s).1).imp And.right id
  have hge : mark s <= mark (rollUp5min mean now s).1 := by
    rcases mark_cases s with hnone | hlast
    · rw [hnone.right]
      rcases hcases with hzero | hlast'
      · rw [hzero]
      · rcases hlast' with ⟨b, hb, hend⟩
        rw [← hend]
        rcases (mem_sized_taken mean hshape haligned).mp hb with hold | hnew
        · rw [hnone.left] at hold
          cases hold
        · rcases hnew with ⟨window, hwindow, rfl⟩
          have hlow := (mem_fiveMinuteGroups haligned hwindow).right.right.right.left
          have hwide := fiveMinutes_pos
          show 0 <= window.1 + BUCKET_5MIN_SECS
          omega
    · rcases hlast with ⟨b, hb, hend⟩
      rw [← hend]
      exact le_mark (s := (rollUp5min mean now s).1)
        ((mem_sized_taken mean hshape haligned).mpr (Or.inl hb))
  refine ⟨hge, ?_⟩
  rcases hcases with hzero | hlast
  · left
    omega
  · rcases hlast with ⟨b, hb, hend⟩
    rcases (mem_sized_taken mean hshape haligned).mp hb with hold | hnew
    · left
      have hle := le_mark hold
      omega
    · rcases hnew with ⟨window, hwindow, rfl⟩
      exact Or.inr ⟨window, hwindow, hend.symm⟩

theorem group_le_mark {s : LogStore V} (hshape : Shaped BUCKET_5MIN_SECS s)
    (haligned : mark s % BUCKET_5MIN_SECS = 0) {now : Instant}
    {window : Int × List (RawRow V)} (h : window ∈ fiveMinuteGroups now s) :
    window.1 + BUCKET_5MIN_SECS <= mark (rollUp5min mean now s).1 :=
  le_mark (s := (rollUp5min mean now s).1) (b := bucketOf mean s.own window)
    ((mem_sized_taken mean hshape haligned).mpr (Or.inr ⟨window, h, rfl⟩))

theorem Booked.counted_rollUp5min {w : Ledger V} (h : Booked w) {now : Instant} {r : RawRow V}
    (hr : r ∈ w.store.raw) (hown : r.peerNodeId = w.store.own) :
    (exists window, window ∈ w.counted ++ fiveMinuteGroups now w.store ∧ r ∈ window.2) <->
      0 <= r.ts ∧ r.ts < mark (Store.rollUp5min mean now w.store).1 := by
  have haligned := h.marked.right.left
  have hpos := h.marked.left
  have hold := h.counted r hr hown
  rcases mark_rollUp5min mean h.shape haligned hpos now with ⟨hge, hmark⟩
  constructor
  · intro hcounted
    rcases hcounted with ⟨window, hwindow, hin⟩
    rcases List.mem_append.mp hwindow with hbefore | hnew
    · have hbounds := hold.mp ⟨window, hbefore, hin⟩
      exact ⟨hbounds.left, Int.lt_of_lt_of_le hbounds.right hge⟩
    · rcases mem_fiveMinuteGroups haligned hnew with ⟨hrows, _, _, hlow, _⟩
      rw [hrows] at hin
      have hbounds := windowOf_le fiveMinutes_pos r.ts
      rw [(mem_windowRows.mp hin).right.right] at hbounds
      have hend := group_le_mark mean h.shape haligned hnew
      exact ⟨by omega, Int.lt_of_lt_of_le hbounds.right hend⟩
  · intro hbounds
    by_cases hbefore : r.ts < mark w.store
    · rcases hold.mpr ⟨hbounds.left, hbefore⟩ with ⟨window, hwindow, hin⟩
      exact ⟨window, List.mem_append_left _ hwindow, hin⟩
    · rcases hmark with hsame | hnew
      · omega
      · rcases hnew with ⟨last, hlast, hend⟩
        have hhigh := (mem_fiveMinuteGroups haligned hlast).right.right.right.right
        have hbelow : r.ts < rollCutoff now := by
          omega
        rcases exists_group (s := w.store) hr hown (Int.not_lt.mp hbefore) hbelow with
          ⟨window, hwindow, hin⟩
        exact ⟨window, List.mem_append_right _ hwindow, hin⟩

theorem Booked.rollUp5min {w : Ledger V} (h : Booked w) {now : Instant}
    (hnow : w.clock <= now) :
    Booked
      { store := (Store.rollUp5min mean now w.store).1
        clock := now
        recorded := w.recorded
        counted := w.counted ++ fiveMinuteGroups now w.store } := by
  have haged := h.aged hnow
  have haligned := h.marked.right.left
  have hbound := h.marked.right.right
  have hge := (mark_rollUp5min mean h.shape haligned h.marked.left now).left
  have hcutoff := (rollCutoff_le now).left
  have hgroup : forall window, window ∈ fiveMinuteGroups now w.store -> _ :=
    fun _ hwindow => mem_fiveMinuteGroups haligned hwindow
  constructor
  · exact haged.recorded
  · exact h.stored
  · intro b hb
    rcases (mem_sized_taken mean h.shape haligned).mp hb with hold | hnew
    · exact h.shape b hold
    · rcases hnew with ⟨window, hwindow, rfl⟩
      exact shape_fiveMinuteBuckets mean (List.mem_map_of_mem hwindow)
  · intro b hb
    rcases (mem_sized_taken mean h.shape haligned).mp hb with hold | hnew
    · exact haged.grid b hold
    · rcases hnew with ⟨window, hwindow, rfl⟩
      rcases hgroup window hwindow with ⟨_, _, hmultiple, hlow, hhigh⟩
      exact ⟨Int.le_trans h.marked.left hlow, hmultiple, Int.le_trans hhigh hcutoff⟩
  · exact h.windows_rollUp5min now
  · intro window hwindow
    rcases List.mem_append.mp hwindow with hold | hnew
    · exact haged.ended window hold
    · rcases hgroup window hnew with ⟨_, _, hmultiple, _, hhigh⟩
      exact ⟨hmultiple, Int.le_trans hhigh hcutoff⟩
  · intro window hwindow r hr
    rcases List.mem_append.mp hwindow with hold | hnew
    · exact h.rows window hold r hr
    · rw [(hgroup window hnew).left] at hr
      exact (mem_windowRows.mp hr).right.right
  · intro r hr hown
    exact h.counted_rollUp5min mean hr hown
  · intro r hr hown hlow window hwindow
    rcases List.mem_append.mp hwindow with hold | hnew
    · exact h.ahead r hr hown (Int.le_trans hge hlow) window hold
    · exact Int.le_trans (group_le_mark mean h.shape haligned hnew) hlow

theorem Kept.rollUp5min {w : Ledger V} (h : Kept w) (now : Instant) :
    Kept
      { store := (Store.rollUp5min mean now w.store).1
        clock := now
        recorded := w.recorded
        counted := w.counted ++ fiveMinuteGroups now w.store } := by
  intro r hr
  rcases h r hr with hin | hcounted
  · exact Or.inl hin
  · rcases hcounted with ⟨window, hwindow, hin⟩
    exact Or.inr ⟨window, List.mem_append_left _ hwindow, hin⟩

end RollUp

/-!
## Pruning
-/

/-- The own raw rows that pruning deletes lie between the epoch and the mark. -/
def BehindMark (now : Instant) (s : LogStore V) : Prop :=
  forall r, r ∈ s.raw -> r.peerNodeId = s.own -> r.ts < rawCutoff now ->
    0 <= r.ts ∧ r.ts < mark s

instance (now : Instant) (s : LogStore V) : Decidable (BehindMark now s) :=
  inferInstanceAs (Decidable (forall r, r ∈ s.raw -> _))

theorem Booked.prune {w : Ledger V} (h : Booked w) {now : Instant} (hnow : w.clock <= now) :
    Booked
      { store := (Store.prune now w.store).1
        clock := now
        recorded := w.recorded
        counted := w.counted } := by
  have haged := h.aged hnow
  have hmark := mark_prune h.shape h.marked.left now
  have hshape : Shaped BUCKET_5MIN_SECS (Store.prune now w.store).1 :=
    fun b hb => h.shape b (mem_sized_prune (s := w.store).mp hb).right
  constructor
  · exact haged.recorded
  · intro r hr hown
    exact h.stored r (mem_raw_prune.mp hr).left hown
  · exact hshape
  · intro b hb
    exact haged.grid b (mem_sized_prune (s := w.store).mp hb).right
  · exact h.windows
  · exact haged.ended
  · exact h.rows
  · intro r hr hown
    rcases mem_raw_prune.mp hr with ⟨hin, hcutoff⟩
    have hold := h.counted r hin hown
    rcases hmark with hsame | hlower
    · show w.Counted r <-> 0 <= r.ts ∧ r.ts < mark (Store.prune now w.store).1
      rw [hsame]
      exact hold
    · -- whatever is left lies past the old mark
      have hpast : rawCutoff now <= r.ts := hcutoff
      constructor
      · intro hcounted
        have hbounds := hold.mp hcounted
        omega
      · intro hbounds
        have hlt : r.ts < mark (Store.prune now w.store).1 := hbounds.right
        omega
  · intro r hr hown hlow window hwindow
    rcases mem_raw_prune.mp hr with ⟨hin, hcutoff⟩
    have hpast : rawCutoff now <= r.ts := hcutoff
    have hlow' : mark (Store.prune now w.store).1 <= r.ts := hlow
    exact h.ahead r hin hown (by omega) window hwindow

theorem Kept.prune {w : Ledger V} (h : Kept w) (hbooked : Booked w) {now : Instant}
    (hcovers : BehindMark now w.store) :
    Kept
      { store := (Store.prune now w.store).1
        clock := now
        recorded := w.recorded
        counted := w.counted } := by
  intro r hr
  rcases h r hr with hin | hcounted
  · by_cases hcutoff : r.ts < rawCutoff now
    · have hown := (hbooked.recorded r (List.mem_of_find?_eq_some hr)).left
      exact Or.inr ((hbooked.counted r hin hown).mpr (hcovers r hin hown hcutoff))
    · exact Or.inl (mem_raw_prune.mpr ⟨hin, Int.not_lt.mp hcutoff⟩)
  · exact Or.inr hcounted

/-!
## One job
-/

section Steps

variable [LinearOrder V] (mean : List V -> V) (readable : EventRow -> Bool)

/-- `roll_hourly` leaves the 5-minute rows alone. -/
theorem sized_rollHourly (now : Instant) (s : LogStore V) :
    sized s.own BUCKET_5MIN_SECS (rollHourly mean now s).1.buckets =
      sized s.own BUCKET_5MIN_SECS s.buckets := by
  apply filter_insertMany
  intro b hb
  rcases mem_hourlyRows mean hb with ⟨hour, _, _, rfl⟩
  apply decide_eq_false
  intro h
  have hsize : BUCKET_1HOUR_SECS = BUCKET_5MIN_SECS := h.right
  revert hsize
  decide

/-- A job that writes no raw row and takes no window only moves the clock. -/
theorem ledger_step_idle {w : Ledger V} {job : Job V} (hwritten : Ledger.written w.store job = [])
    (htaken : Ledger.taken mean w.store job = []) :
    (ledgers mean readable).step w job =
      { w with store := job.run mean readable w.store, clock := job.now } := by
  show Ledger.step mean readable w job = _
  rw [Ledger.step, hwritten, htaken, List.nil_append, List.append_nil]

theorem ledger_step_rollUp5min {w : Ledger V} (h : Booked w) (now : Instant) :
    (ledgers mean readable).step w (Job.rollUp5min now) =
      { store := (rollUp5min mean now w.store).1
        clock := now
        recorded := w.recorded
        counted := w.counted ++ fiveMinuteGroups now w.store } := by
  show Ledger.step mean readable w (Job.rollUp5min now) = _
  rw [Ledger.step, taken_rollUp5min mean h.shape h.marked.right.left]
  rfl

theorem ledger_step_recordSnapshot (w : Ledger V) (snap : Snapshot V) (now : Instant) :
    (ledgers mean readable).step w (Job.recordSnapshot snap now) =
      { store := recordSnapshot snap now w.store
        clock := now
        recorded := recordedRow snap now w.store :: w.recorded
        counted := w.counted } := by
  show Ledger.step mean readable w (Job.recordSnapshot snap now) = _
  unfold Ledger.step Ledger.taken
  rw [List.append_nil]
  rfl

theorem booked_step {w : Ledger V} {job : Job V} (h : Booked w) (hnow : w.clock <= job.now) :
    Booked ((ledgers mean readable).step w job) := by
  cases job with
  | recordEvent event detail now =>
      rw [ledger_step_idle mean readable rfl rfl]
      exact h.later hnow rfl rfl rfl
  | recordSnapshot snap now =>
      rw [ledger_step_recordSnapshot]
      exact h.recordSnapshot hnow
  | rollUp5min now =>
      rw [ledger_step_rollUp5min mean readable h]
      exact h.rollUp5min mean hnow
  | rollHourly now =>
      rw [ledger_step_idle mean readable rfl rfl]
      exact h.later hnow rfl rfl (sized_rollHourly mean now w.store)
  | rollDaily now =>
      rw [ledger_step_idle mean readable rfl rfl]
      exact h.later hnow rfl rfl rfl
  | prune now =>
      rw [ledger_step_idle mean readable rfl rfl]
      exact h.prune hnow

theorem kept_step {w : Ledger V} {job : Job V} (h : Kept w) (hbooked : Booked w)
    (hcovers : forall now, job = Job.prune now -> BehindMark now w.store) :
    Kept ((ledgers mean readable).step w job) := by
  cases job with
  | recordEvent event detail now =>
      rw [ledger_step_idle mean readable rfl rfl]
      exact h
  | recordSnapshot snap now =>
      rw [ledger_step_recordSnapshot]
      exact h.recordSnapshot snap now
  | rollUp5min now =>
      rw [ledger_step_rollUp5min mean readable hbooked]
      exact h.rollUp5min mean now
  | rollHourly now =>
      rw [ledger_step_idle mean readable rfl rfl]
      exact h
  | rollDaily now =>
      rw [ledger_step_idle mean readable rfl rfl]
      exact h
  | prune now =>
      rw [ledger_step_idle mean readable rfl rfl]
      exact h.prune hbooked (hcovers now rfl)

end Steps

theorem Booked.timesCounted_le [DecidableEq V] {w : Ledger V} (h : Booked w) (r : RawRow V) :
    w.timesCounted r <= 1 := by
  apply countP_le_one h.windows
  intro window hwindow hin
  exact (h.rows window hwindow r (of_decide_eq_true hin)).symm

theorem Booked.timesCounted_eq [DecidableEq V] {w : Ledger V} (h : Booked w) {r : RawRow V} :
    w.timesCounted r = 1 <-> w.Counted r := by
  have hle := h.timesCounted_le r
  have hpos : 0 < w.timesCounted r <-> w.Counted r := by
    rw [Ledger.timesCounted, List.countP_pos_iff]
    simp only [decide_eq_true_iff, Ledger.Counted]
  rw [← hpos]
  omega

theorem exists_lastOf_row {w : Ledger V} {r : RawRow V} (hr : r ∈ w.recorded) :
    exists r', w.lastOf r.ts = some r' ∧ r' ∈ w.recorded ∧ r'.ts = r.ts := by
  unfold Ledger.lastOf
  cases hfind : w.recorded.find? (fun r' => decide (r'.ts = r.ts)) with
  | none =>
      have hother := List.find?_eq_none.mp hfind r hr
      exact absurd (decide_eq_true rfl) hother
  | some r' =>
      have hts := List.find?_some hfind
      exact ⟨r', rfl, List.mem_of_find?_eq_some hfind, of_decide_eq_true hts⟩

theorem lastOf_ownSecond {w : Ledger V} {r : RawRow V} (hr : r ∈ w.recorded)
    (hown : w.OwnSecond r) : w.lastOf r.ts = some r := by
  rcases exists_lastOf_row hr with ⟨r', hlast, hrecorded, hts⟩
  rw [hlast, hown r' hrecorded hts]

end Store
end PanicMonitr
