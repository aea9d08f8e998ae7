import PanicMonitr.Store.Conservation

/-!
# The rows of the 5-minute roll-up

Without retention the 5-minute rows are the grouping of the raw rows by window, however
the roll-ups are spaced.  The roll-up starts at 0 when there is no row yet, so windows
before the epoch never get one.
-/

namespace PanicMonitr
namespace Store

open Foundation

variable {V : Type}

/-- The clock does not run backwards, and nothing is pruned. -/
def Unpruned (w : Ledger V) (job : Job V) : Prop :=
  w.clock <= job.now ∧
    match job with
    | Job.prune _ => False
    | _ => True

instance (w : Ledger V) (job : Job V) : Decidable (Unpruned w job) :=
  match job with
  | Job.recordEvent _ _ now => inferInstanceAs (Decidable (w.clock <= now ∧ True))
  | Job.recordSnapshot _ now => inferInstanceAs (Decidable (w.clock <= now ∧ True))
  | Job.rollUp5min now => inferInstanceAs (Decidable (w.clock <= now ∧ True))
  | Job.rollHourly now => inferInstanceAs (Decidable (w.clock <= now ∧ True))
  | Job.rollDaily now => inferInstanceAs (Decidable (w.clock <= now ∧ True))
  | Job.prune now => inferInstanceAs (Decidable (w.clock <= now ∧ False))

/-- The own 5-minute rows are those of the windows in the history, made of all their rows. -/
structure Grouped [LinearOrder V] (mean : List V -> V) (w : Ledger V) : Prop where
  buckets : sized w.store.own BUCKET_5MIN_SECS w.store.buckets =
    w.counted.map (bucketOf mean w.store.own)
  groups : forall window, window ∈ w.counted -> window.2 = windowRows window.1 w.store
  raw : forall r, w.lastOf r.ts = some r -> r ∈ w.store.raw
  seconds : ((w.store.raw.filter (fun r => decide (r.peerNodeId = w.store.own))).map
    RawRow.ts).Nodup

theorem windowRows_recordSnapshot {s : LogStore V} {snap : Snapshot V} {now : Instant}
    {start : Int} (haligned : start % BUCKET_5MIN_SECS = 0)
    (hended : start + BUCKET_5MIN_SECS <= epochOf now) :
    windowRows start (recordSnapshot snap now s) = windowRows start s := by
  have houtside : forall ts, ts = epochOf now -> windowOf BUCKET_5MIN_SECS ts ≠ start := by
    intro ts hts hstart
    have hbounds := (windowOf_iff ts fiveMinutes_pos haligned).mp hstart
    omega
  show orderBy RawRow.ts
    ((insertOrReplace rawKey s.raw (recordedRow snap now s)).filter _) = _
  unfold windowRows insertOrReplace
  rw [List.filter_append, List.filter_filter,
    List.filter_cons_of_neg
      (by simpa using fun _ => houtside (recordedRow snap now s).ts rfl),
    List.filter_nil, List.append_nil]
  congr 1
  apply List.filter_congr
  intro r _
  -- the row that is replaced has the second of the new one
  rw [← Bool.decide_and, decide_eq_decide]
  constructor
  · intro h
    exact h.left
  · intro h
    refine ⟨h, ?_⟩
    intro hkey
    exact houtside r.ts (Prod.mk.inj hkey).right h.right

theorem nodup_seconds_recordSnapshot {s : LogStore V} (snap : Snapshot V) (now : Instant)
    (h : ((s.raw.filter (fun r => decide (r.peerNodeId = s.own))).map RawRow.ts).Nodup) :
    (((recordSnapshot snap now s).raw.filter
      (fun r => decide (r.peerNodeId = s.own))).map RawRow.ts).Nodup := by
  show (((insertOrReplace rawKey s.raw (recordedRow snap now s)).filter _).map _).Nodup
  unfold insertOrReplace
  rw [List.filter_append, List.filter_cons_of_pos (by exact decide_eq_true rfl),
    List.filter_nil, List.map_append, List.map_singleton]
  apply List.Nodup.append
  · exact h.sublist ((List.filter_sublist.filter _).map _)
  · exact List.nodup_singleton _
  · intro ts hold hnew
    rcases List.mem_map.mp hold with ⟨r, hr, hts⟩
    rcases List.mem_filter.mp hr with ⟨hin, hown⟩
    have hkey := of_decide_eq_true (List.mem_filter.mp hin).right
    rw [List.mem_singleton.mp hnew] at hts
    exact hkey (Prod.ext (of_decide_eq_true hown) hts)

section Runs

variable [LinearOrder V] (mean : List V -> V) (readable : EventRow -> Bool)

theorem grouped_start {w : Ledger V} (h : w.Start) : Grouped mean w := by
  constructor
  · rw [h.buckets, h.counted]
    rfl
  · intro window hwindow
    rw [h.counted] at hwindow
    cases hwindow
  · intro r hr
    have hin := List.mem_of_find?_eq_some hr
    rw [h.recorded] at hin
    cases hin
  · have hnone : w.store.raw.filter (fun r => decide (r.peerNodeId = w.store.own)) = [] := by
      rw [List.filter_eq_nil_iff]
      intro r hr
      rw [decide_eq_true_iff]
      exact h.raw r hr
    rw [hnone]
    exact List.nodup_nil

theorem grouped_step {w : Ledger V} {job : Job V} (h : Grouped mean w) (hbooked : Booked w)
    (hjob : Unpruned w job) : Grouped mean ((ledgers mean readable).step w job) := by
  cases job with
  | recordEvent event detail now =>
      rw [ledger_step_idle mean readable rfl rfl]
      exact ⟨h.buckets, h.groups, h.raw, h.seconds⟩
  | recordSnapshot snap now =>
      have hepoch : epochOf w.clock <= epochOf now := epochOf_le hjob.left
      rw [ledger_step_recordSnapshot]
      constructor
      · exact h.buckets
      · intro window hwindow
        rcases hbooked.ended window hwindow with ⟨haligned, hended⟩
        show window.2 = windowRows window.1 (recordSnapshot snap now w.store)
        rw [windowRows_recordSnapshot haligned (Int.le_trans hended hepoch)]
        exact h.groups window hwindow
      · intro r hr
        rw [lastOf_recordedRow] at hr
        by_cases hts : epochOf now = r.ts
        · rw [if_pos hts] at hr
          exact mem_raw_recordedRow.mpr (Or.inr (Option.some.inj hr).symm)
        · rw [if_neg hts] at hr
          exact mem_raw_recordedRow.mpr
            (Or.inl ⟨h.raw r hr, fun hkey => hts (Prod.mk.inj hkey).right.symm⟩)
      · exact nodup_seconds_recordSnapshot snap now h.seconds
  | rollUp5min now =>
      have haligned := hbooked.marked.right.left
      rw [ledger_step_rollUp5min mean readable hbooked]
      constructor
      · show sized w.store.own _ (rollUp5min mean now w.store).1.buckets = _
        rw [sized_taken, taken_rollUp5min mean hbooked.shape haligned, h.buckets,
          List.map_append]
        rfl
      · intro window hwindow
        rcases List.mem_append.mp hwindow with hold | hnew
        · exact h.groups window hold
        · exact (mem_fiveMinuteGroups haligned hnew).left
      · exact h.raw
      · exact h.seconds
  | rollHourly now =>
      rw [ledger_step_idle mean readable rfl rfl]
      refine ⟨?_, h.groups, h.raw, h.seconds⟩
      exact (sized_rollHourly mean now w.store).trans h.buckets
  | rollDaily now =>
      rw [ledger_step_idle mean readable rfl rfl]
      exact ⟨h.buckets, h.groups, h.raw, h.seconds⟩
  | prune now => exact hjob.right.elim

theorem grouped_of_reachable {w : Ledger V}
    (hreach : (ledgers mean readable).Reachable Unpruned w) : Booked w ∧ Grouped mean w := by
  refine hreach.invariant (I := fun w => Booked w ∧ Grouped mean w) ?_ ?_
  · intro w hw
    exact ⟨booked_start hw, grouped_start mean hw⟩
  · intro w job h hjob
    exact ⟨booked_step mean readable h.left hjob.left,
      grouped_step mean readable h.right h.left hjob⟩

end Runs

/-!
## After a roll-up
-/

/-- The own 5-minute rows up to a cutoff, and the raw rows each of them counts. -/
structure RolledUp [LinearOrder V] (mean : List V -> V) (w : Ledger V) (cutoff : Int) :
    Prop where
  present : forall start, start % BUCKET_5MIN_SECS = 0 -> start + BUCKET_5MIN_SECS <= cutoff ->
    ((exists b, b ∈ sized w.store.own BUCKET_5MIN_SECS w.store.buckets ∧
        b.windowStart = start) <->
      0 <= start ∧ exists r, r ∈ w.recorded ∧ start <= r.ts ∧ r.ts < start + BUCKET_5MIN_SECS)
  row : forall b, b ∈ sized w.store.own BUCKET_5MIN_SECS w.store.buckets ->
    b = aggregateSnaps mean w.store.own ((windowRows b.windowStart w.store).map RawRow.payload)
      b.windowStart (b.windowStart + BUCKET_5MIN_SECS) BUCKET_5MIN_SECS
  rows : forall start r, r ∈ windowRows start w.store <->
    w.lastOf r.ts = some r ∧ windowOf BUCKET_5MIN_SECS r.ts = start
  ordered : forall start, (windowRows start w.store).Pairwise (fun a b => a.ts < b.ts)
  unique : ((sized w.store.own BUCKET_5MIN_SECS w.store.buckets).map
    StatBucket.windowStart).Nodup
  once : forall r, w.timesCounted r <= 1

section RolledUp

variable [LinearOrder V] {mean : List V -> V}

theorem mem_windowRows_iff {w : Ledger V} (hbooked : Booked w) (h : Grouped mean w)
    {start : Int} {r : RawRow V} :
    r ∈ windowRows start w.store <->
      w.lastOf r.ts = some r ∧ windowOf BUCKET_5MIN_SECS r.ts = start := by
  rw [mem_windowRows]
  constructor
  · intro hr
    rcases hr with ⟨hin, hown, hstart⟩
    exact ⟨hbooked.stored r hin hown, hstart⟩
  · intro hr
    rcases hr with ⟨hlast, hstart⟩
    exact ⟨h.raw r hlast, (hbooked.recorded r (List.mem_of_find?_eq_some hlast)).left, hstart⟩

theorem windowRows_ordered {w : Ledger V} (h : Grouped mean w) (start : Int) :
    (windowRows start w.store).Pairwise (fun a b => a.ts < b.ts) := by
  have hnodup : ((windowRows start w.store).map RawRow.ts).Nodup := by
    have hseconds : ((w.store.raw.filter (fun r => decide (r.peerNodeId = w.store.own ∧
        windowOf BUCKET_5MIN_SECS r.ts = start))).map RawRow.ts).Nodup := by
      refine h.seconds.sublist (List.Sublist.map _ ?_)
      apply List.monotone_filter_right
      intro r hr
      exact decide_eq_true (of_decide_eq_true hr).left
    exact (((orderBy_perm _ _).map RawRow.ts).nodup_iff).mpr hseconds
  have hsorted := orderBy_sorted RawRow.ts (w.store.raw.filter (fun r =>
    decide (r.peerNodeId = w.store.own ∧ windowOf BUCKET_5MIN_SECS r.ts = start)))
  have hdistinct := List.pairwise_map.mp hnodup
  refine (hsorted.and hdistinct).imp ?_
  intro a b hab
  have hle : a.ts <= b.ts := hab.left
  exact lt_of_le_of_ne hle hab.right

theorem exists_row_iff {w : Ledger V} (h : Grouped mean w) {start : Int} :
    (exists b, b ∈ sized w.store.own BUCKET_5MIN_SECS w.store.buckets ∧
        b.windowStart = start) <->
      exists window, window ∈ w.counted ∧ window.1 = start := by
  rw [h.buckets]
  constructor
  · intro hrow
    rcases hrow with ⟨b, hb, hstart⟩
    rcases List.mem_map.mp hb with ⟨window, hwindow, rfl⟩
    exact ⟨window, hwindow, hstart⟩
  · intro hwindow
    rcases hwindow with ⟨window, hin, hstart⟩
    exact ⟨bucketOf mean w.store.own window, List.mem_map_of_mem hin, hstart⟩

end RolledUp

/-- A row between the epoch and the cutoff is counted once the roll-up has run. -/
theorem counted_rollUp5min {w : Ledger V} (h : Booked w) {now : Instant} {r : RawRow V}
    (hr : r ∈ w.store.raw) (hown : r.peerNodeId = w.store.own) (hlow : 0 <= r.ts)
    (hhigh : r.ts < rollCutoff now) :
    exists window, window ∈ w.counted ++ fiveMinuteGroups now w.store ∧ r ∈ window.2 := by
  by_cases hbefore : r.ts < mark w.store
  · rcases (h.counted r hr hown).mpr ⟨hlow, hbefore⟩ with ⟨window, hwindow, hin⟩
    exact ⟨window, List.mem_append_left _ hwindow, hin⟩
  · rcases exists_group hr hown (Int.not_lt.mp hbefore) hhigh with ⟨window, hwindow, hin⟩
    exact ⟨window, List.mem_append_right _ hwindow, hin⟩

/-- However the roll-ups are spaced, the rows are the grouping of everything recorded. -/
theorem roll_up_5min_exact [LinearOrder V] (mean : List V -> V)
    (readable : EventRow -> Bool) {w : Ledger V}
    (hreach : (ledgers mean readable).Reachable Unpruned w) {now : Instant}
    (hnow : w.clock <= now) :
    RolledUp mean ((ledgers mean readable).step w (Job.rollUp5min now)) (rollCutoff now) := by
  rcases grouped_of_reachable mean readable hreach with ⟨hbefore, hraw⟩
  have hrolled : (ledgers mean readable).Reachable Unpruned
      ((ledgers mean readable).step w (Job.rollUp5min now)) :=
    hreach.step _ ⟨hnow, trivial⟩
  rcases grouped_of_reachable mean readable hrolled with ⟨hbooked, hgrouped⟩
  constructor
  · intro start haligned hend
    constructor
    · intro hrow
      rcases hrow with ⟨b, hb, hstart⟩
      have hpos := (hbooked.grid b hb).left
      have hsamples := (hbooked.shape b hb).right
      rw [hgrouped.buckets] at hb
      rcases List.mem_map.mp hb with ⟨window, hwindow, rfl⟩
      have hne : window.2 ≠ [] := by
        intro hnil
        have hcount : 1 <= ((window.2.map RawRow.payload).length : Int) := hsamples
        rw [hnil] at hcount
        exact absurd hcount (by decide : ¬ (1 : Int) <= 0)
      rcases List.exists_mem_of_ne_nil _ hne with ⟨r, hr⟩
      rw [hgrouped.groups window hwindow] at hr
      rcases (mem_windowRows_iff hbooked hgrouped).mp hr with ⟨hlast, hin⟩
      have hbounds := windowOf_le fiveMinutes_pos r.ts
      rw [hin] at hbounds
      rw [← hstart]
      exact ⟨hpos, r, List.mem_of_find?_eq_some hlast, hbounds⟩
    · intro hrecorded
      rcases hrecorded with ⟨hpos, r, hr, hlow, hhigh⟩
      have hr' : r ∈ w.recorded := by
        rw [ledger_step_rollUp5min mean readable hbefore] at hr
        exact hr
      rcases exists_lastOf_row hr' with ⟨last, hlast, _, hts⟩
      rw [← hts] at hlast hlow hhigh
      have hown := (hbefore.recorded last (List.mem_of_find?_eq_some hlast)).left
      rcases counted_rollUp5min hbefore (hraw.raw last hlast) hown (Int.le_trans hpos hlow)
        (Int.lt_of_lt_of_le hhigh hend) with ⟨window, hwindow, hin⟩
      apply (exists_row_iff hgrouped).mpr
      rw [ledger_step_rollUp5min mean readable hbefore] at hbooked ⊢
      refine ⟨window, hwindow, ?_⟩
      rw [← hbooked.rows window hwindow last hin]
      exact (windowOf_iff last.ts fiveMinutes_pos haligned).mpr ⟨hlow, hhigh⟩
  · intro b hb
    rw [hgrouped.buckets] at hb
    rcases List.mem_map.mp hb with ⟨window, hwindow, rfl⟩
    show bucketOf mean _ window = aggregateSnaps mean _ ((windowRows window.1 _).map _) _ _ _
    rw [← hgrouped.groups window hwindow]
    rfl
  · intro start r
    exact mem_windowRows_iff hbooked hgrouped
  · exact windowRows_ordered hgrouped
  · rw [hgrouped.buckets, List.map_map]
    exact hbooked.windows
  · exact hbooked.timesCounted_le

/-!
Two snapshots of the first window, and one from six minutes before the epoch.
-/

theorem roll_up_5min_exact_hour :
    let w := (ledgers integerMean (fun _ => true)).exec newLedger
      [Job.recordSnapshot idleSnapshot 0, Job.recordSnapshot idleSnapshot (100 * 1000000)]
    (newLedger.clock <= w.clock ∧ w.recorded.map RawRow.ts = [100, 0]) ∧
      RolledUp integerMean
        ((ledgers integerMean (fun _ => true)).step w (Job.rollUp5min (hours 1)))
        (rollCutoff (hours 1)) :=
  ⟨by decide,
    roll_up_5min_exact integerMean (fun _ => true)
      ⟨_, Machine.Run.exec (Machine.Run.start newLedger_start)
        [Job.recordSnapshot idleSnapshot 0, Job.recordSnapshot idleSnapshot (100 * 1000000)]
        (by decide)⟩
      (by decide)⟩

/-- A clock that has not reached the epoch records windows that are never rolled up. -/
theorem roll_up_5min_skips_before_epoch :
    ¬ forall (mean : List Int -> Int) (readable : EventRow -> Bool) (w : Ledger Int)
      (now : Instant), (ledgers mean readable).Reachable Unpruned w -> w.clock <= now ->
        forall start, start % BUCKET_5MIN_SECS = 0 ->
          start + BUCKET_5MIN_SECS <= rollCutoff now ->
          ((exists b, b ∈ sized w.store.own BUCKET_5MIN_SECS
              ((ledgers mean readable).step w (Job.rollUp5min now)).store.buckets ∧
              b.windowStart = start) <->
            exists r, r ∈ w.recorded ∧ start <= r.ts ∧ r.ts < start + BUCKET_5MIN_SECS) := by
  intro hclaim
  have hstart : (ledgers integerMean (fun _ => true)).Run Unpruned []
      { newLedger with clock := -hours 1 } :=
    Machine.Run.start ⟨newLedger_start.raw, rfl, rfl, rfl⟩
  have hiff := hclaim _ _ _ 0 ⟨_, hstart.exec
    [Job.recordSnapshot idleSnapshot (-(400 * 1000000))] (by decide)⟩ (by decide) (-600)
    (by decide) (by decide)
  have hrow := hiff.mpr (by decide)
  revert hrow
  decide

end Store
end PanicMonitr
