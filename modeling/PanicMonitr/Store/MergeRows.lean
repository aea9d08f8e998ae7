import PanicMonitr.Store.Merge

/-!
# The rows of a payload

Which rows a payload inserts, and whether the merge raises, does not depend on what the
store holds.  A second merge of the payload therefore meets its own rows.
-/

namespace PanicMonitr
namespace Store

open Foundation
open Trust

/-!
## Rows to insert
-/

/-- The rows a part of a payload inserts, table by table. -/
structure Inserted where
  snapshots : List PeerSnapshot
  events : List EventRow
  buckets : List PeerBucket
  daily : List PeerDay

namespace Inserted

def none : Inserted :=
  { snapshots := [], events := [], buckets := [], daily := [] }

def append (i j : Inserted) : Inserted :=
  { snapshots := i.snapshots ++ j.snapshots
    events := i.events ++ j.events
    buckets := i.buckets ++ j.buckets
    daily := i.daily ++ j.daily }

structure About (peerNodeId : String) (i : Inserted) : Prop where
  snapshots : forall r, r ∈ i.snapshots -> r.peerNodeId = peerNodeId
  events : forall r, r ∈ i.events -> r.peerNodeId = peerNodeId
  buckets : forall r, r ∈ i.buckets -> r.peerNodeId = peerNodeId
  daily : forall r, r ∈ i.daily -> r.peerNodeId = peerNodeId

theorem About.none (peerNodeId : String) : About peerNodeId Inserted.none := by
  constructor <;> exact fun r hr => by cases hr

theorem About.append {peerNodeId : String} {i j : Inserted} (hi : About peerNodeId i)
    (hj : About peerNodeId j) : About peerNodeId (i.append j) := by
  constructor
  · exact fun r hr => (List.mem_append.mp hr).elim (hi.snapshots r) (hj.snapshots r)
  · exact fun r hr => (List.mem_append.mp hr).elim (hi.events r) (hj.events r)
  · exact fun r hr => (List.mem_append.mp hr).elim (hi.buckets r) (hj.buckets r)
  · exact fun r hr => (List.mem_append.mp hr).elim (hi.daily r) (hj.daily r)

end Inserted

def PeerStore.insert (s : PeerStore) (i : Inserted) : PeerStore :=
  { snapshots := insertMany snapshotKey s.snapshots i.snapshots
    events := insertMany eventKey s.events i.events
    buckets := insertMany peerBucketKey s.buckets i.buckets
    daily := replaceMany dayKey s.daily i.daily }

theorem insert_append (s : PeerStore) (i j : Inserted) :
    s.insert (i.append j) = (s.insert i).insert j := by
  unfold PeerStore.insert Inserted.append insertMany replaceMany
  simp only [List.foldl_append]

theorem insert_insert (s : PeerStore) (i : Inserted) : (s.insert i).insert i = s.insert i := by
  unfold PeerStore.insert
  simp only [insertMany_insertMany, replaceMany_replaceMany]

/-!
## One item
-/

section Items

variable (rt : Runtime) (peerNodeId : String)

theorem mergeSnapshot_cases (snap : Json) :
    (exists e, forall s, mergeSnapshot rt peerNodeId snap s = Except.error e) ∨
      (forall s, mergeSnapshot rt peerNodeId snap s = Except.ok (s, false)) ∨
        exists r : PeerSnapshot, r.peerNodeId = peerNodeId ∧
          forall s, mergeSnapshot rt peerNodeId snap s =
            Except.ok ({ s with snapshots := insertOrIgnore snapshotKey s.snapshots r },
              isFree snapshotKey s.snapshots r) := by
  unfold mergeSnapshot
  cases snap with
  | obj fields =>
      simp only
      cases (snapshotTime fields).bind (secondsOf rt) with
      | none => exact Or.inr (Or.inl (fun _ => rfl))
      | some n =>
          simp only
          cases boundInt rt n with
          | error e => exact Or.inl ⟨e, fun _ => rfl⟩
          | ok ts =>
              exact Or.inr (Or.inr ⟨_, rfl, fun _ => rfl⟩)
  | _ => exact Or.inl ⟨_, fun _ => rfl⟩

theorem mergeEvent_cases (ev : Json) :
    (exists e, forall s, mergeEvent rt peerNodeId ev s = Except.error e) ∨
      (forall s, mergeEvent rt peerNodeId ev s = Except.ok (s, false)) ∨
        exists r : EventRow, r.peerNodeId = peerNodeId ∧
          forall s, mergeEvent rt peerNodeId ev s =
            Except.ok ({ s with events := insertOrIgnore eventKey s.events r },
              isFree eventKey s.events r) := by
  unfold mergeEvent
  cases ev with
  | obj fields =>
      simp only
      cases getSome "ts" fields with
      | none => exact Or.inr (Or.inl (fun _ => rfl))
      | some value =>
          simp only
          cases millisOf rt value with
          | error e => exact Or.inl ⟨e, fun _ => rfl⟩
          | ok read =>
              cases read with
              | none => exact Or.inr (Or.inl (fun _ => rfl))
              | some n =>
                  simp only
                  cases boundInt rt n with
                  | error e => exact Or.inl ⟨e, fun _ => rfl⟩
                  | ok ts =>
                      cases eventText rt fields with
                      | error e => exact Or.inl ⟨e, fun _ => rfl⟩
                      | ok event =>
                          exact Or.inr (Or.inr ⟨_, rfl, fun _ => rfl⟩)
  | _ => exact Or.inl ⟨_, fun _ => rfl⟩

/-- An item of `buckets` is refused, skipped, a window, or a day. -/
def BucketCases (merge : PeerStore -> Except StoreError (PeerStore × Bool)) : Prop :=
  (exists e, forall s, merge s = Except.error e) ∨
    (forall s, merge s = Except.ok (s, false)) ∨
      (exists r : PeerBucket, r.peerNodeId = peerNodeId ∧
        forall s, merge s =
          Except.ok ({ s with buckets := insertOrIgnore peerBucketKey s.buckets r },
            isFree peerBucketKey s.buckets r)) ∨
        exists r : PeerDay, r.peerNodeId = peerNodeId ∧
          forall s, merge s =
            Except.ok ({ s with daily := insertOrReplace dayKey s.daily r }, true)

theorem insertBucket_cases (fields : List (String × Json)) (windowStart windowEnd : Int) :
    BucketCases peerNodeId (insertBucket rt peerNodeId fields windowStart windowEnd) := by
  have hrow : forall bucketSize samples stats, BucketCases peerNodeId (fun s : PeerStore =>
      let r :=
        { peerNodeId := peerNodeId
          windowStart := windowStart
          windowEnd := windowEnd
          bucketSize := bucketSize
          stats := stats
          samples := samples }
      Except.ok
        ({ s with buckets := insertOrIgnore peerBucketKey s.buckets r },
          isFree peerBucketKey s.buckets r)) := by
    intro bucketSize samples stats
    exact Or.inr (Or.inr (Or.inl ⟨_, rfl, fun _ => rfl⟩))
  unfold insertBucket
  split
  · exact Or.inl ⟨_, fun _ => rfl⟩
  · exact Or.inl ⟨_, fun _ => rfl⟩
  · exact Or.inr (Or.inl (fun _ => rfl))
  · exact Or.inr (Or.inl (fun _ => rfl))
  · exact hrow _ _ _
  · exact Or.inr (Or.inl (fun _ => rfl))

theorem mergeWindow_cases (fields : List (String × Json)) :
    BucketCases peerNodeId (mergeWindow rt peerNodeId fields) := by
  unfold mergeWindow
  split
  · rename_i ws we _ _
    cases boundInt rt ws with
    | error e => exact Or.inl ⟨e, fun _ => rfl⟩
    | ok windowStart =>
        cases boundInt rt we with
        | error e => exact Or.inl ⟨e, fun _ => rfl⟩
        | ok windowEnd => exact insertBucket_cases rt peerNodeId fields windowStart windowEnd
  · exact Or.inr (Or.inl (fun _ => rfl))

theorem mergeDay_cases (fields : List (String × Json)) (date : Json) :
    BucketCases peerNodeId (mergeDay rt peerNodeId fields date) := by
  unfold mergeDay
  split
  · exact Or.inl ⟨_, fun _ => rfl⟩
  · exact Or.inl ⟨_, fun _ => rfl⟩
  · exact Or.inr (Or.inr (Or.inr ⟨_, rfl, fun _ => rfl⟩))

theorem mergeBucket_cases (b : Json) :
    BucketCases peerNodeId (mergeBucket rt peerNodeId b) := by
  unfold mergeBucket
  cases contains "window_start" b with
  | error e => exact Or.inl ⟨e, fun _ => rfl⟩
  | ok window =>
      cases window with
      | true =>
          cases b with
          | obj fields => exact mergeWindow_cases rt peerNodeId fields
          | _ => exact Or.inl ⟨_, fun _ => rfl⟩
      | false =>
          simp only
          cases contains "date" b with
          | error e => exact Or.inl ⟨e, fun _ => rfl⟩
          | ok day =>
              cases day with
              | false => exact Or.inr (Or.inl (fun _ => rfl))
              | true =>
                  cases b with
                  | obj fields => exact mergeDay_cases rt peerNodeId fields _
                  | _ => exact Or.inl ⟨_, fun _ => rfl⟩

end Items

/-!
## Loops and payloads
-/

/-- The outcome and the rows of a merge, for whatever the store holds. -/
def InsertsOf {α : Type} (peerNodeId : String)
    (merge : PeerStore -> PeerStore × Except StoreError α) (i : Inserted) : Prop :=
  i.About peerNodeId ∧
    ((exists e, forall s, merge s = (s.insert i, Except.error e)) ∨
      forall s, exists result, merge s = (s.insert i, Except.ok result))

def ItemInserts (peerNodeId : String)
    (merge : PeerStore -> Except StoreError (PeerStore × Bool)) : Prop :=
  (exists e, forall s, merge s = Except.error e) ∨
    exists i : Inserted, i.About peerNodeId ∧
      forall s, exists merged, merge s = Except.ok (s.insert i, merged)

theorem ItemInserts.skip {peerNodeId : String}
    {merge : PeerStore -> Except StoreError (PeerStore × Bool)}
    (h : forall s, merge s = Except.ok (s, false)) : ItemInserts peerNodeId merge :=
  Or.inr ⟨Inserted.none, Inserted.About.none peerNodeId, fun s => ⟨false, h s⟩⟩

theorem mergeSnapshot_inserts (rt : Runtime) (peerNodeId : String) (snap : Json) :
    ItemInserts peerNodeId (mergeSnapshot rt peerNodeId snap) := by
  rcases mergeSnapshot_cases rt peerNodeId snap with herror | hskip | ⟨r, hr, hrow⟩
  · exact Or.inl herror
  · exact ItemInserts.skip hskip
  · refine Or.inr ⟨{ Inserted.none with snapshots := [r] }, ?_, fun s => ⟨_, hrow s⟩⟩
    exact { Inserted.About.none peerNodeId with
      snapshots := fun r' hr' => by rw [List.mem_singleton.mp hr', hr] }

theorem mergeEvent_inserts (rt : Runtime) (peerNodeId : String) (ev : Json) :
    ItemInserts peerNodeId (mergeEvent rt peerNodeId ev) := by
  rcases mergeEvent_cases rt peerNodeId ev with herror | hskip | ⟨r, hr, hrow⟩
  · exact Or.inl herror
  · exact ItemInserts.skip hskip
  · refine Or.inr ⟨{ Inserted.none with events := [r] }, ?_, fun s => ⟨_, hrow s⟩⟩
    exact { Inserted.About.none peerNodeId with
      events := fun r' hr' => by rw [List.mem_singleton.mp hr', hr] }

theorem mergeBucket_inserts (rt : Runtime) (peerNodeId : String) (b : Json) :
    ItemInserts peerNodeId (mergeBucket rt peerNodeId b) := by
  rcases mergeBucket_cases rt peerNodeId b with herror | hskip | ⟨r, hr, hrow⟩ | ⟨r, hr, hrow⟩
  · exact Or.inl herror
  · exact ItemInserts.skip hskip
  · refine Or.inr ⟨{ Inserted.none with buckets := [r] }, ?_, fun s => ⟨_, hrow s⟩⟩
    exact { Inserted.About.none peerNodeId with
      buckets := fun r' hr' => by rw [List.mem_singleton.mp hr', hr] }
  · refine Or.inr ⟨{ Inserted.none with daily := [r] }, ?_, fun s => ⟨_, hrow s⟩⟩
    exact { Inserted.About.none peerNodeId with
      daily := fun r' hr' => by rw [List.mem_singleton.mp hr', hr] }

theorem forEach_inserts {peerNodeId : String}
    {merge : Json -> PeerStore -> Except StoreError (PeerStore × Bool)}
    (hmerge : forall item, ItemInserts peerNodeId (merge item)) (items : List Json) :
    exists i, InsertsOf peerNodeId (forEach merge items) i := by
  induction items with
  | nil => exact ⟨Inserted.none, Inserted.About.none peerNodeId, Or.inr (fun s => ⟨0, rfl⟩)⟩
  | cons item items ih =>
      rcases ih with ⟨j, hj, hrest⟩
      rcases hmerge item with ⟨e, herror⟩ | ⟨i, hi, hitem⟩
      · refine ⟨Inserted.none, Inserted.About.none peerNodeId, Or.inl ⟨e, fun s => ?_⟩⟩
        rw [forEach, herror]
        rfl
      · refine ⟨i.append j, hi.append hj, ?_⟩
        rcases hrest with ⟨e, herror⟩ | hok
        · refine Or.inl ⟨e, fun s => ?_⟩
          rcases hitem s with ⟨merged, hs⟩
          simp only [forEach, hs, herror, insert_append]
        · refine Or.inr (fun s => ?_)
          rcases hitem s with ⟨merged, hs⟩
          rcases hok (s.insert i) with ⟨n, hn⟩
          exact ⟨merged.toNat + n, by simp only [forEach, hs, hn, insert_append]⟩

theorem mergeAll_inserts {peerNodeId : String}
    {merge : Json -> PeerStore -> Except StoreError (PeerStore × Bool)}
    (hmerge : forall item, ItemInserts peerNodeId (merge item)) (key : String)
    (payload : List (String × Json)) :
    exists i, InsertsOf peerNodeId (mergeAll merge key payload) i := by
  have hnone : Inserted.none.About peerNodeId := Inserted.About.none peerNodeId
  unfold mergeAll
  cases Assoc.get? key payload with
  | none => exact ⟨Inserted.none, hnone, Or.inr (fun s => ⟨0, rfl⟩)⟩
  | some value =>
      simp only
      by_cases htruthy : truthy value = true
      · simp only [htruthy, if_true]
        cases pyList value with
        | error e => exact ⟨Inserted.none, hnone, Or.inl ⟨_, fun s => rfl⟩⟩
        | ok items => exact forEach_inserts hmerge items
      · simp only [htruthy]
        exact ⟨Inserted.none, hnone, Or.inr (fun s => ⟨0, rfl⟩)⟩

/-- A payload inserts its rows, about its peer, up to the item that raises. -/
theorem mergeSyncPayload_inserts (rt : Runtime) (peerNodeId : String)
    (payload : List (String × Json)) :
    exists i, InsertsOf peerNodeId (mergeSyncPayload rt peerNodeId payload) i := by
  rcases mergeAll_inserts (mergeSnapshot_inserts rt peerNodeId) "raw_snapshots" payload with
    ⟨i, hi, hsnapshots⟩
  rcases mergeAll_inserts (mergeEvent_inserts rt peerNodeId) "events" payload with
    ⟨j, hj, hevents⟩
  rcases mergeAll_inserts (mergeBucket_inserts rt peerNodeId) "buckets" payload with
    ⟨k, hk, hbuckets⟩
  rcases hsnapshots with ⟨e, herror⟩ | hsnapshots
  · exact ⟨i, hi, Or.inl ⟨e, fun s => by simp only [mergeSyncPayload, herror]⟩⟩
  rcases hevents with ⟨e, herror⟩ | hevents
  · refine ⟨i.append j, hi.append hj, Or.inl ⟨e, fun s => ?_⟩⟩
    rcases hsnapshots s with ⟨n, hn⟩
    simp only [mergeSyncPayload, hn, herror, insert_append]
  refine ⟨(i.append j).append k, (hi.append hj).append hk, ?_⟩
  rcases hbuckets with ⟨e, herror⟩ | hbuckets
  · refine Or.inl ⟨e, fun s => ?_⟩
    rcases hsnapshots s with ⟨n, hn⟩
    rcases hevents (s.insert i) with ⟨m, hm⟩
    simp only [mergeSyncPayload, hn, hm, herror, insert_append]
  · refine Or.inr (fun s => ?_)
    rcases hsnapshots s with ⟨n, hn⟩
    rcases hevents (s.insert i) with ⟨m, hm⟩
    rcases hbuckets ((s.insert i).insert j) with ⟨l, hl⟩
    exact ⟨_, by simp only [mergeSyncPayload, hn, hm, hl, insert_append]; rfl⟩

/-!
## Counts

What a loop reports is the number of rows its table has gained.
-/

/-- A table grows by the rows that are reported, or not at all. -/
def Counts (rows : PeerStore -> Nat)
    (merge : Json -> PeerStore -> Except StoreError (PeerStore × Bool)) : Prop :=
  forall item s s' merged, merge item s = Except.ok (s', merged) ->
    rows s' = rows s + merged.toNat

def Keeps (rows : PeerStore -> Nat)
    (merge : Json -> PeerStore -> Except StoreError (PeerStore × Bool)) : Prop :=
  forall item s s' merged, merge item s = Except.ok (s', merged) -> rows s' = rows s

section Counts

variable {rows : PeerStore -> Nat}
  {merge : Json -> PeerStore -> Except StoreError (PeerStore × Bool)}

theorem forEach_cons_ok {item : Json} {items : List Json} {s s' : PeerStore} {n : Nat}
    (h : forEach merge (item :: items) s = (s', Except.ok n)) :
    exists t merged m, merge item s = Except.ok (t, merged) ∧
      forEach merge items t = (s', Except.ok m) ∧ n = merged.toNat + m := by
  rw [forEach] at h
  cases hitem : merge item s with
  | error e =>
      rw [hitem] at h
      cases h
  | ok result =>
      rcases result with ⟨t, merged⟩
      rw [hitem] at h
      simp only at h
      cases hrest : forEach merge items t with
      | mk u outcome =>
          rw [hrest] at h
          cases outcome with
          | error e => cases h
          | ok m =>
              cases h
              exact ⟨t, merged, m, rfl, hrest, rfl⟩

theorem forEach_counts (hcounts : Counts rows merge) {items : List Json} {s s' : PeerStore}
    {n : Nat} (h : forEach merge items s = (s', Except.ok n)) : rows s' = rows s + n := by
  induction items generalizing s n with
  | nil =>
      cases h
      rfl
  | cons item items ih =>
      rcases forEach_cons_ok h with ⟨t, merged, m, hitem, hrest, hn⟩
      rw [ih hrest, hcounts item s t merged hitem, hn, Nat.add_assoc]

theorem forEach_keeps (hkeeps : Keeps rows merge) {items : List Json} {s s' : PeerStore}
    {n : Nat} (h : forEach merge items s = (s', Except.ok n)) : rows s' = rows s := by
  induction items generalizing s n with
  | nil =>
      cases h
      rfl
  | cons item items ih =>
      rcases forEach_cons_ok h with ⟨t, merged, m, hitem, hrest, _⟩
      rw [ih hrest, hkeeps item s t merged hitem]

theorem mergeAll_ok {key : String} {payload : List (String × Json)} {s s' : PeerStore}
    {n : Nat} (h : mergeAll merge key payload s = (s', Except.ok n)) :
    exists items, forEach merge items s = (s', Except.ok n) := by
  unfold mergeAll at h
  split at h
  · exact ⟨[], h⟩
  split at h
  · split at h
    · cases h
    · exact ⟨_, h⟩
  · exact ⟨[], h⟩

theorem mergeAll_counts (hcounts : Counts rows merge) {key : String}
    {payload : List (String × Json)} {s s' : PeerStore} {n : Nat}
    (h : mergeAll merge key payload s = (s', Except.ok n)) : rows s' = rows s + n := by
  rcases mergeAll_ok h with ⟨items, hitems⟩
  exact forEach_counts hcounts hitems

theorem mergeAll_keeps (hkeeps : Keeps rows merge) {key : String}
    {payload : List (String × Json)} {s s' : PeerStore} {n : Nat}
    (h : mergeAll merge key payload s = (s', Except.ok n)) : rows s' = rows s := by
  rcases mergeAll_ok h with ⟨items, hitems⟩
  exact forEach_keeps hkeeps hitems

end Counts

section Tables

variable (rt : Runtime) (peerNodeId : String)

/-- An item that is not refused is skipped or puts one row into its table. -/
theorem mergeSnapshot_ok (snap : Json) {s s' : PeerStore} {merged : Bool}
    (h : mergeSnapshot rt peerNodeId snap s = Except.ok (s', merged)) :
    (s' = s ∧ merged = false) ∨ exists r,
      s' = { s with snapshots := insertOrIgnore snapshotKey s.snapshots r } ∧
        merged = isFree snapshotKey s.snapshots r := by
  rcases mergeSnapshot_cases rt peerNodeId snap with ⟨e, herror⟩ | hskip | ⟨r, _, hrow⟩
  · rw [herror] at h
    cases h
  · rw [hskip] at h
    cases h
    exact Or.inl ⟨rfl, rfl⟩
  · rw [hrow] at h
    cases h
    exact Or.inr ⟨r, rfl, rfl⟩

theorem mergeEvent_ok (ev : Json) {s s' : PeerStore} {merged : Bool}
    (h : mergeEvent rt peerNodeId ev s = Except.ok (s', merged)) :
    (s' = s ∧ merged = false) ∨ exists r,
      s' = { s with events := insertOrIgnore eventKey s.events r } ∧
        merged = isFree eventKey s.events r := by
  rcases mergeEvent_cases rt peerNodeId ev with ⟨e, herror⟩ | hskip | ⟨r, _, hrow⟩
  · rw [herror] at h
    cases h
  · rw [hskip] at h
    cases h
    exact Or.inl ⟨rfl, rfl⟩
  · rw [hrow] at h
    cases h
    exact Or.inr ⟨r, rfl, rfl⟩

theorem mergeBucket_ok (b : Json) {s s' : PeerStore} {merged : Bool}
    (h : mergeBucket rt peerNodeId b s = Except.ok (s', merged)) :
    exists rows daily,
      s' = { s with buckets := insertMany peerBucketKey s.buckets rows, daily := daily } := by
  rcases mergeBucket_cases rt peerNodeId b with ⟨e, herror⟩ | hskip | ⟨r, _, hrow⟩ |
    ⟨r, _, hrow⟩
  · rw [herror] at h
    cases h
  · rw [hskip] at h
    cases h
    exact ⟨[], s.daily, rfl⟩
  · rw [hrow] at h
    cases h
    exact ⟨[r], s.daily, rfl⟩
  · rw [hrow] at h
    cases h
    exact ⟨[], _, rfl⟩

theorem mergeSnapshot_counts :
    Counts (fun s => s.snapshots.length) (mergeSnapshot rt peerNodeId) ∧
      Keeps (fun s => s.events.length) (mergeSnapshot rt peerNodeId) := by
  constructor
  · intro snap s s' merged h
    rcases mergeSnapshot_ok rt peerNodeId snap h with ⟨rfl, rfl⟩ | ⟨r, rfl, rfl⟩
    · rfl
    · exact length_insertOrIgnore snapshotKey s.snapshots r
  · intro snap s s' merged h
    rcases mergeSnapshot_ok rt peerNodeId snap h with ⟨rfl, _⟩ | ⟨r, rfl, _⟩
    · rfl
    · rfl

theorem mergeEvent_counts :
    Counts (fun s => s.events.length) (mergeEvent rt peerNodeId) ∧
      Keeps (fun s => s.snapshots.length) (mergeEvent rt peerNodeId) := by
  constructor
  · intro ev s s' merged h
    rcases mergeEvent_ok rt peerNodeId ev h with ⟨rfl, rfl⟩ | ⟨r, rfl, rfl⟩
    · rfl
    · exact length_insertOrIgnore eventKey s.events r
  · intro ev s s' merged h
    rcases mergeEvent_ok rt peerNodeId ev h with ⟨rfl, _⟩ | ⟨r, rfl, _⟩
    · rfl
    · rfl

theorem mergeBucket_keeps (b : Json) {s s' : PeerStore} {merged : Bool}
    (h : mergeBucket rt peerNodeId b s = Except.ok (s', merged)) :
    s'.snapshots = s.snapshots ∧ s'.events = s.events := by
  rcases mergeBucket_ok rt peerNodeId b h with ⟨rows, daily, rfl⟩
  exact ⟨rfl, rfl⟩

theorem mergeSyncPayload_counts {payload : List (String × Json)} {s s' : PeerStore}
    {result : MergeResult}
    (h : mergeSyncPayload rt peerNodeId payload s = (s', Except.ok result)) :
    s'.snapshots.length = s.snapshots.length + result.snapshotsMerged ∧
      s'.events.length = s.events.length + result.eventsMerged := by
  have hbucketSnapshots : Keeps (fun s => s.snapshots.length) (mergeBucket rt peerNodeId) :=
    fun b s s' merged hb => congrArg List.length (mergeBucket_keeps rt peerNodeId b hb).left
  have hbucketEvents : Keeps (fun s => s.events.length) (mergeBucket rt peerNodeId) :=
    fun b s s' merged hb => congrArg List.length (mergeBucket_keeps rt peerNodeId b hb).right
  unfold mergeSyncPayload at h
  split at h
  · cases h
  rename_i t snapshots hsnapshots
  split at h
  · cases h
  rename_i u events hevents
  split at h
  · cases h
  rename_i v buckets hbuckets
  cases h
  have hsnaps := mergeAll_counts (mergeSnapshot_counts rt peerNodeId).left hsnapshots
  have hkept := mergeAll_keeps (mergeEvent_counts rt peerNodeId).right hevents
  have hrest := mergeAll_keeps hbucketSnapshots hbuckets
  have hevs := mergeAll_counts (mergeEvent_counts rt peerNodeId).left hevents
  have hkept' := mergeAll_keeps (mergeSnapshot_counts rt peerNodeId).right hsnapshots
  have hrest' := mergeAll_keeps hbucketEvents hbuckets
  exact ⟨by rw [hrest, hkept, hsnaps], by rw [hrest', hevs, hkept']⟩

end Tables

/-!
## The second call
-/

/-- A second call with the same arguments leaves the tables as the first one left them. -/
theorem mergeSyncPayload_idempotent (rt : Runtime) (peerNodeId : String)
    (payload : List (String × Json)) (s : PeerStore) {result : MergeResult}
    (h : (mergeSyncPayload rt peerNodeId payload s).2 = Except.ok result) :
    exists again,
      mergeSyncPayload rt peerNodeId payload (mergeSyncPayload rt peerNodeId payload s).1 =
          ((mergeSyncPayload rt peerNodeId payload s).1, Except.ok again) ∧
        again.snapshotsMerged = 0 ∧ again.eventsMerged = 0 := by
  rcases mergeSyncPayload_inserts rt peerNodeId payload with ⟨i, _, ⟨e, herror⟩ | hok⟩
  · rw [herror] at h
    cases h
  · rcases hok s with ⟨first, hfirst⟩
    rcases hok (s.insert i) with ⟨again, hagain⟩
    rw [insert_insert] at hagain
    rw [hfirst]
    refine ⟨again, hagain, ?_⟩
    rcases mergeSyncPayload_counts rt peerNodeId hagain with ⟨hsnapshots, hevents⟩
    exact ⟨by omega, by omega⟩

/-! A payload with a snapshot and a day that both come twice. -/

def textRuntime : Runtime where
  intOfFloat _ := Except.error StoreError.overflowError
  millisOfFloat _ := Except.error StoreError.overflowError
  floatBelow _ _ := false
  naiveOffset _ := 0
  strOf _ := ""
  bind _ value := Except.ok value
  digit _ := none

def repeatedPayload : List (String × Json) :=
  [("raw_snapshots", Json.arr [Json.obj [("ts", Json.int 7)], Json.obj [("ts", Json.int 7)]]),
    ("buckets", Json.arr [Json.obj [("date", Json.str "2024-01-01")],
      Json.obj [("date", Json.str "2024-01-01"), ("incidents", Json.int 2)]])]

theorem mergeSyncPayload_idempotent_repeated :
    exists first, (mergeSyncPayload textRuntime "n" repeatedPayload PeerStore.empty).2 =
        Except.ok first ∧ first.snapshotsMerged = 1 ∧
      exists again, mergeSyncPayload textRuntime "n" repeatedPayload
          (mergeSyncPayload textRuntime "n" repeatedPayload PeerStore.empty).1 =
        ((mergeSyncPayload textRuntime "n" repeatedPayload PeerStore.empty).1,
          Except.ok again) ∧ again.snapshotsMerged = 0 ∧ again.eventsMerged = 0 :=
  ⟨_, rfl, rfl, mergeSyncPayload_idempotent textRuntime "n" repeatedPayload PeerStore.empty rfl⟩

end Store
end PanicMonitr
