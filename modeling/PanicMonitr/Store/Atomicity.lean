import PanicMonitr.Store.MergeRows

/-!
# A merge that raises

`merge_sync_payload` commits every row on its own, where the roll-ups put theirs into one
transaction.  What a call that raises leaves behind is what the items before the one that
raised ask for; these rows are read off the payload alone.
-/

namespace PanicMonitr
namespace Store

open Foundation
open Trust

/-!
## What an item asks for
-/

section Items

variable (rt : Runtime) (peerNodeId : String)

def snapshotRows (snap : Json) : Except StoreError Inserted :=
  match snap with
  | Json.obj fields =>
      match (snapshotTime fields).bind (secondsOf rt) with
      | none => Except.ok Inserted.none
      | some n =>
          match boundInt rt n with
          | Except.error e => Except.error e
          | Except.ok ts =>
              Except.ok
                { Inserted.none with
                  snapshots := [{ peerNodeId := peerNodeId, ts := ts, payload := snap }] }
  | _ => Except.error (noGet snap)

def eventRows (ev : Json) : Except StoreError Inserted :=
  match ev with
  | Json.obj fields =>
      match getSome "ts" fields with
      | none => Except.ok Inserted.none
      | some value =>
          match millisOf rt value with
          | Except.error e => Except.error e
          | Except.ok none => Except.ok Inserted.none
          | Except.ok (some n) =>
              match boundInt rt n, eventText rt fields with
              | Except.error e, _ => Except.error e
              | _, Except.error e => Except.error e
              | Except.ok ts, Except.ok event =>
                  Except.ok
                    { Inserted.none with
                      events :=
                        [{ peerNodeId := peerNodeId
                           ts := ts
                           event := event
                           detail := detailText fields }] }
  | _ => Except.error (noGet ev)

def windowBucket (fields : List (String × Json)) (windowStart windowEnd : Int) :
    Except StoreError Inserted :=
  match boundAll rt Affinity.integer fields
      [("bucket_size", Json.int 0), ("samples", Json.int 0)],
    bucketStats rt fields with
  | Except.error e, _ => Except.error e
  | _, Except.error e => Except.error e
  | Except.ok [Json.null, _], _ => Except.ok Inserted.none
  | Except.ok [_, Json.null], _ => Except.ok Inserted.none
  | Except.ok [bucketSize, samples], Except.ok stats =>
      Except.ok
        { Inserted.none with
          buckets :=
            [{ peerNodeId := peerNodeId
               windowStart := windowStart
               windowEnd := windowEnd
               bucketSize := bucketSize
               stats := stats
               samples := samples }] }
  | Except.ok _, _ => Except.ok Inserted.none

def windowFields (fields : List (String × Json)) : Except StoreError Inserted :=
  match (getSome "window_start" fields).bind (secondsOf rt),
    (getSome "window_end" fields).bind (secondsOf rt) with
  | some ws, some we =>
      match boundInt rt ws, boundInt rt we with
      | Except.error e, _ => Except.error e
      | _, Except.error e => Except.error e
      | Except.ok windowStart, Except.ok windowEnd =>
          windowBucket rt peerNodeId fields windowStart windowEnd
  | _, _ => Except.ok Inserted.none

def dayFields (fields : List (String × Json)) (date : Json) : Except StoreError Inserted :=
  match boundAll rt Affinity.real fields
      [("uptime_pct", Json.null), ("avg_cpu", Json.null), ("avg_mem", Json.null)],
    boundAll rt Affinity.integer fields [("incidents", Json.int 0)] with
  | Except.error e, _ => Except.error e
  | _, Except.error e => Except.error e
  | Except.ok averages, Except.ok incidents =>
      Except.ok
        { Inserted.none with
          daily :=
            [{ peerNodeId := peerNodeId
               date := dateText rt date
               stats := averages ++ incidents }] }

def bucketRows (b : Json) : Except StoreError Inserted :=
  match contains "window_start" b with
  | Except.error e => Except.error e
  | Except.ok true =>
      match b with
      | Json.obj fields => windowFields rt peerNodeId fields
      | _ => Except.error (noGet b)
  | Except.ok false =>
      match contains "date" b with
      | Except.error e => Except.error e
      | Except.ok false => Except.ok Inserted.none
      | Except.ok true =>
          match b with
          | Json.obj fields =>
              dayFields rt peerNodeId fields ((Assoc.get? "date" fields).getD (Json.str ""))
          | _ => Except.error (noGet b)

end Items

/-- A merge does to the store what its rows say, whatever the store holds. -/
def Asks (merge : PeerStore -> Except StoreError (PeerStore × Bool))
    (rows : Except StoreError Inserted) : Prop :=
  (exists e, rows = Except.error e ∧ forall s, merge s = Except.error e) ∨
    exists i, rows = Except.ok i ∧ forall s, exists merged, merge s = Except.ok (s.insert i, merged)

theorem Asks.error (e : StoreError) : Asks (fun _ => Except.error e) (Except.error e) :=
  Or.inl ⟨e, rfl, fun _ => rfl⟩

theorem Asks.nothing :
    Asks (fun s => Except.ok (s, false)) (Except.ok Inserted.none) :=
  Or.inr ⟨Inserted.none, rfl, fun _ => ⟨false, rfl⟩⟩

section Items

variable (rt : Runtime) (peerNodeId : String)

theorem mergeSnapshot_asks (snap : Json) :
    Asks (mergeSnapshot rt peerNodeId snap) (snapshotRows rt peerNodeId snap) := by
  unfold mergeSnapshot snapshotRows
  cases snap with
  | obj fields =>
      simp only
      cases (snapshotTime fields).bind (secondsOf rt) with
      | none => exact Asks.nothing
      | some n =>
          simp only
          cases boundInt rt n with
          | error e => exact Asks.error e
          | ok ts => exact Or.inr ⟨_, rfl, fun s => ⟨_, rfl⟩⟩
  | _ => exact Asks.error _

theorem mergeEvent_asks (ev : Json) :
    Asks (mergeEvent rt peerNodeId ev) (eventRows rt peerNodeId ev) := by
  unfold mergeEvent eventRows
  cases ev with
  | obj fields =>
      simp only
      cases getSome "ts" fields with
      | none => exact Asks.nothing
      | some value =>
          simp only
          cases millisOf rt value with
          | error e => exact Asks.error e
          | ok read =>
              cases read with
              | none => exact Asks.nothing
              | some n =>
                  simp only
                  cases boundInt rt n with
                  | error e => exact Asks.error e
                  | ok ts =>
                      cases eventText rt fields with
                      | error e => exact Asks.error e
                      | ok event => exact Or.inr ⟨_, rfl, fun s => ⟨_, rfl⟩⟩
  | _ => exact Asks.error _

theorem insertBucket_asks (fields : List (String × Json)) (windowStart windowEnd : Int) :
    Asks (insertBucket rt peerNodeId fields windowStart windowEnd)
      (windowBucket rt peerNodeId fields windowStart windowEnd) := by
  unfold insertBucket windowBucket
  cases boundAll rt Affinity.integer fields
    [("bucket_size", Json.int 0), ("samples", Json.int 0)] with
  | error e => exact Asks.error e
  | ok counts =>
      cases bucketStats rt fields with
      | error e => exact Asks.error e
      | ok stats =>
          rcases counts with _ | ⟨bucketSize, _ | ⟨samples, _ | ⟨_, _⟩⟩⟩
          · exact Asks.nothing
          · cases bucketSize <;> exact Asks.nothing
          · -- a row that is refused for a `NULL`, or one row
            cases bucketSize with
            | null => exact Asks.nothing
            | _ =>
                cases samples with
                | null => exact Asks.nothing
                | _ => exact Or.inr ⟨_, rfl, fun s => ⟨_, rfl⟩⟩
          · cases bucketSize <;> cases samples <;> exact Asks.nothing

theorem mergeWindow_asks (fields : List (String × Json)) :
    Asks (mergeWindow rt peerNodeId fields) (windowFields rt peerNodeId fields) := by
  unfold mergeWindow windowFields
  cases (getSome "window_start" fields).bind (secondsOf rt) with
  | none => exact Asks.nothing
  | some ws =>
      cases (getSome "window_end" fields).bind (secondsOf rt) with
      | none => exact Asks.nothing
      | some we =>
          simp only
          cases boundInt rt ws with
          | error e => exact Asks.error e
          | ok windowStart =>
              cases boundInt rt we with
              | error e => exact Asks.error e
              | ok windowEnd =>
                  exact insertBucket_asks rt peerNodeId fields windowStart windowEnd

theorem mergeDay_asks (fields : List (String × Json)) (date : Json) :
    Asks (mergeDay rt peerNodeId fields date) (dayFields rt peerNodeId fields date) := by
  unfold mergeDay dayFields
  cases boundAll rt Affinity.real fields
    [("uptime_pct", Json.null), ("avg_cpu", Json.null), ("avg_mem", Json.null)] with
  | error e => exact Asks.error e
  | ok averages =>
      cases boundAll rt Affinity.integer fields [("incidents", Json.int 0)] with
      | error e => exact Asks.error e
      | ok incidents => exact Or.inr ⟨_, rfl, fun s => ⟨_, rfl⟩⟩

theorem mergeBucket_asks (b : Json) :
    Asks (mergeBucket rt peerNodeId b) (bucketRows rt peerNodeId b) := by
  unfold mergeBucket bucketRows
  cases contains "window_start" b with
  | error e => exact Asks.error e
  | ok window =>
      cases window with
      | true =>
          cases b with
          | obj fields => exact mergeWindow_asks rt peerNodeId fields
          | _ => exact Asks.error _
      | false =>
          simp only
          cases contains "date" b with
          | error e => exact Asks.error e
          | ok day =>
              cases day with
              | false => exact Asks.nothing
              | true =>
                  cases b with
                  | obj fields => exact mergeDay_asks rt peerNodeId fields _
                  | _ => exact Asks.error _

end Items

/-!
## What a payload asks for
-/

/-- The rows of the items before the first one that raises, with what it raises. -/
def untilError (rows : Json -> Except StoreError Inserted) :
    List Json -> Inserted × Option StoreError
  | [] => (Inserted.none, none)
  | item :: items =>
      match rows item with
      | Except.error e => (Inserted.none, some e)
      | Except.ok i => (i.append (untilError rows items).1, (untilError rows items).2)

def listRows (rows : Json -> Except StoreError Inserted) (key : String)
    (payload : List (String × Json)) : Inserted × Option StoreError :=
  match Assoc.get? key payload with
  | none => (Inserted.none, none)
  | some value =>
      if truthy value then
        match pyList value with
        | Except.error e => (Inserted.none, some (StoreError.python e))
        | Except.ok items => untilError rows items
      else (Inserted.none, none)

def andThen (first second : Inserted × Option StoreError) : Inserted × Option StoreError :=
  match first.2 with
  | some _ => first
  | none => (first.1.append second.1, second.2)

/-- A payload that is no dict has no `get`. -/
def payloadRows (rt : Runtime) (peerNodeId : String) : Json -> Inserted × Option StoreError
  | Json.obj payload =>
      andThen (listRows (snapshotRows rt peerNodeId) "raw_snapshots" payload)
        (andThen (listRows (eventRows rt peerNodeId) "events" payload)
          (listRows (bucketRows rt peerNodeId) "buckets" payload))
  | payload => (Inserted.none, some (noGet payload))

/-- `merge_sync_payload(peer_node_id, payload)` on any JSON value. -/
def mergeJson (rt : Runtime) (peerNodeId : String) (payload : Json) (s : PeerStore) :
    PeerStore × Except StoreError MergeResult :=
  match payload with
  | Json.obj fields => mergeSyncPayload rt peerNodeId fields s
  | payload => (s, Except.error (noGet payload))

/-- A merge leaves exactly these rows, and raises exactly this. -/
def Leaves {α : Type} (merge : PeerStore -> PeerStore × Except StoreError α)
    (rows : Inserted × Option StoreError) : Prop :=
  (exists e, rows.2 = some e ∧ forall s, merge s = (s.insert rows.1, Except.error e)) ∨
    (rows.2 = none ∧ forall s, exists a, merge s = (s.insert rows.1, Except.ok a))

theorem Leaves.nothing {α : Type} (a : α) :
    Leaves (fun s => (s, Except.ok a)) (Inserted.none, none) :=
  Or.inr ⟨rfl, fun _ => ⟨a, rfl⟩⟩

theorem Leaves.error (α : Type) (e : StoreError) :
    Leaves (fun s => (s, (Except.error e : Except StoreError α))) (Inserted.none, some e) :=
  Or.inl ⟨e, rfl, fun _ => rfl⟩

theorem andThen_error {first second : Inserted × Option StoreError} {e : StoreError}
    (h : first.2 = some e) : andThen first second = first := by
  rw [andThen, h]

theorem andThen_none {first second : Inserted × Option StoreError} (h : first.2 = none) :
    andThen first second = (first.1.append second.1, second.2) := by
  rw [andThen, h]

theorem forEach_leaves {merge : Json -> PeerStore -> Except StoreError (PeerStore × Bool)}
    {rows : Json -> Except StoreError Inserted}
    (hasks : forall item, Asks (merge item) (rows item)) (items : List Json) :
    Leaves (forEach merge items) (untilError rows items) := by
  induction items with
  | nil => exact Leaves.nothing 0
  | cons item items ih =>
      rcases hasks item with herror | hok
      · rcases herror with ⟨e, hrows, hitem⟩
        rw [untilError, hrows]
        refine Or.inl ⟨e, rfl, ?_⟩
        intro s
        rw [forEach, hitem]
        rfl
      · rcases hok with ⟨i, hrows, hitem⟩
        rw [untilError, hrows]
        rcases ih with hraised | hdone
        · rcases hraised with ⟨e, he, hrest⟩
          refine Or.inl ⟨e, he, ?_⟩
          intro s
          rcases hitem s with ⟨merged, hs⟩
          simp only [forEach, hs, hrest, insert_append]
        · rcases hdone with ⟨hnone, hrest⟩
          refine Or.inr ⟨hnone, ?_⟩
          intro s
          rcases hitem s with ⟨merged, hs⟩
          rcases hrest (s.insert i) with ⟨n, hn⟩
          exact ⟨merged.toNat + n, by simp only [forEach, hs, hn, insert_append]⟩

theorem mergeAll_leaves {merge : Json -> PeerStore -> Except StoreError (PeerStore × Bool)}
    {rows : Json -> Except StoreError Inserted}
    (hasks : forall item, Asks (merge item) (rows item)) (key : String)
    (payload : List (String × Json)) :
    Leaves (mergeAll merge key payload) (listRows rows key payload) := by
  unfold mergeAll listRows
  cases Assoc.get? key payload with
  | none => exact Leaves.nothing 0
  | some value =>
      simp only
      by_cases htruthy : truthy value = true
      · simp only [if_pos htruthy]
        cases pyList value with
        | error e => exact Leaves.error Nat (StoreError.python e)
        | ok items => exact forEach_leaves hasks items
      · simp only [if_neg htruthy]
        exact Leaves.nothing 0

theorem mergeSyncPayload_leaves (rt : Runtime) (peerNodeId : String)
    (payload : List (String × Json)) :
    Leaves (mergeSyncPayload rt peerNodeId payload)
      (payloadRows rt peerNodeId (Json.obj payload)) := by
  have hfirst := mergeAll_leaves (mergeSnapshot_asks rt peerNodeId) "raw_snapshots" payload
  have hsecond := mergeAll_leaves (mergeEvent_asks rt peerNodeId) "events" payload
  have hthird := mergeAll_leaves (mergeBucket_asks rt peerNodeId) "buckets" payload
  rw [payloadRows]
  generalize listRows (snapshotRows rt peerNodeId) "raw_snapshots" payload = first at hfirst ⊢
  generalize listRows (eventRows rt peerNodeId) "events" payload = second at hsecond ⊢
  generalize listRows (bucketRows rt peerNodeId) "buckets" payload = third at hthird ⊢
  rcases hfirst with hraised | hdone
  · rcases hraised with ⟨e, he, hsnapshots⟩
    rw [andThen_error he]
    exact Or.inl ⟨e, he, fun s => by simp only [mergeSyncPayload, hsnapshots]⟩
  rcases hdone with ⟨hnone, hsnapshots⟩
  rw [andThen_none hnone]
  rcases hsecond with hraised | hdone
  · rcases hraised with ⟨e, he, hevents⟩
    rw [andThen_error he]
    refine Or.inl ⟨e, he, ?_⟩
    intro s
    rcases hsnapshots s with ⟨n, hn⟩
    simp only [mergeSyncPayload, hn, hevents, insert_append]
  rcases hdone with ⟨hnone', hevents⟩
  rw [andThen_none hnone']
  rcases hthird with hraised | hdone
  · rcases hraised with ⟨e, he, hbuckets⟩
    refine Or.inl ⟨e, he, ?_⟩
    intro s
    rcases hsnapshots s with ⟨n, hn⟩
    rcases hevents (s.insert first.1) with ⟨m, hm⟩
    simp only [mergeSyncPayload, hn, hm, hbuckets, insert_append]
  · rcases hdone with ⟨hnone'', hbuckets⟩
    refine Or.inr ⟨hnone'', ?_⟩
    intro s
    rcases hsnapshots s with ⟨n, hn⟩
    rcases hevents (s.insert first.1) with ⟨m, hm⟩
    rcases hbuckets ((s.insert first.1).insert second.1) with ⟨l, hl⟩
    refine ⟨MergeResult.mk n m l (strategyOf payload), ?_⟩
    simp only [mergeSyncPayload, hn, hm, hl, insert_append]

theorem mergeJson_leaves (rt : Runtime) (peerNodeId : String) (payload : Json) :
    Leaves (mergeJson rt peerNodeId payload) (payloadRows rt peerNodeId payload) := by
  cases payload with
  | obj fields => exact mergeSyncPayload_leaves rt peerNodeId fields
  | _ => exact Leaves.error MergeResult _

/-!
## When a call that raises changes nothing
-/

def SameTables (s s' : PeerStore) : Prop :=
  s'.snapshots = s.snapshots ∧ s'.events = s.events ∧ s'.buckets = s.buckets ∧
    forall r, r ∈ s'.daily <-> r ∈ s.daily

/--
The key of every row to be ignored is taken, and the days named are stored as the last
item about each of them says.
-/
def AllThere (s : PeerStore) (i : Inserted) : Prop :=
  (forall r, r ∈ i.snapshots -> snapshotKey r ∈ s.snapshots.map snapshotKey) ∧
    (forall r, r ∈ i.events -> eventKey r ∈ s.events.map eventKey) ∧
    (forall r, r ∈ i.buckets -> peerBucketKey r ∈ s.buckets.map peerBucketKey) ∧
    forall r, dayKey r ∈ i.daily.map dayKey ->
      (r ∈ s.daily <-> r ∈ replaceMany dayKey [] i.daily)

theorem insertMany_eq_self_iff {row key : Type} [DecidableEq key] {keyOf : row -> key}
    {rows news : List row} :
    insertMany keyOf rows news = rows <-> forall r, r ∈ news -> keyOf r ∈ rows.map keyOf := by
  constructor
  · intro h r hr
    rw [← h]
    exact keys_insertMany.mpr (Or.inr (List.mem_map_of_mem hr))
  · exact insertMany_of_taken

theorem mem_replaceMany_iff {row key : Type} [DecidableEq key] {keyOf : row -> key}
    {rows news : List row} {r : row} :
    r ∈ replaceMany keyOf rows news <->
      (r ∈ rows ∧ keyOf r ∉ news.map keyOf) ∨ r ∈ replaceMany keyOf [] news := by
  rw [replaceMany_eq, List.mem_append, List.mem_filter, decide_eq_true_iff]

/-- Replacing keeps the rows when the replaced keys have the new rows already. -/
theorem replaceMany_same_iff {row key : Type} [DecidableEq key] {keyOf : row -> key}
    {rows news : List row} :
    (forall r, r ∈ replaceMany keyOf rows news <-> r ∈ rows) <->
      forall r, keyOf r ∈ news.map keyOf -> (r ∈ rows <-> r ∈ replaceMany keyOf [] news) := by
  constructor
  · intro h r hkey
    rw [← h r, mem_replaceMany_iff]
    constructor
    · intro hr
      rcases hr with hold | hnew
      · exact absurd hkey hold.right
      · exact hnew
    · exact Or.inr
  · intro h r
    rw [mem_replaceMany_iff]
    constructor
    · intro hr
      rcases hr with hold | hnew
      · exact hold.left
      · have hkey : keyOf r ∈ news.map keyOf := by
          rcases of_mem_replaceMany hnew with hnil | hin
          · cases hnil
          · exact List.mem_map_of_mem hin
        exact (h r hkey).mpr hnew
    · intro hr
      by_cases hkey : keyOf r ∈ news.map keyOf
      · exact Or.inr ((h r hkey).mp hr)
      · exact Or.inl ⟨hr, hkey⟩

theorem insert_same_iff {s : PeerStore} {i : Inserted} :
    SameTables s (s.insert i) <-> AllThere s i := by
  show insertMany snapshotKey s.snapshots i.snapshots = s.snapshots ∧
    insertMany eventKey s.events i.events = s.events ∧
    insertMany peerBucketKey s.buckets i.buckets = s.buckets ∧
    (forall r, r ∈ replaceMany dayKey s.daily i.daily <-> r ∈ s.daily) <-> _
  rw [insertMany_eq_self_iff, insertMany_eq_self_iff, insertMany_eq_self_iff,
    replaceMany_same_iff]
  rfl

/-- A call that raises is atomic exactly when the items before the error add nothing. -/
theorem merge_atomic_iff (rt : Runtime) (peerNodeId : String) (payload : Json) (s : PeerStore)
    {e : StoreError} (hraises : (mergeJson rt peerNodeId payload s).2 = Except.error e) :
    SameTables s (mergeJson rt peerNodeId payload s).1 <->
      AllThere s (payloadRows rt peerNodeId payload).1 := by
  rw [← insert_same_iff]
  rcases mergeJson_leaves rt peerNodeId payload with hraised | hdone
  · rcases hraised with ⟨e', _, hmerge⟩
    rw [hmerge s]
  · rcases hdone.right s with ⟨result, hmerge⟩
    rw [hmerge] at hraises
    cases hraises

/-!
A number after a snapshot with a time: `get` of the number raises.  The first payload
finds its snapshot already there, the second does not.
-/

def brokenPayload : Json :=
  Json.obj [("raw_snapshots", Json.arr [Json.obj [("ts", Json.int 7)], Json.int 5])]

def snapshotSeven : PeerSnapshot where
  peerNodeId := "n"
  ts := 7
  payload := Json.obj [("ts", Json.int 7)]

theorem merge_atomic_again :
    let s := { PeerStore.empty with snapshots := [snapshotSeven] }
    (mergeJson textRuntime "n" brokenPayload s).2 = Except.error (noGet (Json.int 5)) ∧
      (SameTables s (mergeJson textRuntime "n" brokenPayload s).1 <->
        AllThere s (payloadRows textRuntime "n" brokenPayload).1) :=
  ⟨rfl, merge_atomic_iff textRuntime "n" brokenPayload _ rfl⟩

theorem merge_not_atomic :
    ¬ forall (rt : Runtime) (peerNodeId : String) (payload : Json) (s : PeerStore)
      (e : StoreError), (mergeJson rt peerNodeId payload s).2 = Except.error e ->
        SameTables s (mergeJson rt peerNodeId payload s).1 := by
  intro hclaim
  have hsame := hclaim textRuntime "n" brokenPayload PeerStore.empty _ rfl
  have hsnapshots : [snapshotSeven] = ([] : List PeerSnapshot) := hsame.left
  cases hsnapshots

end Store
end PanicMonitr
