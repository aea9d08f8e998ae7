import PanicMonitr.Store.Answers
import PanicMonitr.Store.MergeRows

/-!
# Merging an answer

What `merge_sync_payload` makes of the lists of an answer: the first snapshot of a free
second goes in, and so does every window.
-/

namespace PanicMonitr
namespace Store

open Foundation
open Trust
open Wire

variable {V : Type}

/-!
## Loops over an answer
-/

section Loops

variable {merge : Json -> PeerStore -> Except StoreError (PeerStore × Bool)}

theorem forEach_preserves {P : PeerStore -> Prop} {items : List Json}
    (hkeep : forall item, item ∈ items -> forall s s' merged,
      merge item s = Except.ok (s', merged) -> P s -> P s')
    {s : PeerStore} (hs : P s) : P (forEach merge items s).1 := by
  induction items generalizing s with
  | nil => exact hs
  | cons item items ih =>
      rw [forEach]
      cases hitem : merge item s with
      | error e => exact hs
      | ok result =>
          rcases result with ⟨t, merged⟩
          have ht := hkeep item List.mem_cons_self s t merged hitem hs
          have hrest := ih (fun item' hitem' => hkeep item' (List.mem_cons_of_mem item hitem')) ht
          simp only
          cases hloop : forEach merge items t with
          | mk u outcome =>
              rw [hloop] at hrest
              cases outcome with
              | error e => exact hrest
              | ok n => exact hrest

theorem forEach_cons {item : Json} {items : List Json} {s s' s'' : PeerStore} {merged : Bool}
    {n : Nat} (hitem : merge item s = Except.ok (s', merged))
    (hrest : forEach merge items s' = (s'', Except.ok n)) :
    forEach merge (item :: items) s = (s'', Except.ok (merged.toNat + n)) := by
  simp only [forEach, hitem, hrest]

theorem forEach_split {front back : List Json} {item : Json} {s s' : PeerStore} {n : Nat}
    (h : forEach merge (front ++ item :: back) s = (s', Except.ok n)) :
    exists t u m merged k, forEach merge front s = (t, Except.ok m) ∧
      merge item t = Except.ok (u, merged) ∧ forEach merge back u = (s', Except.ok k) := by
  induction front generalizing s n with
  | nil =>
      rcases forEach_cons_ok h with ⟨u, merged, k, hitem, hrest, _⟩
      exact ⟨s, u, 0, merged, k, rfl, hitem, hrest⟩
  | cons first front ih =>
      rcases forEach_cons_ok h with ⟨v, merged, m, hfirst, hrest, _⟩
      rcases ih hrest with ⟨t, u, m', merged', k, hfront, hitem, hback⟩
      exact ⟨t, u, merged.toNat + m', merged', k, forEach_cons hfirst hfront, hitem, hback⟩

/-- What one item brings about and the others keep holds after the loop. -/
theorem forEach_establishes {P : PeerStore -> Prop} {items : List Json} {item : Json}
    (hin : item ∈ items) (hbring : forall s s' merged, merge item s = Except.ok (s', merged) -> P s')
    (hkeep : forall item', item' ∈ items -> forall s s' merged,
      merge item' s = Except.ok (s', merged) -> P s -> P s')
    {s s' : PeerStore} {n : Nat} (h : forEach merge items s = (s', Except.ok n)) : P s' := by
  rcases List.append_of_mem hin with ⟨front, back, rfl⟩
  rcases forEach_split h with ⟨t, u, m, merged, k, _, hitem, hback⟩
  have hlater : forall item', item' ∈ back -> forall v v' merged',
      merge item' v = Except.ok (v', merged') -> P v -> P v' := by
    intro item' hitem'
    exact hkeep item' (List.mem_append_right front (List.mem_cons_of_mem item hitem'))
  have hrest := forEach_preserves hlater (hbring t u merged hitem)
  rw [hback] at hrest
  exact hrest

theorem forEach_keeps_snapshot
    (hkeep : forall item v v' merged, merge item v = Except.ok (v', merged) ->
      forall r, r ∈ v.snapshots -> r ∈ v'.snapshots)
    {items : List Json} {r : PeerSnapshot} {s s' : PeerStore} {n : Nat} (hr : r ∈ s.snapshots)
    (h : forEach merge items s = (s', Except.ok n)) : r ∈ s'.snapshots := by
  have hend := forEach_preserves
    (fun item (_ : item ∈ items) v v' merged hv => hkeep item v v' merged hv r) hr
  rw [h] at hend
  exact hend

/-- The list of a key, which may be left out when it is empty. -/
def ListAt (key : String) (payload : List (String × Json)) (items : List Json) : Prop :=
  Assoc.get? key payload = some (Json.arr items) ∨ (Assoc.get? key payload = none ∧ items = [])

theorem mergeAll_items {key : String} {payload : List (String × Json)} {items : List Json}
    (hitems : ListAt key payload items) (s : PeerStore) :
    mergeAll merge key payload s = forEach merge items s := by
  unfold mergeAll
  rcases hitems with hitems | ⟨hnone, rfl⟩
  · rw [hitems]
    cases items with
    | nil => rfl
    | cons item items => rfl
  · rw [hnone]
    rfl

end Loops

structure Lists (payload : List (String × Json)) (raw events buckets : List Json) : Prop where
  raw : ListAt "raw_snapshots" payload raw
  events : ListAt "events" payload events
  buckets : ListAt "buckets" payload buckets

theorem lists_json {content : SyncContent} {payload : List (String × Json)}
    (h : content.json = Json.obj payload) :
    Lists payload content.rawSnapshots content.events content.buckets := by
  unfold SyncContent.json at h
  cases h
  exact ⟨Or.inl rfl, Or.inl rfl, Or.inl rfl⟩

section Payloads

variable {rt : Runtime} {peerNodeId : String} {payload : List (String × Json)}
  {raw events buckets : List Json}

theorem Lists.merge_preserves (h : Lists payload raw events buckets) {P : PeerStore -> Prop}
    (hraw : forall item, item ∈ raw -> forall s s' merged,
      mergeSnapshot rt peerNodeId item s = Except.ok (s', merged) -> P s -> P s')
    (hevents : forall item, item ∈ events -> forall s s' merged,
      mergeEvent rt peerNodeId item s = Except.ok (s', merged) -> P s -> P s')
    (hbuckets : forall item, item ∈ buckets -> forall s s' merged,
      mergeBucket rt peerNodeId item s = Except.ok (s', merged) -> P s -> P s')
    {s : PeerStore} (hs : P s) : P (mergeSyncPayload rt peerNodeId payload s).1 := by
  unfold mergeSyncPayload
  simp only [mergeAll_items h.raw, mergeAll_items h.events, mergeAll_items h.buckets]
  have hone := forEach_preserves hraw hs
  split
  · rename_i hloop
    rw [hloop] at hone
    exact hone
  rename_i t snapshots hloop
  rw [hloop] at hone
  have htwo := forEach_preserves hevents hone
  split
  · rename_i hloop
    rw [hloop] at htwo
    exact htwo
  rename_i u evs hloop
  rw [hloop] at htwo
  have hthree := forEach_preserves hbuckets htwo
  split
  · rename_i hloop
    rw [hloop] at hthree
    exact hthree
  · rename_i hloop
    rw [hloop] at hthree
    exact hthree

theorem Lists.merge_ok (h : Lists payload raw events buckets) {s s' : PeerStore}
    {result : MergeResult}
    (hmerge : mergeSyncPayload rt peerNodeId payload s = (s', Except.ok result)) :
    exists t u k l m, forEach (mergeSnapshot rt peerNodeId) raw s = (t, Except.ok k) ∧
      forEach (mergeEvent rt peerNodeId) events t = (u, Except.ok l) ∧
        forEach (mergeBucket rt peerNodeId) buckets u = (s', Except.ok m) := by
  unfold mergeSyncPayload at hmerge
  simp only [mergeAll_items h.raw, mergeAll_items h.events, mergeAll_items h.buckets] at hmerge
  split at hmerge
  · cases hmerge
  rename_i t k hraw
  split at hmerge
  · cases hmerge
  rename_i u l hevents
  split at hmerge
  · cases hmerge
  rename_i v m hbuckets
  cases hmerge
  exact ⟨t, u, k, l, m, hraw, hevents, hbuckets⟩

theorem Lists.merge_raw (h : Lists payload raw [] []) {s s' : PeerStore} {n : Nat}
    (hraw : forEach (mergeSnapshot rt peerNodeId) raw s = (s', Except.ok n)) :
    mergeSyncPayload rt peerNodeId payload s =
      (s', Except.ok
        { snapshotsMerged := n
          eventsMerged := 0
          bucketsMerged := 0
          strategy := strategyOf payload }) := by
  unfold mergeSyncPayload
  simp only [mergeAll_items h.raw, mergeAll_items h.events, mergeAll_items h.buckets, forEach,
    hraw]

end Payloads

/-!
## Snapshots
-/

section Snapshots

variable (rt : Runtime) (peerNodeId : String)

theorem secondsOf_isoformat {d : Datetime} {t : Instant} (h : d.instant? = some t) :
    secondsOf rt (Json.str (isoformat d)) = some (Number.int (epochOf t)) := by
  rcases Option.map_eq_some_iff.mp h with ⟨off, hoff, rfl⟩
  unfold secondsOf isoInstant
  simp only [numberOf, fromisoformat_isoformat, Option.map_some, hoff, Option.getD_some]

/-- The second `merge_sync_payload` puts a snapshot at, if it reads one. -/
def stampOf (fields : List (String × Json)) : Option Int :=
  match (snapshotTime fields).bind (secondsOf rt) with
  | none => none
  | some n =>
      match boundInt rt n with
      | Except.error _ => none
      | Except.ok ts => some ts

theorem snapshotTime_ts {fields : List (String × Json)} {d : Datetime}
    (h : Assoc.get? "ts" fields = some (Json.str (isoformat d))) :
    snapshotTime fields = some (Json.str (isoformat d)) := by
  have htruthy : truthy (Json.str (isoformat d)) = true :=
    decide_eq_true (isoformat_ne_empty d)
  unfold snapshotTime
  rw [h]
  simp only [htruthy, if_true]

theorem stampOf_time {fields : List (String × Json)} {d : Datetime} {t : Instant} {ts : Int}
    (hfields : snapshotTime fields = some (Json.str (isoformat d))) (hd : d.instant? = some t)
    (hts : sqliteInt (epochOf t) = Except.ok ts) : stampOf rt fields = some ts := by
  unfold stampOf
  rw [hfields, Option.bind_some, secondsOf_isoformat rt hd]
  simp only [boundInt, Number.toInt, hts]

def snapshotRow (fields : List (String × Json)) (ts : Int) : PeerSnapshot :=
  { peerNodeId := peerNodeId, ts := ts, payload := Json.obj fields }

theorem mergeSnapshot_stamped {fields : List (String × Json)} {ts : Int}
    (hts : stampOf rt fields = some ts) (s : PeerStore) :
    mergeSnapshot rt peerNodeId (Json.obj fields) s =
      Except.ok
        ({ s with
            snapshots := insertOrIgnore snapshotKey s.snapshots (snapshotRow peerNodeId fields ts) },
          isFree snapshotKey s.snapshots (snapshotRow peerNodeId fields ts)) := by
  unfold stampOf at hts
  unfold mergeSnapshot
  cases hread : (snapshotTime fields).bind (secondsOf rt) with
  | none =>
      rw [hread] at hts
      cases hts
  | some n =>
      rw [hread] at hts
      simp only at hts
      cases hbound : boundInt rt n with
      | error e =>
          rw [hbound] at hts
          cases hts
      | ok ts' =>
          rw [hbound] at hts
          cases hts
          simp only [hread, hbound]
          rfl

theorem mergeSnapshot_unstamped {fields : List (String × Json)} (hts : stampOf rt fields = none)
    {s s' : PeerStore} {merged : Bool}
    (h : mergeSnapshot rt peerNodeId (Json.obj fields) s = Except.ok (s', merged)) : s' = s := by
  unfold stampOf at hts
  unfold mergeSnapshot at h
  cases hread : (snapshotTime fields).bind (secondsOf rt) with
  | none =>
      simp only [hread] at h
      cases h
      rfl
  | some n =>
      rw [hread] at hts
      simp only at hts
      cases hbound : boundInt rt n with
      | error e =>
          simp only [hread, hbound] at h
          cases h
      | ok ts =>
          rw [hbound] at hts
          cases hts

theorem mergeSnapshot_rows (snap : Json) {s s' : PeerStore} {merged : Bool}
    (h : mergeSnapshot rt peerNodeId snap s = Except.ok (s', merged)) :
    s'.buckets = s.buckets ∧ forall r, r ∈ s.snapshots -> r ∈ s'.snapshots := by
  rcases mergeSnapshot_ok rt peerNodeId snap h with ⟨rfl, _⟩ | ⟨r, rfl, _⟩
  · exact ⟨rfl, fun r hr => hr⟩
  · exact ⟨rfl, fun r' hr' => mem_insertOrIgnore hr'⟩

theorem mergeEvent_rows (ev : Json) {s s' : PeerStore} {merged : Bool}
    (h : mergeEvent rt peerNodeId ev s = Except.ok (s', merged)) :
    s'.buckets = s.buckets ∧ s'.snapshots = s.snapshots := by
  rcases mergeEvent_ok rt peerNodeId ev h with ⟨rfl, _⟩ | ⟨r, rfl, _⟩
  · exact ⟨rfl, rfl⟩
  · exact ⟨rfl, rfl⟩

theorem forEach_mergeSnapshot_free {snaps : List (RawRow V × List (String × Json))} {ts : Int}
    (hother : forall y, y ∈ snaps -> stampOf rt y.2 ≠ some ts) {s s' : PeerStore} {n : Nat}
    (hfree : (peerNodeId, ts) ∉ s.snapshots.map snapshotKey)
    (h : forEach (mergeSnapshot rt peerNodeId) (snaps.map (fun y => Json.obj y.2)) s =
      (s', Except.ok n)) :
    (peerNodeId, ts) ∉ s'.snapshots.map snapshotKey := by
  have hkeep : forall item, item ∈ snaps.map (fun y => Json.obj y.2) -> forall v v' merged,
      mergeSnapshot rt peerNodeId item v = Except.ok (v', merged) ->
        (peerNodeId, ts) ∉ v.snapshots.map snapshotKey ->
          (peerNodeId, ts) ∉ v'.snapshots.map snapshotKey := by
    intro item hitem v v' merged hv hnot
    rcases List.mem_map.mp hitem with ⟨y, hy, rfl⟩
    have hne := hother y hy
    cases hstamp : stampOf rt y.2 with
    | none =>
        rw [mergeSnapshot_unstamped rt peerNodeId hstamp hv]
        exact hnot
    | some ts' =>
        rw [mergeSnapshot_stamped rt peerNodeId hstamp] at hv
        cases hv
        intro hin
        rcases List.mem_map.mp hin with ⟨r, hr, hkey⟩
        rcases of_mem_insertOrIgnore hr with hold | rfl
        · exact hnot (List.mem_map.mpr ⟨r, hold, hkey⟩)
        · rw [hstamp] at hne
          exact hne (congrArg some (Prod.mk.inj hkey).right)
  have hend := forEach_preserves hkeep hfree
  rw [h] at hend
  exact hend

theorem forEach_mergeSnapshot {snaps : List (RawRow V × List (String × Json))}
    {x : RawRow V × List (String × Json)} {ts : Int}
    (hfirst : snaps.find? (fun y => decide (stampOf rt y.2 = some ts)) = some x)
    {s s' : PeerStore} {n : Nat} (hfree : (peerNodeId, ts) ∉ s.snapshots.map snapshotKey)
    (h : forEach (mergeSnapshot rt peerNodeId) (snaps.map (fun y => Json.obj y.2)) s =
      (s', Except.ok n)) :
    snapshotRow peerNodeId x.2 ts ∈ s'.snapshots := by
  rcases List.find?_eq_some_iff_append.mp hfirst with ⟨hstamp, front, back, rfl, hfront⟩
  rw [List.map_append, List.map_cons] at h
  rcases forEach_split h with ⟨t, u, m, merged, k, hbefore, hitem, hafter⟩
  have hother : forall y, y ∈ front -> stampOf rt y.2 ≠ some ts := by
    intro y hy
    have hno := hfront y hy
    rw [Bool.not_eq_eq_eq_not, Bool.not_true, decide_eq_false_iff_not] at hno
    exact hno
  have hnew : snapshotKey (snapshotRow peerNodeId x.2 ts) ∉ t.snapshots.map snapshotKey :=
    forEach_mergeSnapshot_free rt peerNodeId hother hfree hbefore
  rw [mergeSnapshot_stamped rt peerNodeId (of_decide_eq_true hstamp)] at hitem
  cases hitem
  apply forEach_keeps_snapshot _ _ hafter
  · exact fun item v v' merged hv => (mergeSnapshot_rows rt peerNodeId item hv).right
  show snapshotRow peerNodeId x.2 ts ∈ insertOrIgnore snapshotKey t.snapshots _
  rw [insertOrIgnore, if_neg hnew]
  exact List.mem_append_right _ (List.mem_singleton_self _)

/-- `own_stats` with the time of the pull, unless it has a time. -/
def stampedStats (ownStats : List (String × Json)) (now : Datetime) : List (String × Json) :=
  if "ts" ∈ Assoc.keys ownStats then ownStats
  else ownStats ++ [("ts", Json.str (isoformat now))]

theorem lists_live (ownStats : List (String × Json)) (now : Datetime) :
    Lists (livePayload ownStats now) [Json.obj (stampedStats ownStats now)] [] [] :=
  ⟨Or.inl rfl, Or.inl rfl, Or.inr ⟨rfl, rfl⟩⟩

theorem merge_live {ownStats : List (String × Json)} {now : Datetime} {ts : Int}
    (hts : stampOf rt (stampedStats ownStats now) = some ts) (s : PeerStore) :
    (mergeSyncPayload rt peerNodeId (livePayload ownStats now) s).1 =
      { s with
        snapshots := insertOrIgnore snapshotKey s.snapshots
          (snapshotRow peerNodeId (stampedStats ownStats now) ts) } := by
  have h := lists_live ownStats now
  unfold mergeSyncPayload
  simp only [mergeAll_items h.raw, mergeAll_items h.events, mergeAll_items h.buckets, forEach,
    mergeSnapshot_stamped rt peerNodeId hts]

theorem merge_live_unstamped {ownStats : List (String × Json)} {now : Datetime}
    (hts : stampOf rt (stampedStats ownStats now) = none) (s : PeerStore) :
    (mergeSyncPayload rt peerNodeId (livePayload ownStats now) s).1 = s := by
  have h := lists_live ownStats now
  unfold mergeSyncPayload
  simp only [mergeAll_items h.raw, mergeAll_items h.events, mergeAll_items h.buckets, forEach]
  cases hsnap : mergeSnapshot rt peerNodeId (Json.obj (stampedStats ownStats now)) s with
  | error e => rfl
  | ok result =>
      rcases result with ⟨t, merged⟩
      exact mergeSnapshot_unstamped rt peerNodeId hts hsnap

end Snapshots

/-!
## Windows
-/

/-- A column of integers keeps an integer as it is, or refuses it. -/
def KeepsIntegers (rt : Runtime) : Prop :=
  forall n value, rt.bind Affinity.integer (Json.int n) = Except.ok value -> value = Json.int n

/-- The window of a row, whatever its other columns hold. -/
def HasWindow (peerNodeId : String) (windowStart windowEnd bucketSize : Int) (r : PeerBucket) :
    Prop :=
  r.peerNodeId = peerNodeId ∧ r.windowStart = windowStart ∧ r.windowEnd = windowEnd ∧
    r.bucketSize = Json.int bucketSize

section Windows

variable {rt : Runtime}

theorem secondsOf_epochText {ts : Int} {text : String} (h : epochText ts = some text) :
    secondsOf rt (Json.str text) = some (Number.int ts) := by
  rcases Option.map_eq_some_iff.mp h with ⟨d, hd, rfl⟩
  have hts : epochOf (ts * microsPerSecond) = ts := Int.mul_tdiv_cancel ts (by decide)
  rw [secondsOf_isoformat rt (fromtimestamp_instant hd), hts]

theorem boundInt_int {n m : Int} (h : boundInt rt (Number.int n) = Except.ok m) : m = n := by
  unfold boundInt Number.toInt sqliteInt at h
  simp only at h
  split at h
  · cases h
    rfl
  · cases h

theorem boundAll_integers (hints : KeepsIntegers rt) {fields : List (String × Json)}
    {bucketSize samples : Int}
    (hsize : Assoc.get? "bucket_size" fields = some (Json.int bucketSize))
    (hsamples : Assoc.get? "samples" fields = some (Json.int samples)) {values : List Json}
    (h : boundAll rt Affinity.integer fields
      [("bucket_size", Json.int 0), ("samples", Json.int 0)] = Except.ok values) :
    values = [Json.int bucketSize, Json.int samples] := by
  simp only [boundAll, hsize, hsamples, Option.getD_some] at h
  cases hfirst : rt.bind Affinity.integer (Json.int bucketSize) with
  | error e =>
      rw [hfirst] at h
      cases h
  | ok first =>
      cases hsecond : rt.bind Affinity.integer (Json.int samples) with
      | error e =>
          rw [hfirst, hsecond] at h
          cases h
      | ok second =>
          rw [hfirst, hsecond] at h
          cases h
          rw [hints _ _ hfirst, hints _ _ hsecond]

theorem insertBucket_window (hints : KeepsIntegers rt) {fields : List (String × Json)}
    {bucketSize samples : Int}
    (hsize : Assoc.get? "bucket_size" fields = some (Json.int bucketSize))
    (hsamples : Assoc.get? "samples" fields = some (Json.int samples)) {peerNodeId : String}
    {windowStart windowEnd : Int} {s s' : PeerStore} {merged : Bool}
    (h : insertBucket rt peerNodeId fields windowStart windowEnd s = Except.ok (s', merged)) :
    exists r, HasWindow peerNodeId windowStart windowEnd bucketSize r ∧
      s' = { s with buckets := insertOrIgnore peerBucketKey s.buckets r } := by
  unfold insertBucket at h
  cases hints' : boundAll rt Affinity.integer fields
      [("bucket_size", Json.int 0), ("samples", Json.int 0)] with
  | error e =>
      rw [hints'] at h
      cases h
  | ok values =>
      rw [hints', boundAll_integers hints hsize hsamples hints'] at h
      cases hstats : bucketStats rt fields with
      | error e =>
          rw [hstats] at h
          cases h
      | ok stats =>
          rw [hstats] at h
          cases h
          exact ⟨_, ⟨rfl, rfl, rfl, rfl⟩, rfl⟩

theorem mergeBucket_window (hints : KeepsIntegers rt) {pr : Printer V} {b : StatBucket V}
    {item : Json} (hitem : windowItem pr b = some item) {peerNodeId : String} {s s' : PeerStore}
    {merged : Bool} (h : mergeBucket rt peerNodeId item s = Except.ok (s', merged)) :
    exists r, HasWindow peerNodeId b.windowStart b.windowEnd b.bucketSize r ∧
      s' = { s with buckets := insertOrIgnore peerBucketKey s.buckets r } := by
  unfold windowItem at hitem
  split at hitem
  · rename_i start last hstart hlast
    cases hitem
    have hcontains : forall rest, contains "window_start"
        (Json.obj (("window_start", Json.str start) :: rest)) = Except.ok true := by
      intro rest
      exact congrArg Except.ok (decide_eq_true List.mem_cons_self)
    unfold mergeBucket at h
    rw [hcontains] at h
    simp only at h
    unfold mergeWindow at h
    have hfirst : forall rest, getSome "window_start" (("window_start", Json.str start) :: rest) =
        some (Json.str start) := fun rest => rfl
    have hsecond : forall rest, getSome "window_end" (("window_start", Json.str start) ::
        ("window_end", Json.str last) :: rest) = some (Json.str last) := fun rest => rfl
    rw [hfirst, hsecond] at h
    simp only [Option.bind_some, secondsOf_epochText hstart, secondsOf_epochText hlast] at h
    cases hws : boundInt rt (Number.int b.windowStart) with
    | error e =>
        rw [hws] at h
        cases h
    | ok windowStart =>
        cases hwe : boundInt rt (Number.int b.windowEnd) with
        | error e =>
            rw [hws, hwe] at h
            cases h
        | ok windowEnd =>
            rw [hws, hwe, boundInt_int hws, boundInt_int hwe] at h
            exact insertBucket_window hints rfl rfl h
  · cases hitem

theorem mergeBucket_day {pr : Printer V} {d : DailyRow V} {peerNodeId : String}
    {s s' : PeerStore} {merged : Bool}
    (h : mergeBucket rt peerNodeId (dayItem pr d) s = Except.ok (s', merged)) :
    s'.buckets = s.buckets := by
  have hcontains : contains "window_start" (dayItem pr d) = Except.ok false := by
    apply congrArg Except.ok
    apply decide_eq_false
    simp [Assoc.keys]
  have hdate : contains "date" (dayItem pr d) = Except.ok true :=
    congrArg Except.ok (decide_eq_true List.mem_cons_self)
  unfold mergeBucket at h
  rw [hcontains, hdate] at h
  unfold dayItem at h
  simp only at h
  unfold mergeDay at h
  split at h
  · cases h
  · cases h
  · cases h
    rfl

end Windows

end Store
end PanicMonitr
