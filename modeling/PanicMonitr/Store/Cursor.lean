import PanicMonitr.Store.Merge
import Mathlib.Data.String.Basic

/-!
# The sync cursor

`last_seen_for_peer` takes the greatest of the times that are stored about a peer.
Snapshots and buckets count seconds and events milliseconds, and the last day is the last
in the order of the texts.
-/

namespace PanicMonitr
namespace Store

open Foundation
open Trust

/-!
## Times about one peer
-/

def snapshotTimes (peerNodeId : String) (s : PeerStore) : List Int :=
  (s.snapshots.filter (fun r => decide (r.peerNodeId = peerNodeId))).map PeerSnapshot.ts

def eventTimes (peerNodeId : String) (s : PeerStore) : List Int :=
  (s.events.filter (fun r => decide (r.peerNodeId = peerNodeId))).map EventRow.ts

def bucketEnds (peerNodeId : String) (s : PeerStore) : List Int :=
  (s.buckets.filter (fun r => decide (r.peerNodeId = peerNodeId))).map PeerBucket.windowEnd

def dates (peerNodeId : String) (s : PeerStore) : List String :=
  (s.daily.filter (fun r => decide (r.peerNodeId = peerNodeId))).map PeerDay.date

/-!
## `datetime.strptime(text, "%Y-%m-%d")`
-/

/-- `%m`: two digits, or one without a zero. -/
def monthOfText : List Char -> Option Nat
  | ['1', '0'] => some 10
  | ['1', '1'] => some 11
  | ['1', '2'] => some 12
  | ['0', c] => if '1' <= c ∧ c <= '9' then some (c.toNat - '0'.toNat) else none
  | [c] => if '1' <= c ∧ c <= '9' then some (c.toNat - '0'.toNat) else none
  | _ => none

/-- `%d`; the second digit after `1` or `2` may be any decimal digit, and a blank is a zero. -/
def dayOfText (rt : Runtime) : List Char -> Option Nat
  | ['3', '0'] => some 30
  | ['3', '1'] => some 31
  | ['1', c] => (rt.digit c).map (fun n => 10 + n)
  | ['2', c] => (rt.digit c).map (fun n => 20 + n)
  | ['0', c] => if '1' <= c ∧ c <= '9' then some (c.toNat - '0'.toNat) else none
  | [' ', c] => if '1' <= c ∧ c <= '9' then some (c.toNat - '0'.toNat) else none
  | [c] => if '1' <= c ∧ c <= '9' then some (c.toNat - '0'.toNat) else none
  | _ => none

/-- `%Y`: four decimal digits. -/
def yearOfText (rt : Runtime) : List Char -> Option Nat
  | [a, b, c, d] =>
      match rt.digit a, rt.digit b, rt.digit c, rt.digit d with
      | some a, some b, some c, some d => some (((a * 10 + b) * 10 + c) * 10 + d)
      | _, _, _, _ => none
  | _ => none

/-- `none` is the `ValueError`. -/
def strptimeDate (rt : Runtime) (text : String) : Option Datetime :=
  match splitAtChar '-' text.toList with
  | none => none
  | some (year, rest) =>
      match splitAtChar '-' rest with
      | none => none
      | some (month, day) =>
          match yearOfText rt year, monthOfText month, dayOfText rt day with
          | some year, some month, some day => mkDatetime (year, month, day) (0, 0, 0, 0) none
          | _, _, _ => none

/-- Midnight of a date text in `IST`, in epoch seconds. -/
def dayEpoch (rt : Runtime) (text : String) : Option Int :=
  (strptimeDate rt text).map (fun d => epochOf (d.localMicros - IST_OFFSET * microsPerSecond))

/-!
## `last_seen_for_peer`
-/

/-- `MAX` over the maxima that are there. -/
def maxOfMaxima (columns : List (List Int)) : Option Int :=
  (columns.filterMap List.max?).max?

/-- `_from_epoch`: the year has to be there in UTC and after the shift to `IST`. -/
def fromEpoch (ts : Int) : Except StoreError Instant :=
  if ts < -62135596800 ∨ 253402300799 < ts then
    Except.error (StoreError.python (PyError.valueError "year is out of range"))
  else if 253402300799 < ts + IST_OFFSET then Except.error StoreError.overflowError
  else Except.ok (ts * microsPerSecond)

/-- The day of the date that is last as a text, if it is one. -/
def lastDay (rt : Runtime) (peerNodeId : String) (s : PeerStore) : Option Int :=
  (dates peerNodeId s).max?.bind (dayEpoch rt)

/-- The number that is taken for the cursor: `max_epoch`. -/
def maxEpoch (rt : Runtime) (peerNodeId : String) (s : PeerStore) : Option Int :=
  let timed := maxOfMaxima
    [snapshotTimes peerNodeId s, eventTimes peerNodeId s, bucketEnds peerNodeId s]
  match lastDay rt peerNodeId s with
  | none => timed
  | some day => some (max (timed.getD 0) day)

/-- `last_seen_for_peer(peer_node_id)` -/
def lastSeenForPeer (rt : Runtime) (peerNodeId : String) (s : PeerStore) :
    Except StoreError (Option Instant) :=
  match maxEpoch rt peerNodeId s with
  | none => Except.ok none
  | some ts => (fromEpoch ts).map some

/-!
## The property
-/

/-- Times in seconds: of snapshots and buckets, and of the days that can be read. -/
def secondTimes (rt : Runtime) (peerNodeId : String) (s : PeerStore) : List Int :=
  snapshotTimes peerNodeId s ++ bucketEnds peerNodeId s ++
    (dates peerNodeId s).filterMap (dayEpoch rt)

/-- Everything that is stored about a peer, as instants. -/
def instants (rt : Runtime) (peerNodeId : String) (s : PeerStore) : List Instant :=
  (secondTimes rt peerNodeId s).map (fun t => t * microsPerSecond) ++
    (eventTimes peerNodeId s).map (fun t => t * 1000)

/-- There is a row about the peer. -/
def Known (peerNodeId : String) (s : PeerStore) : Prop :=
  snapshotTimes peerNodeId s ≠ [] ∨ eventTimes peerNodeId s ≠ [] ∨
    bucketEnds peerNodeId s ≠ [] ∨ dates peerNodeId s ≠ []

/-- The cursor is the newest instant, and there is none for a peer without rows. -/
def CursorNewest (rt : Runtime) (peerNodeId : String) (s : PeerStore) : Prop :=
  exists cursor, lastSeenForPeer rt peerNodeId s = Except.ok cursor ∧
    (cursor = none <-> ¬ Known peerNodeId s) ∧
    forall t, cursor = some t -> t ∈ instants rt peerNodeId s ∧
      forall u, u ∈ instants rt peerNodeId s -> u <= t

/-!
## The condition
-/

/-- The numbers the cursor is taken of: days alone count from 0 on. -/
def compared (rt : Runtime) (peerNodeId : String) (s : PeerStore) : List Int :=
  let timed := snapshotTimes peerNodeId s ++ eventTimes peerNodeId s ++ bucketEnds peerNodeId s
  timed ++ (lastDay rt peerNodeId s).toList.map (fun day =>
    if timed = [] then max 0 day else day)

/--
A time in seconds that is a date in both zones, is the newest of those stored in seconds,
is not passed by an event, as a number or as an instant, and is one of those compared.
-/
structure CursorFits (rt : Runtime) (peerNodeId : String) (s : PeerStore) (ts : Int) :
    Prop where
  range : -62135596800 <= ts ∧ ts + IST_OFFSET <= 253402300799
  seconds : forall t, t ∈ secondTimes rt peerNodeId s -> t <= ts
  events : forall t, t ∈ eventTimes peerNodeId s -> t <= ts ∧ t <= 1000 * ts
  stored : ts ∈ secondTimes rt peerNodeId s ∨ 1000 * ts ∈ eventTimes peerNodeId s
  read : ts ∈ compared rt peerNodeId s

theorem maxOfMaxima_eq (columns : List (List Int)) :
    maxOfMaxima columns = columns.flatten.max? := by
  apply Option.ext
  intro t
  rw [maxOfMaxima, List.max?_eq_some_iff, List.max?_eq_some_iff]
  have hcolumn : forall m, m ∈ columns.filterMap List.max? <->
      exists column, column ∈ columns ∧ m ∈ column ∧ forall u, u ∈ column -> u <= m := by
    intro m
    rw [List.mem_filterMap]
    apply exists_congr
    intro column
    rw [List.max?_eq_some_iff]
  constructor
  · intro h
    rcases h with ⟨hmem, hmost⟩
    rcases (hcolumn t).mp hmem with ⟨column, hin, ht, _⟩
    refine ⟨List.mem_flatten_of_mem hin ht, ?_⟩
    intro u hu
    rcases List.mem_flatten.mp hu with ⟨other, hother, hu⟩
    cases hmax : other.max? with
    | none =>
        rw [List.max?_eq_none_iff.mp hmax] at hu
        cases hu
    | some m =>
        have hm := List.max?_eq_some_iff.mp hmax
        exact Int.le_trans (hm.right u hu) (hmost m ((hcolumn m).mpr ⟨other, hother, hm⟩))
  · intro h
    rcases h with ⟨hmem, hmost⟩
    rcases List.mem_flatten.mp hmem with ⟨column, hin, ht⟩
    refine ⟨(hcolumn t).mpr ⟨column, hin, ht, ?_⟩, ?_⟩
    · intro u hu
      exact hmost u (List.mem_flatten_of_mem hin hu)
    · intro m hm
      rcases (hcolumn m).mp hm with ⟨other, hother, hm, _⟩
      exact hmost m (List.mem_flatten_of_mem hother hm)

section Cursor

variable (rt : Runtime) (peerNodeId : String) (s : PeerStore)

theorem maxEpoch_eq : maxEpoch rt peerNodeId s = (compared rt peerNodeId s).max? := by
  have hflat : [snapshotTimes peerNodeId s, eventTimes peerNodeId s,
      bucketEnds peerNodeId s].flatten =
        snapshotTimes peerNodeId s ++ eventTimes peerNodeId s ++ bucketEnds peerNodeId s := by
    simp
  unfold maxEpoch compared
  rw [maxOfMaxima_eq, hflat]
  generalize snapshotTimes peerNodeId s ++ eventTimes peerNodeId s ++ bucketEnds peerNodeId s =
    timed
  cases lastDay rt peerNodeId s with
  | none => simp
  | some day =>
      cases hmax : timed.max? with
      | none =>
          rw [List.max?_eq_none_iff.mp hmax]
          rfl
      | some most =>
          rcases List.max?_eq_some_iff.mp hmax with ⟨hmem, hmost⟩
          have hne : timed ≠ [] := List.ne_nil_of_mem hmem
          simp only [Option.getD_some, Option.toList_some, List.map_cons, List.map_nil,
            if_neg hne]
          apply Eq.symm
          rw [List.max?_eq_some_iff]
          constructor
          · rcases le_total most day with hle | hle
            · rw [max_eq_right hle]
              exact List.mem_append_right _ (List.mem_singleton_self day)
            · rw [max_eq_left hle]
              exact List.mem_append_left _ hmem
          · intro t ht
            rcases List.mem_append.mp ht with hold | hday
            · exact le_max_of_le_left (hmost t hold)
            · rw [List.mem_singleton.mp hday]
              exact le_max_right most day

theorem fromEpoch_ok {ts : Int} {t : Instant} :
    fromEpoch ts = Except.ok t <->
      (-62135596800 <= ts ∧ ts + IST_OFFSET <= 253402300799) ∧ t = ts * microsPerSecond := by
  have hshift : IST_OFFSET = 19800 := rfl
  unfold fromEpoch
  constructor
  · intro h
    split at h
    · cases h
    split at h
    · cases h
    cases h
    refine ⟨?_, rfl⟩
    omega
  · intro h
    rcases h with ⟨hrange, rfl⟩
    rw [if_neg (by omega), if_neg (by omega)]

theorem known_of_mem_instants {t : Instant} (h : t ∈ instants rt peerNodeId s) :
    Known peerNodeId s := by
  unfold instants secondTimes at h
  simp only [List.map_append, List.mem_append] at h
  rcases h with ((h | h) | h) | h
  · rcases List.mem_map.mp h with ⟨_, ht, _⟩
    exact Or.inl (List.ne_nil_of_mem ht)
  · rcases List.mem_map.mp h with ⟨_, ht, _⟩
    exact Or.inr (Or.inr (Or.inl (List.ne_nil_of_mem ht)))
  · rcases List.mem_map.mp h with ⟨_, ht, _⟩
    rcases List.mem_filterMap.mp ht with ⟨_, hdate, _⟩
    exact Or.inr (Or.inr (Or.inr (List.ne_nil_of_mem hdate)))
  · rcases List.mem_map.mp h with ⟨_, ht, _⟩
    exact Or.inr (Or.inl (List.ne_nil_of_mem ht))

theorem maxEpoch_unknown (h : ¬ Known peerNodeId s) : maxEpoch rt peerNodeId s = none := by
  unfold Known at h
  simp only [not_or, not_not] at h
  rcases h with ⟨hsnapshots, hevents, hbuckets, hdates⟩
  unfold maxEpoch lastDay
  rw [hsnapshots, hevents, hbuckets, hdates]
  rfl

theorem newest_instant_iff (ts : Int) :
    (ts * microsPerSecond ∈ instants rt peerNodeId s ∧
        forall u, u ∈ instants rt peerNodeId s -> u <= ts * microsPerSecond) <->
      (ts ∈ secondTimes rt peerNodeId s ∨ 1000 * ts ∈ eventTimes peerNodeId s) ∧
        (forall t, t ∈ secondTimes rt peerNodeId s -> t <= ts) ∧
          forall t, t ∈ eventTimes peerNodeId s -> t <= 1000 * ts := by
  have hmicros : microsPerSecond = 1000000 := rfl
  unfold instants
  simp only [List.mem_append, List.mem_map, hmicros]
  constructor
  · intro h
    rcases h with ⟨hmem, hmost⟩
    refine ⟨?_, ?_, ?_⟩
    · rcases hmem with ⟨t, ht, heq⟩ | ⟨t, ht, heq⟩
      · have hts : t = ts := by omega
        rw [← hts]
        exact Or.inl ht
      · have hts : t = 1000 * ts := by omega
        rw [← hts]
        exact Or.inr ht
    · intro t ht
      have hle : t * 1000000 <= ts * 1000000 := hmost (t * 1000000) (Or.inl ⟨t, ht, rfl⟩)
      omega
    · intro t ht
      have hle : t * 1000 <= ts * 1000000 := hmost (t * 1000) (Or.inr ⟨t, ht, rfl⟩)
      omega
  · intro h
    rcases h with ⟨hmem, hseconds, hevents⟩
    constructor
    · rcases hmem with ht | ht
      · exact Or.inl ⟨ts, ht, rfl⟩
      · exact Or.inr ⟨1000 * ts, ht, by omega⟩
    · intro u hu
      rcases hu with ⟨t, ht, rfl⟩ | ⟨t, ht, rfl⟩
      · have hle := hseconds t ht
        show t * 1000000 <= ts * 1000000
        omega
      · have hle := hevents t ht
        show t * 1000 <= ts * 1000000
        omega

theorem lastDay_mem {day : Int} (h : lastDay rt peerNodeId s = some day) :
    day ∈ secondTimes rt peerNodeId s := by
  rcases Option.bind_eq_some_iff.mp h with ⟨text, htext, hday⟩
  exact List.mem_append_right _
    (List.mem_filterMap.mpr ⟨text, List.max?_mem htext, hday⟩)

theorem CursorFits.compared_le {ts : Int} (h : CursorFits rt peerNodeId s ts) {n : Int}
    (hn : n ∈ compared rt peerNodeId s) : n <= ts := by
  have hread := h.read
  unfold compared at hn hread
  rcases List.mem_append.mp hn with htimed | hday
  · rcases List.mem_append.mp htimed with hfront | hbucket
    · rcases List.mem_append.mp hfront with hsnapshot | hevent
      · exact h.seconds n (List.mem_append_left _ (List.mem_append_left _ hsnapshot))
      · exact (h.events n hevent).left
    · exact h.seconds n (List.mem_append_left _ (List.mem_append_right _ hbucket))
  · rcases List.mem_map.mp hday with ⟨day, hlast, rfl⟩
    rw [Option.mem_toList] at hlast
    have hle := h.seconds day (lastDay_mem rt peerNodeId s hlast)
    split
    · -- days alone: what fits is the only number there is
      rename_i halone
      simp only [halone, hlast, List.nil_append, Option.toList_some, List.map_cons,
        List.map_nil, if_true, List.mem_singleton] at hread
      omega
    · exact hle

/--
The cursor is right exactly if nothing is stored, or the newest of the times in seconds
is what the comparison finds.
-/
theorem cursor_newest_iff : CursorNewest rt peerNodeId s <->
    ¬ Known peerNodeId s ∨ exists ts, CursorFits rt peerNodeId s ts := by
  constructor
  · intro h
    rcases h with ⟨cursor, hcursor, hnone, hnewest⟩
    unfold lastSeenForPeer at hcursor
    cases hmax : maxEpoch rt peerNodeId s with
    | none =>
        rw [hmax] at hcursor
        cases hcursor
        exact Or.inl (hnone.mp rfl)
    | some ts =>
        rw [hmax] at hcursor
        simp only at hcursor
        cases hfrom : fromEpoch ts with
        | error e =>
            rw [hfrom] at hcursor
            cases hcursor
        | ok t =>
            rw [hfrom] at hcursor
            cases hcursor
            rcases fromEpoch_ok.mp hfrom with ⟨hrange, rfl⟩
            rcases (newest_instant_iff rt peerNodeId s ts).mp (hnewest _ rfl) with
              ⟨hstored, hseconds, hevents⟩
            rw [maxEpoch_eq, List.max?_eq_some_iff] at hmax
            refine Or.inr ⟨ts, hrange, hseconds, ?_, hstored, hmax.left⟩
            intro e he
            refine ⟨hmax.right e ?_, hevents e he⟩
            exact List.mem_append_left _ (List.mem_append_left _ (List.mem_append_right _ he))
  · intro h
    unfold CursorNewest lastSeenForPeer
    rcases h with hunknown | ⟨ts, hfits⟩
    · rw [maxEpoch_unknown rt peerNodeId s hunknown]
      refine ⟨none, rfl, iff_of_true rfl hunknown, ?_⟩
      intro t ht
      cases ht
    · have hmax : maxEpoch rt peerNodeId s = some ts := by
        rw [maxEpoch_eq, List.max?_eq_some_iff]
        exact ⟨hfits.read, fun n hn => hfits.compared_le rt peerNodeId s hn⟩
      have hnewest := (newest_instant_iff rt peerNodeId s ts).mpr
        ⟨hfits.stored, hfits.seconds, fun e he => (hfits.events e he).right⟩
      have hknown := known_of_mem_instants rt peerNodeId s hnewest.left
      rw [hmax]
      refine ⟨some (ts * microsPerSecond), ?_, ?_, ?_⟩
      · simp only [fromEpoch_ok.mpr ⟨hfits.range, rfl⟩]
        rfl
      · exact iff_of_false (fun h => by cases h) (fun h => h hknown)
      · intro t ht
        cases ht
        exact hnewest

end Cursor

/-! A peer's start is merged, and the cursor is no date any more. -/

/-- Decimal digits are the ASCII ones, and all else is refused. -/
def plainRuntime : Runtime where
  intOfFloat _ := Except.error StoreError.overflowError
  millisOfFloat _ := Except.error StoreError.overflowError
  floatBelow _ _ := false
  naiveOffset _ := 0
  strOf _ := ""
  bind _ value := Except.ok value
  digit c := if c.isDigit then some (c.toNat - '0'.toNat) else none

def startedAt : Datetime where
  year := 2024
  month := 1
  day := 1
  hour := 0
  minute := 0
  second := 0
  microsecond := 0
  utcoffset := some 19800000000
  hyear := by decide
  hmonth := by decide
  hday := by decide
  htime := by decide
  hoffset := offset_ist

def startedEvent : List (String × Json) :=
  [("ts", Json.str (isoformat startedAt)), ("event", Json.str "agent_started"),
    ("detail", Json.null)]

def startedPayload : List (String × Json) :=
  [("raw_snapshots", Json.arr []), ("events", Json.arr [Json.obj startedEvent]),
    ("buckets", Json.arr []), ("sync_strategy", Json.str "raw")]

def startedStore : PeerStore :=
  { PeerStore.empty with
    events :=
      [{ peerNodeId := "n", ts := 1704047400000, event := "agent_started", detail := none }] }

theorem millisOf_startedAt : millisOf plainRuntime (Json.str (isoformat startedAt)) =
    Except.ok (some (Number.int 1704047400000)) := by
  have hlocal : startedAt.localMicros = 1704067200000000 := by decide
  have hiso : isoInstant plainRuntime (Json.str (isoformat startedAt)) =
      some 1704047400000000 := by
    unfold isoInstant
    simp only
    rw [fromisoformat_isoformat startedAt, Option.map_some, hlocal]
    rfl
  simp only [millisOf, numberOf, hiso]
  rfl

theorem mergeEvent_started : mergeEvent plainRuntime "n" (Json.obj startedEvent)
    PeerStore.empty = Except.ok (startedStore, true) := by
  have htime : getSome "ts" startedEvent = some (Json.str (isoformat startedAt)) := rfl
  have hbound : boundInt plainRuntime (Number.int 1704047400000) =
      Except.ok 1704047400000 := by decide
  have htext : eventText plainRuntime startedEvent = Except.ok "agent_started" := rfl
  unfold mergeEvent
  simp only [htime, millisOf_startedAt, hbound, htext]
  rfl

theorem cursor_not_newest :
    exists s, (peerStores plainRuntime).exec PeerStore.empty
        [PeerEvent.sync "n" startedPayload] = s ∧
      eventTimes "n" s = [1704047400000] ∧
        lastSeenForPeer plainRuntime "n" s =
          Except.error (StoreError.python (PyError.valueError "year is out of range")) ∧
          ¬ CursorNewest plainRuntime "n" s := by
  have hmerged : (peerStores plainRuntime).exec PeerStore.empty
      [PeerEvent.sync "n" startedPayload] = startedStore := by
    have hevents : mergeAll (mergeEvent plainRuntime "n") "events" startedPayload
        PeerStore.empty = (startedStore, Except.ok 1) := by
      have hget : Assoc.get? "events" startedPayload =
          some (Json.arr [Json.obj startedEvent]) := rfl
      have htruthy : truthy (Json.arr [Json.obj startedEvent]) = true := rfl
      have hlist : pyList (Json.arr [Json.obj startedEvent]) =
          Except.ok [Json.obj startedEvent] := rfl
      simp only [mergeAll, hget, htruthy, hlist, if_true, forEach, mergeEvent_started]
      rfl
    have hsnapshots : mergeAll (mergeSnapshot plainRuntime "n") "raw_snapshots"
        startedPayload PeerStore.empty = (PeerStore.empty, Except.ok 0) := rfl
    have hbuckets : mergeAll (mergeBucket plainRuntime "n") "buckets"
        startedPayload startedStore = (startedStore, Except.ok 0) := rfl
    rw [Machine.exec, Machine.exec]
    show (mergeSyncPayload plainRuntime "n" startedPayload PeerStore.empty).1 = startedStore
    simp only [mergeSyncPayload, hsnapshots, hevents, hbuckets]
  rw [hmerged]
  refine ⟨_, rfl, rfl, rfl, ?_⟩
  intro h
  rcases h with ⟨cursor, hcursor, _⟩
  cases hcursor

end Store
end PanicMonitr
