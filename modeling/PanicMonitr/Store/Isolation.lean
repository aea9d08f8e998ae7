import PanicMonitr.Store.Delta
import PanicMonitr.Store.MergeRows
import PanicMonitr.Store.Payload

/-!
# Rows of other nodes

The four tables hold the rows of every node.  What a peer sends goes into rows about
that peer, and what the node computes about itself reads its own rows only.
-/

namespace PanicMonitr
namespace Store

open Foundation
open Trust

variable {V : Type}

/-!
## What the own rows decide
-/

structure SameOwn (s s' : LogStore V) : Prop where
  ownNodeId : s'.ownNodeId = s.ownNodeId
  raw : s'.raw.filter (fun r => decide (r.peerNodeId = s.own)) =
    s.raw.filter (fun r => decide (r.peerNodeId = s.own))
  events : s'.events.filter (fun r => decide (r.peerNodeId = s.own)) =
    s.events.filter (fun r => decide (r.peerNodeId = s.own))
  buckets : s'.buckets.filter (fun r => decide (r.peerNodeId = s.own)) =
    s.buckets.filter (fun r => decide (r.peerNodeId = s.own))
  daily : s'.daily.filter (fun r => decide (r.peerNodeId = s.own)) =
    s.daily.filter (fun r => decide (r.peerNodeId = s.own))

/-- A filter that asks for the node first only sees the rows of the node. -/
theorem filter_of_same {row : Type} {p q : row -> Bool} {rows rows' : List row}
    (hsame : rows'.filter p = rows.filter p) (hfirst : forall r, q r = true -> p r = true) :
    rows'.filter q = rows.filter q := by
  have hnested : forall xs : List row, xs.filter q = (xs.filter p).filter q := by
    intro xs
    rw [List.filter_filter]
    apply List.filter_congr
    intro r _
    cases hq : q r with
    | false => rfl
    | true => rw [hfirst r hq]; rfl
  rw [hnested rows', hnested rows, hsame]

theorem insertMany_of_same {row key : Type} [DecidableEq key] {keyOf : row -> key}
    {p : row -> Bool} {rows rows' news : List row} (hsame : rows'.filter p = rows.filter p)
    (hnews : forall r, r ∈ news -> p r = true)
    (hkey : forall r r', keyOf r = keyOf r' -> p r = p r') :
    (insertMany keyOf rows' news).filter p = (insertMany keyOf rows news).filter p ∧
      (insertMany keyOf rows' news).length - rows'.length =
        (insertMany keyOf rows news).length - rows.length := by
  have hlength : forall xs : List row, (insertMany keyOf xs news).length - xs.length =
      (insertMany keyOf (xs.filter p) news).length - (xs.filter p).length :=
    fun _ => length_insertMany_of_all hnews hkey
  constructor
  · rw [filter_insertMany_of_all hnews hkey, filter_insertMany_of_all hnews hkey, hsame]
  · rw [hlength rows', hlength rows, hsame]

namespace SameOwn

variable {s s' : LogStore V} (h : SameOwn s s')
include h

theorem own : s'.own = s.own := by
  unfold LogStore.own
  rw [h.ownNodeId]

theorem nextSeq : nextSeq s'.own s' = nextSeq s.own s := by
  unfold Store.nextSeq
  rw [h.own, h.raw]

theorem getDeltaSinceSeq (sinceSeq : Int) :
    getDeltaSinceSeq sinceSeq s' = getDeltaSinceSeq sinceSeq s := by
  unfold Store.getDeltaSinceSeq entriesAbove latestSeq ownSeqs
  rw [h.own, h.raw]

theorem sized (size : Int) : sized s'.own size s'.buckets = sized s.own size s.buckets := by
  unfold Store.sized
  rw [h.own]
  apply filter_of_same h.buckets
  intro r hr
  exact decide_eq_true (of_decide_eq_true hr).left

theorem syncPayload (now : Instant) (lastSeen : Datetime) (since : Instant) :
    syncPayload now lastSeen since s' = syncPayload now lastSeen since s := by
  have hevents : forall since, getEventsSince since s' = getEventsSince since s := by
    intro since
    unfold getEventsSince eventsSince
    rw [h.own]
    congr 2
    apply filter_of_same h.events
    intro r hr
    exact decide_eq_true (of_decide_eq_true hr).left
  have hraw : forall since, getRawSnapshots since s' = getRawSnapshots since s := by
    intro since
    unfold getRawSnapshots
    rw [h.own]
    congr 1
    apply filter_of_same h.raw
    intro r hr
    exact decide_eq_true (of_decide_eq_true hr).left
  have hbuckets : forall since size, getBuckets since size s' = getBuckets since size s := by
    intro since size
    unfold getBuckets
    rw [h.sized]
  have hdaily : forall since, getDailySummaries since s' = getDailySummaries since s := by
    intro since
    unfold getDailySummaries
    rw [h.own]
    congr 1
    apply filter_of_same h.daily
    intro r hr
    exact decide_eq_true (of_decide_eq_true hr).left
  unfold Store.syncPayload
  simp only [hevents, hraw, hbuckets, hdaily]

theorem getSyncPayload (now : Instant) (lastSeen : Datetime) :
    getSyncPayload now lastSeen s' = getSyncPayload now lastSeen s := by
  unfold Store.getSyncPayload
  simp only [h.syncPayload]

/-- Own rows that go into `stat_buckets`: the same number of them, and the same rows. -/
theorem insertBuckets {news : List (StatBucket V)}
    (hnews : forall r, r ∈ news -> r.peerNodeId = s.own) :
    SameOwn { s with buckets := insertMany bucketKey s.buckets news }
        { s' with buckets := insertMany bucketKey s'.buckets news } ∧
      (insertMany bucketKey s'.buckets news).length - s'.buckets.length =
        (insertMany bucketKey s.buckets news).length - s.buckets.length := by
  have hsame := insertMany_of_same h.buckets
    (fun r hr => decide_eq_true (hnews r hr)) (fun r r' (hkey : bucketKey r = bucketKey r') => by
      rw [show r.peerNodeId = r'.peerNodeId from congrArg Prod.fst hkey])
  exact ⟨⟨h.ownNodeId, h.raw, h.events, hsame.left, h.daily⟩, hsame.right⟩

theorem insertDaily {news : List (DailyRow V)}
    (hnews : forall r, r ∈ news -> r.peerNodeId = s.own) :
    SameOwn { s with daily := insertMany dailyKey s.daily news }
        { s' with daily := insertMany dailyKey s'.daily news } ∧
      (insertMany dailyKey s'.daily news).length - s'.daily.length =
        (insertMany dailyKey s.daily news).length - s.daily.length := by
  have hsame := insertMany_of_same h.daily
    (fun r hr => decide_eq_true (hnews r hr)) (fun r r' (hkey : dailyKey r = dailyKey r') => by
      rw [show r.peerNodeId = r'.peerNodeId from congrArg Prod.fst hkey])
  exact ⟨⟨h.ownNodeId, h.raw, h.events, h.buckets, hsame.left⟩, hsame.right⟩

theorem eligible (size cutoff : Int) : eligible size cutoff s' = eligible size cutoff s := by
  unfold Store.eligible
  rw [h.sized]

section RollUps

variable [LinearOrder V] (mean : List V -> V) (now : Instant)

theorem rollUp5min : SameOwn (rollUp5min mean now s).1 (rollUp5min mean now s').1 ∧
    (rollUp5min mean now s').2 = (rollUp5min mean now s).2 := by
  have hrows : fiveMinuteBuckets mean now s' = fiveMinuteBuckets mean now s := by
    unfold fiveMinuteBuckets rawRows
    rw [h.sized, h.own]
    congr 3
    dsimp only
    congr 1
    apply filter_of_same h.raw
    intro r hr
    exact decide_eq_true (of_decide_eq_true hr).left
  unfold Store.rollUp5min
  simp only [hrows]
  apply h.insertBuckets
  intro r hr
  rcases List.mem_map.mp hr with ⟨window, _, rfl⟩
  rfl

theorem rollHourly : SameOwn (rollHourly mean now s).1 (rollHourly mean now s').1 ∧
    (rollHourly mean now s').2 = (rollHourly mean now s).2 := by
  have hrows : hourlyRows mean now s' = hourlyRows mean now s := by
    unfold hourlyRows hourGroups
    rw [h.eligible, h.own]
  unfold Store.rollHourly
  simp only [hrows]
  apply h.insertBuckets
  intro r hr
  rcases List.mem_filterMap.mp hr with ⟨hour, _, hrow⟩
  split at hrow
  · cases hrow
  · cases hrow
    rfl

omit [LinearOrder V] in
theorem rollDaily (readable : EventRow -> Bool) :
    SameOwn (rollDaily mean readable now s).1 (rollDaily mean readable now s').1 ∧
      (rollDaily mean readable now s').2 = (rollDaily mean readable now s).2 := by
  have hevents : forall since until_ limit, getEvents since until_ limit s.own s' =
      getEvents since until_ limit s.own s := by
    intro since until_ limit
    unfold getEvents
    congr 2
    apply filter_of_same h.events
    intro r hr
    exact decide_eq_true (of_decide_eq_true hr).left
  have hrows : (dayGroups now s').map (fun day => dailyRow mean readable s' day.1 day.2) =
      (dayGroups now s).map (fun day => dailyRow mean readable s day.1 day.2) := by
    unfold dayGroups dailyRow incidentCount
    simp only [h.eligible, hevents, h.own]
  unfold Store.rollDaily
  simp only [hrows]
  apply h.insertDaily
  intro r hr
  rcases List.mem_map.mp hr with ⟨day, _, rfl⟩
  rfl

end RollUps

end SameOwn

/-!
## The tables
-/

/-- A row of `raw_snapshots` with its `seq` column. -/
structure TableRow where
  snapshot : PeerSnapshot
  seq : Option Int

structure Tables where
  raw : List TableRow
  events : List EventRow
  buckets : List PeerBucket
  daily : List PeerDay

/-- What the queries about the own node read out of the stored values. -/
structure Reading (V : Type) where
  snapshot : Json -> Snapshot V
  bucket : PeerBucket -> StatBucket V
  day : PeerDay -> DailyRow V

namespace Tables

/-- The columns `merge_sync_payload` writes. -/
def peers (t : Tables) : PeerStore :=
  { snapshots := t.raw.map TableRow.snapshot
    events := t.events
    buckets := t.buckets
    daily := t.daily }

/-- A snapshot that is merged gets no number. -/
def ofPeers (t : Tables) (s : PeerStore) : Tables :=
  { raw := t.raw ++ (s.snapshots.drop t.raw.length).map (fun r =>
      { snapshot := r, seq := none })
    events := s.events
    buckets := s.buckets
    daily := s.daily }

def merge (rt : Runtime) (peerNodeId : String) (payload : List (String × Json))
    (t : Tables) : Tables :=
  t.ofPeers (mergeSyncPayload rt peerNodeId payload t.peers).1

def logStore (ownNodeId : String) (read : Reading V) (t : Tables) : LogStore V :=
  { ownNodeId := ownNodeId
    events := t.events
    raw := t.raw.map (fun r =>
      { peerNodeId := r.snapshot.peerNodeId
        ts := r.snapshot.ts
        payload := read.snapshot r.snapshot.payload
        seq := r.seq })
    buckets := t.buckets.map (fun b => { read.bucket b with peerNodeId := b.peerNodeId })
    daily := t.daily.map (fun d => { read.day d with peerNodeId := d.peerNodeId }) }

end Tables

inductive Answer where
  | sync (payload : Json)
  | stats (response : Json) (now : Datetime)

/-- `entries`, which is counted before anything is merged. -/
def entriesOf (response : List (String × Json)) : Except PyError (List Json) :=
  match Assoc.get? "entries" response with
  | none => Except.ok []
  | some value => if truthy value then pyList value else Except.ok []

/-- The merge of an answer; an answer that makes the caller raise first changes nothing. -/
def Tables.receive (rt : Runtime) (peerNodeId : String) (t : Tables) : Answer -> Tables
  | Answer.sync (Json.obj payload) => t.merge rt peerNodeId payload
  | Answer.sync _ => t
  | Answer.stats (Json.obj response) now =>
      match entriesOf response, getSome "own_stats" response with
      | Except.ok _, some (Json.obj ownStats) =>
          t.merge rt peerNodeId (livePayload ownStats now)
      | _, _ => t
  | Answer.stats _ _ => t

/-!
## Isolation
-/

/-- All rows that are not about the peer are as they were. -/
structure OthersKept (peerNodeId : String) (t t' : Tables) : Prop where
  raw : t'.raw.filter (fun r => decide (r.snapshot.peerNodeId ≠ peerNodeId)) =
    t.raw.filter (fun r => decide (r.snapshot.peerNodeId ≠ peerNodeId))
  events : t'.events.filter (fun r => decide (r.peerNodeId ≠ peerNodeId)) =
    t.events.filter (fun r => decide (r.peerNodeId ≠ peerNodeId))
  buckets : t'.buckets.filter (fun r => decide (r.peerNodeId ≠ peerNodeId)) =
    t.buckets.filter (fun r => decide (r.peerNodeId ≠ peerNodeId))
  daily : t'.daily.filter (fun r => decide (r.peerNodeId ≠ peerNodeId)) =
    t.daily.filter (fun r => decide (r.peerNodeId ≠ peerNodeId))

/-- What the node computes about itself: the same results, and the same own rows. -/
structure SameResults [LinearOrder V] (s s' : LogStore V) : Prop where
  nextSeq : nextSeq s'.own s' = nextSeq s.own s
  delta : forall sinceSeq, getDeltaSinceSeq sinceSeq s' = getDeltaSinceSeq sinceSeq s
  payload : forall now lastSeen, getSyncPayload now lastSeen s' = getSyncPayload now lastSeen s
  fiveMinutes : forall (mean : List V -> V) now,
    SameOwn (rollUp5min mean now s).1 (rollUp5min mean now s').1 ∧
      (rollUp5min mean now s').2 = (rollUp5min mean now s).2
  hourly : forall (mean : List V -> V) now,
    SameOwn (rollHourly mean now s).1 (rollHourly mean now s').1 ∧
      (rollHourly mean now s').2 = (rollHourly mean now s).2
  daily : forall (mean : List V -> V) readable now,
    SameOwn (rollDaily mean readable now s).1 (rollDaily mean readable now s').1 ∧
      (rollDaily mean readable now s').2 = (rollDaily mean readable now s).2

theorem SameOwn.results [LinearOrder V] {s s' : LogStore V} (h : SameOwn s s') :
    SameResults s s' :=
  { nextSeq := h.nextSeq
    delta := h.getDeltaSinceSeq
    payload := h.getSyncPayload
    fiveMinutes := h.rollUp5min
    hourly := h.rollHourly
    daily := fun mean readable now => h.rollDaily mean now readable }

theorem OthersKept.refl (peerNodeId : String) (t : Tables) : OthersKept peerNodeId t t :=
  ⟨rfl, rfl, rfl, rfl⟩

/-- The rows a merge adds are about its peer, and the days it replaces are too. -/
theorem othersKept_merge (rt : Runtime) (peerNodeId : String)
    (payload : List (String × Json)) (t : Tables) :
    OthersKept peerNodeId t (t.merge rt peerNodeId payload) := by
  rcases mergeSyncPayload_inserts rt peerNodeId payload with ⟨i, habout, hmerge⟩
  have hinserted : t.merge rt peerNodeId payload = t.ofPeers (t.peers.insert i) := by
    unfold Tables.merge
    rcases hmerge with ⟨e, herror⟩ | hok
    · rw [herror]
    · rcases hok t.peers with ⟨result, hresult⟩
      rw [hresult]
  have hdrop : forall name, name = peerNodeId -> decide (name ≠ peerNodeId) = false := by
    intro name hname
    simp [hname]
  rw [hinserted]
  constructor
  · rcases insertMany_append snapshotKey (t.raw.map TableRow.snapshot) i.snapshots with
      ⟨added, hadded, hin⟩
    show (t.raw ++ ((insertMany snapshotKey (t.raw.map TableRow.snapshot) i.snapshots).drop
      t.raw.length).map _).filter _ = _
    rw [hadded, List.drop_left' (List.length_map ..), List.filter_append]
    have hnone : (added.map (fun r => ({ snapshot := r, seq := none } : TableRow))).filter
        (fun r => decide (r.snapshot.peerNodeId ≠ peerNodeId)) = [] := by
      rw [List.filter_eq_nil_iff]
      intro r hr
      rcases List.mem_map.mp hr with ⟨row, hrow, rfl⟩
      rw [hdrop _ (habout.snapshots row (hin row hrow))]
      exact Bool.false_ne_true
    rw [hnone, List.append_nil]
  · exact filter_insertMany (fun r hr => hdrop _ (habout.events r hr))
  · exact filter_insertMany (fun r hr => hdrop _ (habout.buckets r hr))
  · apply filter_replaceMany (fun r hr => hdrop _ (habout.daily r hr))
    intro r r' hkey
    rw [show r.peerNodeId = r'.peerNodeId from congrArg Prod.fst hkey]

theorem othersKept_receive (rt : Runtime) (peerNodeId : String) (t : Tables)
    (answer : Answer) : OthersKept peerNodeId t (t.receive rt peerNodeId answer) := by
  unfold Tables.receive
  split
  · exact othersKept_merge rt peerNodeId _ t
  · exact OthersKept.refl peerNodeId t
  · split
    · exact othersKept_merge rt peerNodeId _ t
    · exact OthersKept.refl peerNodeId t
  · exact OthersKept.refl peerNodeId t

theorem OthersKept.sameOwn {peerNodeId : String} {t t' : Tables}
    (h : OthersKept peerNodeId t t') {ownNodeId : String} (read : Reading V)
    (hother : (t.logStore ownNodeId read).own ≠ peerNodeId) :
    SameOwn (t.logStore ownNodeId read) (t'.logStore ownNodeId read) := by
  have hfirst : forall name, decide (name = (t.logStore ownNodeId read).own) = true ->
      decide (name ≠ peerNodeId) = true := by
    intro name hname
    rw [of_decide_eq_true hname]
    exact decide_eq_true hother
  constructor
  · rfl
  · show (t'.raw.map _).filter _ = (t.raw.map _).filter _
    rw [List.filter_map, List.filter_map]
    congr 1
    exact filter_of_same h.raw (fun r hr => hfirst _ hr)
  · exact filter_of_same h.events (fun r hr => hfirst _ hr)
  · show (t'.buckets.map _).filter _ = (t.buckets.map _).filter _
    rw [List.filter_map, List.filter_map]
    congr 1
    exact filter_of_same h.buckets (fun r hr => hfirst _ hr)
  · show (t'.daily.map _).filter _ = (t.daily.map _).filter _
    rw [List.filter_map, List.filter_map]
    congr 1
    exact filter_of_same h.daily (fun r hr => hfirst _ hr)

/--
Whatever a peer answers, the rows of all other nodes are kept, and what another node
computes about itself is what it computed before.
-/
theorem answers_isolated [LinearOrder V] (rt : Runtime) (peerNodeId : String)
    (answer : Answer) (t : Tables) :
    OthersKept peerNodeId t (t.receive rt peerNodeId answer) ∧
      forall (read : Reading V) (ownNodeId : String),
        (t.logStore ownNodeId read).own ≠ peerNodeId ->
          SameResults (t.logStore ownNodeId read)
            ((t.receive rt peerNodeId answer).logStore ownNodeId read) := by
  have hkept := othersKept_receive rt peerNodeId t answer
  exact ⟨hkept, fun read _ hother => (hkept.sameOwn read hother).results⟩

/-! A peer names a snapshot of its own at the second of a snapshot of the node. -/

def ownTables : Tables where
  raw := [{ snapshot := { peerNodeId := "self", ts := 7, payload := Json.null }, seq := some 1 }]
  events := []
  buckets := []
  daily := []

def nothingRead : Reading Int where
  snapshot _ :=
    { cpuPercent := none
      memPercent := none
      diskPercent := none
      netRecvBytes := none
      netSentBytes := none }
  bucket b :=
    { peerNodeId := b.peerNodeId
      windowStart := b.windowStart
      windowEnd := b.windowEnd
      bucketSize := 0
      cpuAvg := none
      cpuMax := none
      memAvg := none
      memMax := none
      diskPctAvg := none
      netRxDelta := none
      netTxDelta := none
      samples := 0 }
  day d :=
    { peerNodeId := d.peerNodeId
      date := 0
      uptimePct := none
      avgCpu := none
      avgMem := none
      incidents := 0 }

theorem answers_isolated_repeated :
    (ownTables.receive textRuntime "n" (Answer.sync (Json.obj repeatedPayload))).raw.length = 2 ∧
      SameResults (ownTables.logStore "self" nothingRead)
        ((ownTables.receive textRuntime "n" (Answer.sync (Json.obj repeatedPayload))).logStore
          "self" nothingRead) :=
  ⟨rfl, (answers_isolated textRuntime "n" (Answer.sync (Json.obj repeatedPayload))
    ownTables).right nothingRead "self" (by decide)⟩

end Store
end PanicMonitr
