import PanicMonitr.Store.LogStore
import PanicMonitr.Trust.Projection
import PanicMonitr.Foundation.Machine

/-!
# Merging what a peer sends

The rows of other nodes in the store, and `merge_sync_payload`, which fills them from a
JSON payload.  A payload comes from the network: its items may be anything, and an item
that makes the call raise leaves the rows of the items before it.
-/

namespace PanicMonitr
namespace Store

open Foundation
open Trust

/-!
## Rows about peers
-/

structure PeerSnapshot where
  peerNodeId : String
  ts : Int
  payload : Json

/-- A row of `stat_buckets` as SQLite keeps the values of the payload. -/
structure PeerBucket where
  peerNodeId : String
  windowStart : Int
  windowEnd : Int
  bucketSize : Json
  stats : List Json
  samples : Json

/-- A row of `daily_summaries`; the date is the text of the payload, whatever it says. -/
structure PeerDay where
  peerNodeId : String
  date : String
  stats : List Json

structure PeerStore where
  snapshots : List PeerSnapshot
  events : List EventRow
  buckets : List PeerBucket
  daily : List PeerDay

def PeerStore.empty : PeerStore where
  snapshots := []
  events := []
  buckets := []
  daily := []

def snapshotKey (r : PeerSnapshot) : String × Int :=
  (r.peerNodeId, r.ts)

/-- Two bucket sizes are one value when they have one text. -/
def peerBucketKey (r : PeerBucket) : String × Int × String :=
  (r.peerNodeId, r.windowStart, String.ofList (Json.print r.bucketSize))

def dayKey (r : PeerDay) : String × String :=
  (r.peerNodeId, r.date)

/-!
## The interpreter and SQLite
-/

inductive StoreError where
  | python (e : PyError)
  | overflowError
  | interfaceError
  deriving DecidableEq

inductive Affinity where
  | integer
  | real
  | text

/--
Floats, the zone of naive times, `str()` of what is no text, the values SQLite keeps in a
column, and the decimal digits of Unicode.
-/
structure Runtime where
  intOfFloat : List Char -> Except StoreError Int
  millisOfFloat : List Char -> Except StoreError Int
  floatBelow : List Char -> Int -> Bool
  naiveOffset : Datetime -> Int
  strOf : Json -> String
  bind : Affinity -> Json -> Except StoreError Json
  digit : Char -> Option Nat

/-- A bound integer has 64 bits. -/
def sqliteInt (n : Int) : Except StoreError Int :=
  if -9223372036854775808 <= n ∧ n <= 9223372036854775807 then Except.ok n
  else Except.error StoreError.overflowError

/-- `isinstance(value, (int, float))` -/
inductive Number where
  | int (n : Int)
  | float (text : List Char)

def numberOf : Json -> Option Number
  | Json.bool b => some (Number.int (if b then 1 else 0))
  | Json.int n => some (Number.int n)
  | Json.float text => some (Number.float text)
  | _ => none

namespace Number

variable (rt : Runtime)

/-- `int(value)` -/
def toInt : Number -> Except StoreError Int
  | int n => Except.ok n
  | float text => rt.intOfFloat text

/-- `int(value * 1000)` -/
def toMillis : Number -> Except StoreError Int
  | int n => Except.ok (n * 1000)
  | float text => rt.millisOfFloat text

/-- `value < n` -/
def below (n : Int) : Number -> Bool
  | int m => m < n
  | float text => rt.floatBelow text n

end Number

/-- `datetime.fromisoformat(value)`; `none` is its `ValueError` or `TypeError`. -/
def isoInstant (rt : Runtime) : Json -> Option Instant
  | Json.str text =>
      (fromisoformat text).map (fun d => d.localMicros - d.utcoffset.getD (rt.naiveOffset d))
  | _ => none

/-- A time of a snapshot or a bucket, in seconds. -/
def secondsOf (rt : Runtime) (value : Json) : Option Number :=
  match numberOf value with
  | some n => some n
  | none => (isoInstant rt value).map (fun t => Number.int (epochOf t))

/--
The time of an event, in milliseconds; a value below 10^11 is taken for seconds.  `none`
is an error the loop catches.
-/
def millisOf (rt : Runtime) (value : Json) : Except StoreError (Option Number) :=
  let read :=
    match numberOf value with
    | some n => some n
    | none => (isoInstant rt value).map (fun t => Number.int (Int.tdiv t 1000))
  match read with
  | none => Except.ok none
  | some n =>
      if n.below rt 100000000000 then
        match n.toMillis rt with
        | Except.ok millis => Except.ok (some (Number.int millis))
        | Except.error (StoreError.python (PyError.valueError _)) => Except.ok none
        | Except.error (StoreError.python (PyError.typeError _)) => Except.ok none
        | Except.error e => Except.error e
      else Except.ok (some n)

/-- `int(value)`, bound to a column. -/
def boundInt (rt : Runtime) (n : Number) : Except StoreError Int :=
  match n.toInt rt with
  | Except.error e => Except.error e
  | Except.ok n => sqliteInt n

/-- `item.get(...)` of what is no dict. -/
def noGet (item : Json) : StoreError :=
  StoreError.python (PyError.attributeError
    ("'" ++ typeName item ++ "' object has no attribute 'get'"))

/-- `fields.get(key)`, where `None` is a missing one. -/
def getSome (key : String) (fields : List (String × Json)) : Option Json :=
  match Assoc.get? key fields with
  | some Json.null => none
  | value => value

/-!
## One item
-/

section Items

variable (rt : Runtime) (peerNodeId : String)

/-- `snap.get("ts") or snap.get("timestamp")` -/
def snapshotTime (fields : List (String × Json)) : Option Json :=
  match Assoc.get? "ts" fields with
  | some value => if truthy value then some value else getSome "timestamp" fields
  | none => getSome "timestamp" fields

/-- The flag is `cur.rowcount`, here and below. -/
def mergeSnapshot (snap : Json) (s : PeerStore) : Except StoreError (PeerStore × Bool) :=
  match snap with
  | Json.obj fields =>
      match (snapshotTime fields).bind (secondsOf rt) with
      | none => Except.ok (s, false)
      | some n =>
          match boundInt rt n with
          | Except.error e => Except.error e
          | Except.ok ts =>
              let r := { peerNodeId := peerNodeId, ts := ts, payload := snap }
              Except.ok
                ({ s with snapshots := insertOrIgnore snapshotKey s.snapshots r },
                  isFree snapshotKey s.snapshots r)
  | _ => Except.error (noGet snap)

/-- `ev.get("event") or ""`, as the text SQLite keeps. -/
def eventText (fields : List (String × Json)) : Except StoreError String :=
  match Assoc.get? "event" fields with
  | none => Except.ok ""
  | some value =>
      if truthy value then
        match rt.bind Affinity.text value with
        | Except.error e => Except.error e
        | Except.ok (Json.str text) => Except.ok text
        | Except.ok kept => Except.ok (String.ofList (Json.print kept))
      else Except.ok ""

/-- The JSON text of a truthy detail; the compact one stands for Python's. -/
def detailText (fields : List (String × Json)) : Option String :=
  (Assoc.get? "detail" fields).bind (fun value =>
    if truthy value then some (String.ofList (Json.print value)) else none)

def mergeEvent (ev : Json) (s : PeerStore) : Except StoreError (PeerStore × Bool) :=
  match ev with
  | Json.obj fields =>
      match getSome "ts" fields with
      | none => Except.ok (s, false)
      | some value =>
          match millisOf rt value with
          | Except.error e => Except.error e
          | Except.ok none => Except.ok (s, false)
          | Except.ok (some n) =>
              match boundInt rt n, eventText rt fields with
              | Except.error e, _ => Except.error e
              | _, Except.error e => Except.error e
              | Except.ok ts, Except.ok event =>
                  let r :=
                    { peerNodeId := peerNodeId
                      ts := ts
                      event := event
                      detail := detailText fields }
                  Except.ok
                    ({ s with events := insertOrIgnore eventKey s.events r },
                      isFree eventKey s.events r)
  | _ => Except.error (noGet ev)

/-- `b.get(key, default)` for several keys, as SQLite keeps them in one kind of column. -/
def boundAll (affinity : Affinity) (fields : List (String × Json)) :
    List (String × Json) -> Except StoreError (List Json)
  | [] => Except.ok []
  | (key, default) :: rest =>
      match rt.bind affinity ((Assoc.get? key fields).getD default),
        boundAll affinity fields rest with
      | Except.error e, _ => Except.error e
      | _, Except.error e => Except.error e
      | Except.ok value, Except.ok values => Except.ok (value :: values)

/-- `cpu_avg` to `disk_pct_avg`, and the two deltas. -/
def bucketStats (fields : List (String × Json)) : Except StoreError (List Json) :=
  match boundAll rt Affinity.real fields
      [("cpu_avg", Json.null), ("cpu_max", Json.null), ("mem_avg", Json.null),
        ("mem_max", Json.null), ("disk_pct_avg", Json.null)],
    boundAll rt Affinity.integer fields
      [("net_rx_delta", Json.null), ("net_tx_delta", Json.null)] with
  | Except.error e, _ => Except.error e
  | _, Except.error e => Except.error e
  | Except.ok averages, Except.ok deltas => Except.ok (averages ++ deltas)

/-- A bucket with its two times read; a row with a `NULL` that must be none is ignored. -/
def insertBucket (fields : List (String × Json)) (windowStart windowEnd : Int)
    (s : PeerStore) : Except StoreError (PeerStore × Bool) :=
  match boundAll rt Affinity.integer fields
      [("bucket_size", Json.int 0), ("samples", Json.int 0)],
    bucketStats rt fields with
  | Except.error e, _ => Except.error e
  | _, Except.error e => Except.error e
  | Except.ok [Json.null, _], _ => Except.ok (s, false)
  | Except.ok [_, Json.null], _ => Except.ok (s, false)
  | Except.ok [bucketSize, samples], Except.ok stats =>
      let r :=
        { peerNodeId := peerNodeId
          windowStart := windowStart
          windowEnd := windowEnd
          bucketSize := bucketSize
          stats := stats
          samples := samples }
      Except.ok
        ({ s with buckets := insertOrIgnore peerBucketKey s.buckets r },
          isFree peerBucketKey s.buckets r)
  | Except.ok _, _ => Except.ok (s, false)

def mergeWindow (fields : List (String × Json)) (s : PeerStore) :
    Except StoreError (PeerStore × Bool) :=
  match (getSome "window_start" fields).bind (secondsOf rt),
    (getSome "window_end" fields).bind (secondsOf rt) with
  | some ws, some we =>
      match boundInt rt ws, boundInt rt we with
      | Except.error e, _ => Except.error e
      | _, Except.error e => Except.error e
      | Except.ok windowStart, Except.ok windowEnd =>
          insertBucket rt peerNodeId fields windowStart windowEnd s
  | _, _ => Except.ok (s, false)

/-- `str(b.get("date", ""))` -/
def dateText (value : Json) : String :=
  match value with
  | Json.str text => text
  | value => rt.strOf value

def mergeDay (fields : List (String × Json)) (date : Json) (s : PeerStore) :
    Except StoreError (PeerStore × Bool) :=
  match boundAll rt Affinity.real fields
      [("uptime_pct", Json.null), ("avg_cpu", Json.null), ("avg_mem", Json.null)],
    boundAll rt Affinity.integer fields [("incidents", Json.int 0)] with
  | Except.error e, _ => Except.error e
  | _, Except.error e => Except.error e
  | Except.ok averages, Except.ok incidents =>
      let r :=
        { peerNodeId := peerNodeId
          date := dateText rt date
          stats := averages ++ incidents }
      Except.ok ({ s with daily := insertOrReplace dayKey s.daily r }, true)

/-- `key in b` -/
def contains (key : String) : Json -> Except StoreError Bool
  | Json.obj fields => Except.ok (decide (key ∈ Assoc.keys fields))
  | Json.str text => Except.ok (decide (key.toList <:+: text.toList))
  | Json.arr items =>
      Except.ok (items.any (fun
        | Json.str text => text = key
        | _ => false))
  | b => Except.error (StoreError.python (PyError.typeError
      ("argument of type '" ++ typeName b ++ "' is not iterable")))

def mergeBucket (b : Json) (s : PeerStore) : Except StoreError (PeerStore × Bool) :=
  match contains "window_start" b with
  | Except.error e => Except.error e
  | Except.ok true =>
      match b with
      | Json.obj fields => mergeWindow rt peerNodeId fields s
      | _ => Except.error (noGet b)
  | Except.ok false =>
      match contains "date" b with
      | Except.error e => Except.error e
      | Except.ok false => Except.ok (s, false)
      | Except.ok true =>
          match b with
          | Json.obj fields =>
              mergeDay rt peerNodeId fields ((Assoc.get? "date" fields).getD (Json.str "")) s
          | _ => Except.error (noGet b)

end Items

/-!
## A payload
-/

/-- A loop over items; the count is of the rows it created. -/
def forEach (merge : Json -> PeerStore -> Except StoreError (PeerStore × Bool)) :
    List Json -> PeerStore -> PeerStore × Except StoreError Nat
  | [], s => (s, Except.ok 0)
  | item :: items, s =>
      match merge item s with
      | Except.error e => (s, Except.error e)
      | Except.ok (s', merged) =>
          match forEach merge items s' with
          | (s'', Except.error e) => (s'', Except.error e)
          | (s'', Except.ok n) => (s'', Except.ok (merged.toNat + n))

/-- `for item in payload.get(key) or []` -/
def mergeAll (merge : Json -> PeerStore -> Except StoreError (PeerStore × Bool))
    (key : String) (payload : List (String × Json)) (s : PeerStore) :
    PeerStore × Except StoreError Nat :=
  match Assoc.get? key payload with
  | none => (s, Except.ok 0)
  | some value =>
      if truthy value then
        match pyList value with
        | Except.error e => (s, Except.error (StoreError.python e))
        | Except.ok items => forEach merge items s
      else (s, Except.ok 0)

structure MergeResult where
  snapshotsMerged : Nat
  eventsMerged : Nat
  bucketsMerged : Nat
  strategy : Json

/-- `payload.get("sync_strategy") or "unknown"` -/
def strategyOf (payload : List (String × Json)) : Json :=
  match Assoc.get? "sync_strategy" payload with
  | none => Json.str "unknown"
  | some value => if truthy value then value else Json.str "unknown"

/-- `merge_sync_payload(peer_node_id, payload)` -/
def mergeSyncPayload (rt : Runtime) (peerNodeId : String) (payload : List (String × Json))
    (s : PeerStore) : PeerStore × Except StoreError MergeResult :=
  match mergeAll (mergeSnapshot rt peerNodeId) "raw_snapshots" payload s with
  | (s, Except.error e) => (s, Except.error e)
  | (s, Except.ok snapshots) =>
      match mergeAll (mergeEvent rt peerNodeId) "events" payload s with
      | (s, Except.error e) => (s, Except.error e)
      | (s, Except.ok events) =>
          match mergeAll (mergeBucket rt peerNodeId) "buckets" payload s with
          | (s, Except.error e) => (s, Except.error e)
          | (s, Except.ok buckets) =>
              (s, Except.ok
                { snapshotsMerged := snapshots
                  eventsMerged := events
                  bucketsMerged := buckets
                  strategy := strategyOf payload })

/-- What the live pull merges: the statistics of a peer, stamped with the time of the pull. -/
def livePayload (ownStats : List (String × Json)) (now : Datetime) : List (String × Json) :=
  let stamped :=
    if "ts" ∈ Assoc.keys ownStats then ownStats
    else ownStats ++ [("ts", Json.str (isoformat now))]
  [("raw_snapshots", Json.arr [Json.obj stamped]), ("events", Json.arr []),
    ("sync_strategy", Json.str "live")]

inductive PeerEvent where
  | sync (peerNodeId : String) (payload : List (String × Json))
  | livePull (peerNodeId : String) (ownStats : List (String × Json)) (now : Datetime)

def peerStores (rt : Runtime) : Machine PeerStore PeerEvent where
  start s := s = PeerStore.empty
  step s e :=
    match e with
    | PeerEvent.sync peerNodeId payload => (mergeSyncPayload rt peerNodeId payload s).1
    | PeerEvent.livePull peerNodeId ownStats now =>
        (mergeSyncPayload rt peerNodeId (livePayload ownStats now) s).1

end Store
end PanicMonitr
