import PanicMonitr.Foundation.Datetime
import PanicMonitr.Foundation.Table

/-!
# The log store

The four tables of the monitored node's store and the jobs that fill them: recording,
the 5-minute, hourly and daily roll-ups, and pruning.  Every transaction commits; a
clock reading is an argument.  Readings and averages live in an arbitrary linear
order, `mean` stands for `round(sum(xs) / len(xs), 2)` of a non-empty list.
-/

namespace PanicMonitr
namespace Store

open Foundation

def RAW_RETAIN_HOURS : Int := 2
def BUCKET_5MIN_RETAIN_DAYS : Int := 30
def BUCKET_5MIN_SECS : Int := 300
def BUCKET_1HOUR_SECS : Int := 3600

def EV_CONTAINER_EXITED : String := "container_exited"
def EV_CONTAINER_UNHEALTHY : String := "container_unhealthy"

/-!
## Tables
-/

/-- A row of `events`; `ts` is in milliseconds. -/
structure EventRow where
  peerNodeId : String
  ts : Int
  event : String
  detail : Option String
  deriving DecidableEq

structure Snapshot (V : Type) where
  cpuPercent : Option V
  memPercent : Option V
  diskPercent : Option V
  netRecvBytes : Option Int
  netSentBytes : Option Int
  deriving DecidableEq

structure RawRow (V : Type) where
  peerNodeId : String
  ts : Int
  payload : Snapshot V
  seq : Option Int
  deriving DecidableEq

/-- A row of `stat_buckets`. -/
structure StatBucket (V : Type) where
  peerNodeId : String
  windowStart : Int
  windowEnd : Int
  bucketSize : Int
  cpuAvg : Option V
  cpuMax : Option V
  memAvg : Option V
  memMax : Option V
  diskPctAvg : Option V
  netRxDelta : Option Int
  netTxDelta : Option Int
  samples : Int
  deriving DecidableEq

/-- A row of `daily_summaries`; the date text is kept as its day number from the epoch. -/
structure DailyRow (V : Type) where
  peerNodeId : String
  date : Int
  uptimePct : Option V
  avgCpu : Option V
  avgMem : Option V
  incidents : Int
  deriving DecidableEq

structure LogStore (V : Type) where
  ownNodeId : String
  events : List EventRow
  raw : List (RawRow V)
  buckets : List (StatBucket V)
  daily : List (DailyRow V)

variable {V : Type}

namespace LogStore

/-- `self._own_node_id or "self"` -/
def own (s : LogStore V) : String :=
  if s.ownNodeId = "" then "self" else s.ownNodeId

end LogStore

/-- `_to_epoch`: `int()` cuts towards zero. -/
def epochOf (t : Instant) : Int :=
  t.tdiv microsPerSecond

def hours (n : Int) : Int :=
  n * 3600 * microsPerSecond

def days (n : Int) : Int :=
  hours (24 * n)

/-- The unique keys of the tables. -/
def eventKey (r : EventRow) : String × Int × String × String :=
  (r.peerNodeId, r.ts, r.event, r.detail.getD "")

def rawKey (r : RawRow V) : String × Int :=
  (r.peerNodeId, r.ts)

def bucketKey (r : StatBucket V) : String × Int × Int :=
  (r.peerNodeId, r.windowStart, r.bucketSize)

def dailyKey (r : DailyRow V) : String × Int :=
  (r.peerNodeId, r.date)

/-!
## Recording
-/

/-- `record_event(event, detail)`; the detail is its JSON text. -/
def recordEvent (event : String) (detail : Option String) (now : Instant)
    (s : LogStore V) : LogStore V :=
  { s with
    events := insertOrIgnore eventKey s.events
      { peerNodeId := s.own, ts := now.tdiv 1000, event := event, detail := detail } }

/-- `get_events(since, until, limit, peer_node_id)` with both bounds in seconds. -/
def getEvents (since until_ : Int) (limit : Nat) (peerNodeId : String)
    (s : LogStore V) : List EventRow :=
  (orderBy EventRow.ts (s.events.filter (fun e =>
    decide (e.peerNodeId = peerNodeId ∧ since * 1000 <= e.ts ∧
      e.ts <= until_ * 1000)))).take limit

/-- `COALESCE(MAX(seq), 0) + 1` over the rows of a peer. -/
def nextSeq (peerNodeId : String) (s : LogStore V) : Int :=
  (((s.raw.filter (fun r => decide (r.peerNodeId = peerNodeId))).filterMap
    RawRow.seq).max?).getD 0 + 1

def recordSnapshot (snap : Snapshot V) (now : Instant) (s : LogStore V) : LogStore V :=
  { s with
    raw := insertOrReplace rawKey s.raw
      { peerNodeId := s.own
        ts := epochOf now
        payload := snap
        seq := some (nextSeq s.own s) } }

/-!
## Roll-ups
-/

/-- The average of a list that may be empty. -/
def avgOf (mean : List V -> V) (xs : List V) : Option V :=
  if xs = [] then none else some (mean xs)

/-- Last reading minus first, when there are two. -/
def deltaOf (xs : List Int) : Option Int :=
  match xs.head?, xs.getLast? with
  | some first, some last => if 2 <= xs.length then some (last - first) else none
  | _, _ => none

section Aggregates

variable [LinearOrder V] (mean : List V -> V)

/-- `_aggregate_snaps(snaps, window_start, window_end, bucket_size)`, as a row of `own`. -/
def aggregateSnaps (own : String) (snaps : List (Snapshot V))
    (windowStart windowEnd bucketSize : Int) : StatBucket V :=
  { peerNodeId := own
    windowStart := windowStart
    windowEnd := windowEnd
    bucketSize := bucketSize
    cpuAvg := avgOf mean (snaps.filterMap Snapshot.cpuPercent)
    cpuMax := (snaps.filterMap Snapshot.cpuPercent).max?
    memAvg := avgOf mean (snaps.filterMap Snapshot.memPercent)
    memMax := (snaps.filterMap Snapshot.memPercent).max?
    diskPctAvg := avgOf mean (snaps.filterMap Snapshot.diskPercent)
    netRxDelta := deltaOf (snaps.filterMap Snapshot.netRecvBytes)
    netTxDelta := deltaOf (snaps.filterMap Snapshot.netSentBytes)
    samples := snaps.length }

def sized (own : String) (size : Int) (rows : List (StatBucket V)) :
    List (StatBucket V) :=
  rows.filter (fun r => decide (r.peerNodeId = own ∧ r.bucketSize = size))

/-- `(ts // size) * size` -/
def windowOf (size ts : Int) : Int :=
  ts / size * size

/-- The raw rows `roll_up_5min` reads: from the last bucket on, whole windows only. -/
def rawRows (now : Instant) (s : LogStore V) : List (RawRow V) :=
  let nowEpoch := epochOf now
  let cutoff := nowEpoch - nowEpoch % BUCKET_5MIN_SECS
  let lowerBound :=
    (((sized s.own BUCKET_5MIN_SECS s.buckets).map StatBucket.windowEnd).max?).getD 0
  orderBy RawRow.ts (s.raw.filter (fun r =>
    decide (r.peerNodeId = s.own ∧ lowerBound <= r.ts ∧ r.ts < cutoff)))

/-- The buckets `roll_up_5min` builds, one for each window. -/
def fiveMinuteBuckets (now : Instant) (s : LogStore V) : List (StatBucket V) :=
  (Assoc.groupBy (fun r : RawRow V => windowOf BUCKET_5MIN_SECS r.ts)
    (rawRows now s)).map (fun window =>
      aggregateSnaps mean s.own (window.2.map RawRow.payload) window.1
        (window.1 + BUCKET_5MIN_SECS) BUCKET_5MIN_SECS)

/-- `roll_up_5min()`; it returns the number of rows created. -/
def rollUp5min (now : Instant) (s : LogStore V) : LogStore V × Nat :=
  let buckets := insertMany bucketKey s.buckets (fiveMinuteBuckets mean now s)
  ({ s with buckets := buckets }, buckets.length - s.buckets.length)

/-- The sum of the deltas that are there. -/
def sumOf (xs : List (Option Int)) : Int :=
  (xs.filterMap id).sum

/-- The row `roll_hourly` makes of the 5-minute rows of an hour. -/
def hourlyRow (own : String) (hourStart : Int) (subbuckets : List (StatBucket V)) :
    StatBucket V :=
  { peerNodeId := own
    windowStart := hourStart
    windowEnd := hourStart + BUCKET_1HOUR_SECS
    bucketSize := BUCKET_1HOUR_SECS
    cpuAvg := avgOf mean (subbuckets.filterMap StatBucket.cpuAvg)
    cpuMax := (subbuckets.filterMap StatBucket.cpuMax).max?
    memAvg := avgOf mean (subbuckets.filterMap StatBucket.memAvg)
    memMax := (subbuckets.filterMap StatBucket.memMax).max?
    diskPctAvg := avgOf mean (subbuckets.filterMap StatBucket.diskPctAvg)
    netRxDelta := some (sumOf (subbuckets.map StatBucket.netRxDelta))
    netTxDelta := some (sumOf (subbuckets.map StatBucket.netTxDelta))
    samples := (subbuckets.map StatBucket.samples).sum }

/-- The cutoffs of the roll-ups. -/
def hourlyCutoff (now : Instant) : Int :=
  epochOf (now - hours 24)

def dailyCutoff (now : Instant) : Int :=
  epochOf (now - days 7)

/-- The rows of one size that start at or before a cutoff, in window order. -/
def eligible (size cutoff : Int) (s : LogStore V) : List (StatBucket V) :=
  orderBy StatBucket.windowStart
    ((sized s.own size s.buckets).filter (fun r => decide (r.windowStart <= cutoff)))

def hourGroups (now : Instant) (s : LogStore V) : List (Int × List (StatBucket V)) :=
  Assoc.groupBy (fun r : StatBucket V => windowOf BUCKET_1HOUR_SECS r.windowStart)
    (eligible BUCKET_5MIN_SECS (hourlyCutoff now) s)

/-- The rows `roll_hourly` tries to insert; an hour without samples is skipped. -/
def hourlyRows (now : Instant) (s : LogStore V) : List (StatBucket V) :=
  (hourGroups now s).filterMap (fun hour =>
    if (hour.2.map StatBucket.samples).sum = 0 then none
    else some (hourlyRow mean s.own hour.1 hour.2))

/-- `roll_hourly()` -/
def rollHourly (now : Instant) (s : LogStore V) : LogStore V × Nat :=
  let buckets := insertMany bucketKey s.buckets (hourlyRows mean now s)
  ({ s with buckets := buckets }, buckets.length - s.buckets.length)

/-!
## Daily summaries

Dates are calendar days of the fixed offset `IST`.
-/

def IST_OFFSET : Int := 19800

def DAY_SECS : Int := 86400

def dateOf (ts : Int) : Int :=
  (ts + IST_OFFSET) / DAY_SECS

def dayStart (date : Int) : Int :=
  date * DAY_SECS - IST_OFFSET

def isIncident (e : EventRow) : Bool :=
  decide (e.event = EV_CONTAINER_EXITED ∨ e.event = EV_CONTAINER_UNHEALTHY)

/-- The default `limit` of `get_events`. -/
def EVENT_LIMIT : Nat := 1000

/--
The incident count of a date.  `readable` says that `get_events` can decode a row; a
row it cannot decode makes the whole day count as 0.
-/
def incidentCount (readable : EventRow -> Bool) (date : Int) (s : LogStore V) : Int :=
  let events := getEvents (dayStart date) (dayStart (date + 1)) EVENT_LIMIT s.own s
  if events.all readable then (events.countP isIncident : Int) else 0

def dayGroups (now : Instant) (s : LogStore V) : List (Int × List (StatBucket V)) :=
  Assoc.groupBy (fun r : StatBucket V => dateOf r.windowStart)
    (eligible BUCKET_1HOUR_SECS (dailyCutoff now) s)

def dailyRow (readable : EventRow -> Bool) (s : LogStore V) (date : Int)
    (buckets : List (StatBucket V)) : DailyRow V :=
  { peerNodeId := s.own
    date := date
    uptimePct := none
    avgCpu := avgOf mean (buckets.filterMap StatBucket.cpuAvg)
    avgMem := avgOf mean (buckets.filterMap StatBucket.memAvg)
    incidents := incidentCount readable date s }

/-- `roll_daily()` -/
def rollDaily (readable : EventRow -> Bool) (now : Instant) (s : LogStore V) :
    LogStore V × Nat :=
  let daily := insertMany dailyKey s.daily
    ((dayGroups now s).map (fun day => dailyRow mean readable s day.1 day.2))
  ({ s with daily := daily }, daily.length - s.daily.length)

end Aggregates

/-- `prune()`: the kept tables; the counts it returns are what they lost. -/
def prune (now : Instant) (s : LogStore V) : LogStore V × Nat × Nat :=
  let rawCutoff := epochOf (now - hours RAW_RETAIN_HOURS)
  let bucketCutoff := epochOf (now - days BUCKET_5MIN_RETAIN_DAYS)
  let raw := s.raw.filter (fun r => decide (¬ r.ts < rawCutoff))
  let buckets := s.buckets.filter (fun r =>
    decide (¬ (r.bucketSize = BUCKET_5MIN_SECS ∧ r.windowStart < bucketCutoff)))
  ({ s with raw := raw, buckets := buckets },
    s.raw.length - raw.length, s.buckets.length - buckets.length)

end Store
end PanicMonitr
