import PanicMonitr.Store.Jobs

/-!
# The sync payload

What a node sends to a peer that was away: events, and the tier of the store that fits
the length of the gap.
-/

namespace PanicMonitr
namespace Store

open Foundation

variable {V : Type}

/-!
## Queries

The default upper bounds of `get_events` and `get_raw_snapshots`, then the four queries
a payload is made of, all of them about the own node.
-/

def EVENTS_UNTIL : Int := 9999999999999

def RAW_UNTIL : Int := 9999999999

/-- The own events `get_events(since_ts)` selects, before the limit. -/
def eventsSince (since : Int) (s : LogStore V) : List EventRow :=
  s.events.filter (fun e =>
    decide (e.peerNodeId = s.own ∧ since * 1000 <= e.ts ∧ e.ts <= EVENTS_UNTIL))

/-- `get_events(since_ts)` -/
def getEventsSince (since : Int) (s : LogStore V) : List EventRow :=
  (orderBy EventRow.ts (eventsSince since s)).take EVENT_LIMIT

/-- `get_raw_snapshots(since_ts)`; a row stands for its payload. -/
def getRawSnapshots (since : Int) (s : LogStore V) : List (RawRow V) :=
  orderBy RawRow.ts (s.raw.filter (fun r =>
    decide (r.peerNodeId = s.own ∧ since <= r.ts ∧ r.ts <= RAW_UNTIL)))

/-- `_get_buckets(since_ts, bucket_size)` -/
def getBuckets (since size : Int) (s : LogStore V) : List (StatBucket V) :=
  orderBy StatBucket.windowStart
    ((sized s.own size s.buckets).filter (fun r => decide (since <= r.windowStart)))

/-- `_get_daily_summaries(since_ts)`: from the year 1000 on, dates compare as their texts do. -/
def getDailySummaries (sinceDate : Int) (s : LogStore V) : List (DailyRow V) :=
  orderBy DailyRow.date (s.daily.filter (fun r =>
    decide (r.peerNodeId = s.own ∧ sinceDate <= r.date)))

section Specs

variable {s : LogStore V} {since : Int}

theorem mem_getEventsSince {e : EventRow} :
    e ∈ getEventsSince since s <->
      e ∈ eventsSince since s ∧ rowsBefore EventRow.ts e (eventsSince since s) < EVENT_LIMIT :=
  mem_take_orderBy

theorem mem_getRawSnapshots {r : RawRow V} :
    r ∈ getRawSnapshots since s <->
      r ∈ s.raw ∧ r.peerNodeId = s.own ∧ since <= r.ts ∧ r.ts <= RAW_UNTIL := by
  rw [getRawSnapshots, mem_orderBy, List.mem_filter, decide_eq_true_iff]

theorem mem_getBuckets {size : Int} {r : StatBucket V} :
    r ∈ getBuckets since size s <-> r ∈ sized s.own size s.buckets ∧ since <= r.windowStart := by
  rw [getBuckets, mem_orderBy, List.mem_filter, decide_eq_true_iff]

theorem mem_getDailySummaries {r : DailyRow V} :
    r ∈ getDailySummaries since s <->
      r ∈ s.daily ∧ r.peerNodeId = s.own ∧ since <= r.date := by
  rw [getDailySummaries, mem_orderBy, List.mem_filter, decide_eq_true_iff]

end Specs

/-!
## The payload
-/

/-- `"raw"`, `"5min"`, `"1hour"`, `"daily"` -/
inductive SyncStrategy where
  | raw
  | fiveMinutes
  | oneHour
  | daily
  deriving DecidableEq

/-- The decision tree of the gap. -/
def strategyFor (gap : Int) : SyncStrategy :=
  if gap < hours 1 then SyncStrategy.raw
  else if gap < hours 24 then SyncStrategy.fiveMinutes
  else if gap < days 7 then SyncStrategy.oneHour
  else SyncStrategy.daily

/-- An item of `buckets`: a row of `stat_buckets`, or a daily summary. -/
inductive SyncBucket (V : Type) where
  | window (row : StatBucket V)
  | day (row : DailyRow V)

structure SyncPayload (V : Type) where
  gapStart : Datetime
  gapEnd : Instant
  gap : Int
  syncStrategy : SyncStrategy
  events : List EventRow
  buckets : List (SyncBucket V)
  rawSnapshots : List (RawRow V)

/-- `since_ts.strftime("%Y-%m-%d")`, the date on the clock of the value itself. -/
def localDate (d : Datetime) : Int :=
  d.localMicros / (DAY_SECS * microsPerSecond)

/-- `get_sync_payload` for an aware time at the instant `since`. -/
def syncPayload (now : Instant) (lastSeen : Datetime) (since : Instant) (s : LogStore V) :
    SyncPayload V :=
  let events := getEventsSince (epochOf since) s
  let payload (buckets : List (SyncBucket V)) (raw : List (RawRow V)) : SyncPayload V :=
    { gapStart := lastSeen
      gapEnd := now
      gap := now - since
      syncStrategy := strategyFor (now - since)
      events := events
      buckets := buckets
      rawSnapshots := raw }
  match strategyFor (now - since) with
  | SyncStrategy.raw =>
      payload [] (getRawSnapshots (epochOf since) s)
  | SyncStrategy.fiveMinutes =>
      payload
        ((getBuckets (epochOf since) BUCKET_5MIN_SECS s).map SyncBucket.window)
        (getRawSnapshots (epochOf (now - 30 * 60 * microsPerSecond)) s)
  | SyncStrategy.oneHour =>
      payload ((getBuckets (epochOf since) BUCKET_1HOUR_SECS s).map SyncBucket.window) []
  | SyncStrategy.daily =>
      payload ((getDailySummaries (localDate lastSeen) s).map SyncBucket.day) []

/--
`get_sync_payload(last_seen_ts)`; `none` is the `TypeError` of the subtraction when the
argument is naive.
-/
def getSyncPayload (now : Instant) (lastSeen : Datetime) (s : LogStore V) :
    Option (SyncPayload V) :=
  lastSeen.instant?.map (fun since => syncPayload now lastSeen since s)

/-!
## What a payload represents
-/

/-- An instant lies in the window, or on the date, of an item. -/
def SyncBucket.Contains (t : Instant) : SyncBucket V -> Prop
  | window row =>
      row.windowStart * microsPerSecond <= t ∧ t < row.windowEnd * microsPerSecond
  | day row =>
      dayStart row.date * microsPerSecond <= t ∧ t < dayStart (row.date + 1) * microsPerSecond

/-- A snapshot is in the payload itself, or one of the items contains its time. -/
def SyncPayload.Represents (p : SyncPayload V) (x : Instant × Snapshot V) : Prop :=
  (exists r, r ∈ p.rawSnapshots ∧ r.ts = epochOf x.1 ∧ r.payload = x.2) ∨
    exists b, b ∈ p.buckets ∧ b.Contains x.1

end Store
end PanicMonitr
