import PanicMonitr.Foundation.Calendar
import PanicMonitr.Store.Payload
import PanicMonitr.Wire.Responses

/-!
# What a node answers

The JSON of a sync payload, as the sync protocol sends it, and the snapshots the answering
node holds.
-/

namespace PanicMonitr
namespace Store

open Foundation
open Wire

variable {V : Type}

/-!
## Items
-/

/-- `IST` in microseconds. -/
def IST_MICROS : Int := IST_OFFSET * microsPerSecond

/-- `_from_epoch(ts).isoformat()`; `none` is its error. -/
def epochText (ts : Int) : Option String :=
  (fromtimestamp (ts * microsPerSecond) IST_MICROS).map isoformat

/--
How stored values are printed: a reading, an own event (`none` is an error of `get_events`),
and a gap in seconds.
-/
structure Printer (V : Type) where
  number : V -> Json
  event : EventRow -> Option Json
  seconds : Int -> List Char

def nullable {α : Type} (print : α -> Json) : Option α -> Json
  | none => Json.null
  | some x => print x

/-- `StatBucket.to_dict()` -/
def windowItem (pr : Printer V) (b : StatBucket V) : Option Json :=
  match epochText b.windowStart, epochText b.windowEnd with
  | some windowStart, some windowEnd =>
      some (Json.obj
        [("window_start", Json.str windowStart), ("window_end", Json.str windowEnd),
          ("bucket_size", Json.int b.bucketSize), ("cpu_avg", nullable pr.number b.cpuAvg),
          ("cpu_max", nullable pr.number b.cpuMax), ("mem_avg", nullable pr.number b.memAvg),
          ("mem_max", nullable pr.number b.memMax),
          ("disk_pct_avg", nullable pr.number b.diskPctAvg),
          ("net_rx_delta", nullable Json.int b.netRxDelta),
          ("net_tx_delta", nullable Json.int b.netTxDelta), ("samples", Json.int b.samples)])
  | _, _ => none

def dateColumn (date : Int) : String :=
  let ymd := ordinalToYmd (date + 719163).toNat
  String.ofList (padDigits 4 ymd.1 ++ '-' :: (padDigits 2 ymd.2.1 ++ '-' :: padDigits 2 ymd.2.2))

/-- An item of `_get_daily_summaries`. -/
def dayItem (pr : Printer V) (d : DailyRow V) : Json :=
  Json.obj
    [("date", Json.str (dateColumn d.date)), ("uptime_pct", nullable pr.number d.uptimePct),
      ("avg_cpu", nullable pr.number d.avgCpu), ("avg_mem", nullable pr.number d.avgMem),
      ("incidents", Json.int d.incidents)]

def bucketItem (pr : Printer V) : SyncBucket V -> Option Json
  | SyncBucket.window b => windowItem pr b
  | SyncBucket.day d => some (dayItem pr d)

def SyncStrategy.text : SyncStrategy -> String
  | raw => "raw"
  | fiveMinutes => "5min"
  | oneHour => "1hour"
  | daily => "daily"

/-!
## The answering node
-/

/--
A node with its store.  The payload column of its own raw rows is kept by second, as there
is one such row in a second.
-/
structure Node (V : Type) where
  store : LogStore V
  payloads : Int -> List (String × Json)

namespace Node

/-- `record_snapshot(snap)`; `read` takes the fields the roll-ups use out of the dict. -/
def record (read : Json -> Snapshot V) (snap : List (String × Json)) (now : Instant)
    (n : Node V) : Node V :=
  { store := recordSnapshot (read (Json.obj snap)) now n.store
    payloads := fun ts => if ts = epochOf now then snap else n.payloads ts }

def withPayload (n : Node V) (r : RawRow V) : RawRow V × List (String × Json) :=
  (r, n.payloads r.ts)

/-- The own snapshots the node holds. -/
def held (n : Node V) : List (RawRow V × List (String × Json)) :=
  (n.store.raw.filter (fun r => decide (r.peerNodeId = n.store.own))).map n.withPayload

/-- `latest_snapshot()` -/
def latestSnapshot (n : Node V) : Option (List (String × Json)) :=
  ((orderBy (fun x => x.1.ts) n.held).getLast?).map Prod.snd

/-- `get_sync_payload` as the dict it returns. -/
def content (pr : Printer V) (n : Node V) (p : SyncPayload V) : Option SyncContent :=
  match fromtimestamp p.gapEnd IST_MICROS, p.events.mapM pr.event,
    p.buckets.mapM (bucketItem pr) with
  | some gapEnd, some events, some buckets =>
      some
        { gapStart := isoformat p.gapStart
          gapEnd := isoformat gapEnd
          gapSeconds := pr.seconds p.gap
          syncStrategy := p.syncStrategy.text
          events := events
          buckets := buckets
          rawSnapshots := p.rawSnapshots.map (fun r => Json.obj (n.withPayload r).2) }
  | _, _, _ => none

def syncHost (pr : Printer V) (now : Instant) (n : Node V) : SyncHost where
  content lastSeen := (getSyncPayload now lastSeen n.store).bind (n.content pr)
  dailySummaries lastSeen :=
    (getDailySummaries (localDate lastSeen) n.store).map (dayItem pr)

/-- The payload that is sent, if it is not replaced by the fallback. -/
def sent (pr : Printer V) (now : Instant) (lastSeen : Datetime) (n : Node V) :
    Option (SyncPayload V) :=
  (getSyncPayload now lastSeen n.store).bind (fun p =>
    (n.content pr p).bind (fun content =>
      if SYNC_RESPONSE_MAX < (encodeUtf8 content.json.dumps).length then none else some p))

end Node

/-- The request of `sync_peer`. -/
def syncRequest (cursor : Datetime) : Json :=
  Json.obj [("last_seen_timestamp", Json.str (isoformat cursor))]

theorem mem_held {n : Node V} {x : RawRow V × List (String × Json)} :
    x ∈ n.held <-> x.1 ∈ n.store.raw ∧ x.1.peerNodeId = n.store.own ∧ x.2 = n.payloads x.1.ts := by
  unfold Node.held
  simp only [List.mem_map, List.mem_filter, decide_eq_true_iff]
  constructor
  · intro h
    rcases h with ⟨r, ⟨hr, hown⟩, rfl⟩
    exact ⟨hr, hown, rfl⟩
  · intro h
    rcases h with ⟨hr, hown, hpayload⟩
    exact ⟨x.1, ⟨hr, hown⟩, by rw [Node.withPayload, ← hpayload]⟩

theorem mem_held_record {read : Json -> Snapshot V} {snap : List (String × Json)}
    {now : Instant} {n : Node V} {x : RawRow V × List (String × Json)}
    (h : x ∈ (n.record read snap now).held) : x ∈ n.held ∨ x.1.ts = epochOf now := by
  rcases mem_held.mp h with ⟨hr, hown, hpayload⟩
  have hown' : x.1.peerNodeId = n.store.own := hown
  by_cases hts : x.1.ts = epochOf now
  · exact Or.inr hts
  · refine Or.inl (mem_held.mpr ⟨?_, hown', ?_⟩)
    · have hrow : x.1 ∈ insertOrReplace rawKey n.store.raw _ := hr
      unfold insertOrReplace at hrow
      rcases List.mem_append.mp hrow with hold | hnew
      · exact List.mem_of_mem_filter hold
      · rw [List.mem_singleton.mp hnew] at hts
        exact absurd rfl hts
    · rw [hpayload]
      exact if_neg hts

section Items

variable {pr : Printer V} {n : Node V}

theorem mem_mapM {α β : Type} {f : α -> Option β} {xs : List α} {ys : List β}
    (h : xs.mapM f = some ys) :
    (forall y, y ∈ ys -> exists x, x ∈ xs ∧ f x = some y) ∧
      forall x, x ∈ xs -> exists y, y ∈ ys ∧ f x = some y := by
  induction xs generalizing ys with
  | nil =>
      rw [List.mapM_nil] at h
      cases h
      constructor
      · intro y hy
        cases hy
      · intro x hx
        cases hx
  | cons x xs ih =>
      rw [List.mapM_cons] at h
      cases hx : f x with
      | none =>
          rw [hx] at h
          cases h
      | some y =>
          cases hxs : xs.mapM f with
          | none =>
              rw [hx, hxs] at h
              cases h
          | some rest =>
              rw [hx, hxs] at h
              cases h
              rcases ih hxs with ⟨hitems, hsources⟩
              constructor
              · intro z hz
                rcases List.mem_cons.mp hz with rfl | hz
                · exact ⟨x, List.mem_cons_self, hx⟩
                · rcases hitems z hz with ⟨w, hw, hwz⟩
                  exact ⟨w, List.mem_cons_of_mem x hw, hwz⟩
              · intro w hw
                rcases List.mem_cons.mp hw with rfl | hw
                · exact ⟨y, List.mem_cons_self, hx⟩
                · rcases hsources w hw with ⟨z, hz, hwz⟩
                  exact ⟨z, List.mem_cons_of_mem y hz, hwz⟩

theorem content_fields {p : SyncPayload V} {content : SyncContent}
    (h : n.content pr p = some content) :
    content.rawSnapshots = p.rawSnapshots.map (fun r => Json.obj (n.withPayload r).2) ∧
      p.buckets.mapM (bucketItem pr) = some content.buckets := by
  unfold Node.content at h
  split at h
  · rename_i hbuckets
    cases h
    exact ⟨rfl, hbuckets⟩
  · cases h

theorem syncResponse_cases {now : Instant} {cursor : Datetime} {json : Json}
    (h : syncResponse (n.syncHost pr now) (syncRequest cursor) = some json) :
    exists p content, getSyncPayload now cursor n.store = some p ∧
      n.content pr p = some content ∧
        ((json = content.json ∧ n.sent pr now cursor = some p) ∨
          json = (content.fallback ((n.syncHost pr now).dailySummaries cursor)).json ∧
            n.sent pr now cursor = none) := by
  have hfield : field? "last_seen_timestamp" (syncRequest cursor) =
      some (some (Json.str (isoformat cursor))) := rfl
  unfold syncResponse syncOutcome at h
  rw [hfield] at h
  simp only [if_neg (isoformat_ne_empty cursor), fromisoformat_isoformat, Option.bind_some,
    Option.map_map] at h
  unfold Node.sent
  cases hpayload : getSyncPayload now cursor n.store with
  | none =>
      simp only [Node.syncHost, hpayload, Option.bind_none, Option.map_none] at h
      cases h
  | some p =>
      cases hcontent : n.content pr p with
      | none =>
          simp only [Node.syncHost, hpayload, hcontent, Option.bind_some, Option.map_none] at h
          cases h
      | some content =>
          simp only [Node.syncHost, hpayload, hcontent, Option.bind_some, Option.map_some,
            Function.comp] at h
          refine ⟨p, content, rfl, hcontent, ?_⟩
          simp only [Option.bind_some, hcontent]
          split at h
          · rename_i hlong
            cases h
            rw [if_pos hlong]
            exact Or.inr ⟨rfl, rfl⟩
          · rename_i hshort
            cases h
            rw [if_neg hshort]
            exact Or.inl ⟨rfl, rfl⟩

theorem syncResponse_short {now : Instant} {cursor : Datetime} {p : SyncPayload V}
    {content : SyncContent} (hp : getSyncPayload now cursor n.store = some p)
    (hcontent : n.content pr p = some content)
    (hshort : ¬ SYNC_RESPONSE_MAX < (encodeUtf8 content.json.dumps).length) :
    n.sent pr now cursor = some p ∧
      syncResponse (n.syncHost pr now) (syncRequest cursor) = some content.json := by
  have hfield : field? "last_seen_timestamp" (syncRequest cursor) =
      some (some (Json.str (isoformat cursor))) := rfl
  have hhost : (n.syncHost pr now).content cursor = some content := by
    unfold Node.syncHost
    simp only [hp, Option.bind_some, hcontent]
  constructor
  · unfold Node.sent
    simp only [hp, Option.bind_some, hcontent, if_neg hshort]
  · unfold syncResponse syncOutcome
    rw [hfield]
    simp only [if_neg (isoformat_ne_empty cursor), fromisoformat_isoformat, Option.bind_some,
      hhost, Option.map_some, if_neg hshort]

end Items

end Store
end PanicMonitr
