import PanicMonitr.Foundation.Datetime
import PanicMonitr.Foundation.JsonDumps
import PanicMonitr.Wire.Framing

/-!
# Responses and the caps of their readers

The handlers of the logs, status and sync protocols from the parsed request to the frame
they send, and the size the matching client reads with.  The container engine and the
log store are known by what they answer.
-/

namespace PanicMonitr
namespace Wire

open Foundation

def MAX_LOG_BYTES : Nat := 2000000
/-- The cap of `fetch_peer_container_logs`. -/
def LOGS_RESPONSE_MAX : Nat := 4 * 1024 * 1024
def STATUS_RESPONSE_MAX : Nat := 2 * 1024 * 1024
def SYNC_RESPONSE_MAX : Nat := 32 * 1024 * 1024

/-- What `int(value)` does. -/
inductive PyInt where
  | value (n : Int)
  | typeOrValueError
  | overflowError

/-- A field of the request; `none` is the error of a request that is no object. -/
def field? (key : String) : Json -> Option (Option Json)
  | Json.obj fields => some (Assoc.get? key fields)
  | _ => none

/-!
## Container logs
-/

def isRefChar (c : Char) : Bool :=
  c.isAlphanum || c = '.' || c = '_' || c = '-'

/-- `_CONTAINER_REF_RE.match(cid)`; `$` also matches before a newline at the end. -/
def isContainerRef (cid : List Char) : Bool :=
  let body := if cid.getLast? = some '\n' then cid.dropLast else cid
  1 <= body.length && body.length <= 128 && body.all isRefChar

/--
`docker` stands for `containers.get(cid)` and `logs(tail=tail)`, decoded, or for the text
of what they raise; there may be no client.
-/
structure LogsHost where
  toInt : Json -> PyInt
  docker : Option (String -> Int -> Except String (List Char))

/-- How far the handler gets. -/
inductive LogsOutcome where
  | failed
  | refused (message : String)
  | fetched (answer : Except String (List Char))

/-- `max(1, min(int(req.get("tail", 20)), 200))`, 20 if that is no number. -/
def tailOf (host : LogsHost) (requested : Option Json) : Option Int :=
  match requested with
  | none => some 20
  | some v =>
      match host.toInt v with
      | PyInt.value n => some (max 1 (min n 200))
      | PyInt.typeOrValueError => some 20
      | PyInt.overflowError => none

def logsOutcome (host : LogsHost) (req : Json) : LogsOutcome :=
  match field? "cid" req, field? "tail" req with
  | some (some (Json.str cid)), some tail =>
      if isContainerRef cid.toList then
        match tailOf host tail, host.docker with
        | none, _ => LogsOutcome.failed
        | some _, none => LogsOutcome.refused "docker unavailable"
        | some tail, some docker => LogsOutcome.fetched (docker cid tail)
      else LogsOutcome.refused "invalid container id"
  | some _, some _ => LogsOutcome.refused "invalid container id"
  | _, _ => LogsOutcome.failed

/-- `logs[-_MAX_LOG_BYTES:]`, by characters. -/
def truncate (logs : List Char) : List Char :=
  logs.drop (logs.length - MAX_LOG_BYTES)

def errorJson (message : String) : Json :=
  Json.obj [("error", Json.str message)]

def logsJson (logs : List Char) : Json :=
  Json.obj [("logs", Json.str (String.ofList (truncate logs)))]

def logsResponse (host : LogsHost) (req : Json) : Option Json :=
  match logsOutcome host req with
  | LogsOutcome.failed => none
  | LogsOutcome.refused message => some (errorJson message)
  | LogsOutcome.fetched (Except.error message) => some (errorJson message)
  | LogsOutcome.fetched (Except.ok logs) => some (logsJson logs)

/-!
## Status
-/

/-- What `get_own_stats()` and `get_delta_since_seq(since_seq)` return. -/
structure StatusContent where
  ownStats : Json
  latestSeq : Int
  entries : List Json

/-- `content` is asked with the cursor; `none` is a query that raises. -/
structure StatusHost where
  toInt : Json -> PyInt
  content : Int -> Option StatusContent

def StatusContent.json (content : StatusContent) : Json :=
  Json.obj [("own_stats", content.ownStats), ("latest_seq", Json.int content.latestSeq),
    ("entries", Json.arr content.entries)]

/-- The handler up to the answer of the store. -/
def statusOutcome (host : StatusHost) (req : Json) : Option StatusContent :=
  match field? "since_seq" req with
  | none => none
  | some none => host.content 0
  | some (some v) =>
      match host.toInt v with
      | PyInt.value n => host.content n
      | _ => none

def statusResponse (host : StatusHost) (req : Json) : Option Json :=
  (statusOutcome host req).map StatusContent.json

/-!
## Sync
-/

/-- What `get_sync_payload(last_seen)` returns; `gapSeconds` is the text of a float. -/
structure SyncContent where
  gapStart : String
  gapEnd : String
  gapSeconds : List Char
  syncStrategy : String
  events : List Json
  buckets : List Json
  rawSnapshots : List Json

/-- `none` is a payload query that raises, as it does for a naive time. -/
structure SyncHost where
  content : Datetime -> Option SyncContent
  dailySummaries : Datetime -> List Json

def SyncContent.json (content : SyncContent) : Json :=
  Json.obj [("gap_start", Json.str content.gapStart), ("gap_end", Json.str content.gapEnd),
    ("gap_seconds", Json.float content.gapSeconds),
    ("sync_strategy", Json.str content.syncStrategy), ("events", Json.arr content.events),
    ("buckets", Json.arr content.buckets),
    ("raw_snapshots", Json.arr content.rawSnapshots)]

/-- The payload of the fallback. -/
def SyncContent.fallback (content : SyncContent) (daily : List Json) : SyncContent :=
  { content with
    rawSnapshots := []
    buckets := daily
    syncStrategy := "daily_fallback" }

/-- The handler up to the answer of the store; an empty time closes the connection. -/
def syncOutcome (host : SyncHost) (req : Json) : Option (Datetime × SyncContent) :=
  match field? "last_seen_timestamp" req with
  | some (some (Json.str raw)) =>
      if raw = "" then none
      else
        (fromisoformat raw).bind (fun lastSeen =>
          (host.content lastSeen).map (fun content => (lastSeen, content)))
  | _ => none

def syncResponse (host : SyncHost) (req : Json) : Option Json :=
  (syncOutcome host req).map (fun answer =>
    let json := answer.2.json
    if SYNC_RESPONSE_MAX < (encodeUtf8 json.dumps).length then
      (answer.2.fallback (host.dailySummaries answer.1)).json
    else json)

/-!
## Exchanges
-/

inductive Exchange where
  | logs (host : LogsHost) (req : Json)
  | status (host : StatusHost) (req : Json)
  | sync (host : SyncHost) (req : Json)

namespace Exchange

def response : Exchange -> Option Json
  | logs host req => logsResponse host req
  | status host req => statusResponse host req
  | sync host req => syncResponse host req

/-- The size the client calls `_read_framed` with. -/
def maxSize : Exchange -> Nat
  | logs _ _ => LOGS_RESPONSE_MAX
  | status _ _ => STATUS_RESPONSE_MAX
  | sync _ _ => SYNC_RESPONSE_MAX

/-- `json.dumps(response).encode("utf-8")` -/
def payload (x : Exchange) : Option (List UInt8) :=
  x.response.map (fun json => encodeUtf8 json.dumps)

def Accepted (x : Exchange) : Prop :=
  forall payload framed, x.payload = some payload -> writeFramed payload = some framed ->
    readFramed x.maxSize framed = Except.ok (payload, [])

end Exchange

/-- A payload of this size is read, or is too long to be framed at all. -/
def Fits (max size : Nat) : Prop :=
  size <= max ∨ 2 ^ 32 <= size

/-!
## What the content may weigh
-/

def itemsWeight (items : List Json) : Nat :=
  2 + Json.itemsSize items

/-- The text as it is truncated, or the message, with the marks around it. -/
def LogsOutcome.weight : LogsOutcome -> Nat
  | failed => 0
  | refused message => 13 + Json.textCost message.toList
  | fetched (Except.error message) => 13 + Json.textCost message.toList
  | fetched (Except.ok logs) => 12 + Json.textCost (truncate logs)

def StatusContent.weight (content : StatusContent) : Nat :=
  44 + content.ownStats.size + (Json.int content.latestSeq).size + itemsWeight content.entries

def SyncContent.weight (content : SyncContent) : Nat :=
  114 + Json.textCost content.gapStart.toList + Json.textCost content.gapEnd.toList +
    (encodeUtf8 content.gapSeconds).length + Json.textCost content.syncStrategy.toList +
    itemsWeight content.events + itemsWeight content.buckets +
    itemsWeight content.rawSnapshots

/-- The content of the answer is small enough; a sync may also fall back. -/
def Exchange.Small : Exchange -> Prop
  | logs host req => Fits LOGS_RESPONSE_MAX (logsOutcome host req).weight
  | status host req =>
      forall content, statusOutcome host req = some content ->
        Fits STATUS_RESPONSE_MAX content.weight
  | sync host req =>
      forall lastSeen content, syncOutcome host req = some (lastSeen, content) ->
        content.weight <= SYNC_RESPONSE_MAX ∨
          Fits SYNC_RESPONSE_MAX (content.fallback (host.dailySummaries lastSeen)).weight

theorem size_errorJson (message : String) :
    (errorJson message).size = 13 + Json.textCost message.toList := by
  have hkey : Json.textCost "error".toList = 5 := by decide
  unfold errorJson
  simp only [Json.size, Json.fieldsSize, hkey]
  omega

theorem size_logsJson (logs : List Char) :
    (logsJson logs).size = 12 + Json.textCost (truncate logs) := by
  have hkey : Json.textCost "logs".toList = 4 := by decide
  unfold logsJson
  simp only [Json.size, Json.fieldsSize, hkey, String.toList_ofList]
  omega

theorem StatusContent.size_json (content : StatusContent) :
    content.json.size = content.weight := by
  have hown : Json.textCost "own_stats".toList = 9 := by decide
  have hseq : Json.textCost "latest_seq".toList = 10 := by decide
  have hentries : Json.textCost "entries".toList = 7 := by decide
  unfold StatusContent.json StatusContent.weight itemsWeight
  simp only [Json.size, Json.fieldsSize, hown, hseq, hentries]
  omega

theorem SyncContent.size_json (content : SyncContent) :
    content.json.size = content.weight := by
  have hstart : Json.textCost "gap_start".toList = 9 := by decide
  have hend : Json.textCost "gap_end".toList = 7 := by decide
  have hseconds : Json.textCost "gap_seconds".toList = 11 := by decide
  have hstrategy : Json.textCost "sync_strategy".toList = 13 := by decide
  have hevents : Json.textCost "events".toList = 6 := by decide
  have hbuckets : Json.textCost "buckets".toList = 7 := by decide
  have hraw : Json.textCost "raw_snapshots".toList = 13 := by decide
  unfold SyncContent.json SyncContent.weight itemsWeight
  simp only [Json.size, Json.fieldsSize, hstart, hend, hseconds, hstrategy, hevents, hbuckets,
    hraw]
  omega

/-!
## Main result
-/

namespace Exchange

/-- A response is accepted if its size is under the cap, or if it cannot be framed. -/
theorem accepted_iff {x : Exchange} {json : Json} (h : x.response = some json) :
    x.Accepted <-> Fits x.maxSize json.size := by
  have hpayload : x.payload = some (encodeUtf8 json.dumps) := by
    rw [payload, h, Option.map_some]
  have hlength := Json.length_dumps json
  constructor
  · intro haccepted
    by_cases hlarge : 2 ^ 32 <= json.size
    · exact Or.inr hlarge
    · have hframed : exists framed, writeFramed (encodeUtf8 json.dumps) = some framed := by
        unfold writeFramed packLength
        rw [if_pos (by omega)]
        exact ⟨_, rfl⟩
      rcases hframed with ⟨framed, hframed⟩
      have hread := haccepted _ framed hpayload hframed
      have hback := readFramed_writeFramed x.maxSize hframed []
      rw [List.append_nil, hread, hlength] at hback
      split at hback
      · rename_i hfits
        exact Or.inl hfits
      · cases hback
  · intro hfits payload framed hsent hframed
    rw [hpayload] at hsent
    cases hsent
    have hback := readFramed_writeFramed x.maxSize hframed []
    rw [List.append_nil, hlength] at hback
    rcases hfits with hfits | hlarge
    · rw [hback, if_pos hfits]
    · unfold writeFramed packLength at hframed
      rw [if_neg (by omega)] at hframed
      cases hframed

theorem accepted_of_none {x : Exchange} (h : x.response = none) : x.Accepted := by
  intro payload framed hpayload
  rw [Exchange.payload, h] at hpayload
  cases hpayload

end Exchange

theorem logs_accepted_iff (host : LogsHost) (req : Json) :
    (Exchange.logs host req).Accepted <->
      Fits LOGS_RESPONSE_MAX (logsOutcome host req).weight := by
  cases houtcome : logsOutcome host req with
  | failed =>
      have hnone : logsResponse host req = none := by
        rw [logsResponse, houtcome]
      exact iff_of_true (Exchange.accepted_of_none hnone) (Or.inl (Nat.zero_le _))
  | refused message =>
      have hsome : logsResponse host req = some (errorJson message) := by
        rw [logsResponse, houtcome]
      rw [Exchange.accepted_iff (x := Exchange.logs host req) hsome, size_errorJson]
      rfl
  | fetched answer =>
      cases answer with
      | error message =>
          have hsome : logsResponse host req = some (errorJson message) := by
            rw [logsResponse, houtcome]
          rw [Exchange.accepted_iff (x := Exchange.logs host req) hsome, size_errorJson]
          rfl
      | ok logs =>
          have hsome : logsResponse host req = some (logsJson logs) := by
            rw [logsResponse, houtcome]
          rw [Exchange.accepted_iff (x := Exchange.logs host req) hsome, size_logsJson]
          rfl

theorem status_accepted_iff (host : StatusHost) (req : Json) :
    (Exchange.status host req).Accepted <->
      forall content, statusOutcome host req = some content ->
        Fits STATUS_RESPONSE_MAX content.weight := by
  cases houtcome : statusOutcome host req with
  | none =>
      have hnone : statusResponse host req = none := by
        rw [statusResponse, houtcome, Option.map_none]
      exact iff_of_true (Exchange.accepted_of_none hnone) (fun _ h => by cases h)
  | some content =>
      have hsome : statusResponse host req = some content.json := by
        rw [statusResponse, houtcome, Option.map_some]
      rw [Exchange.accepted_iff (x := Exchange.status host req) hsome, StatusContent.size_json]
      constructor
      · intro hfits other hother
        cases hother
        exact hfits
      · exact fun hall => hall content rfl

theorem sync_accepted_iff (host : SyncHost) (req : Json) :
    (Exchange.sync host req).Accepted <->
      forall lastSeen content, syncOutcome host req = some (lastSeen, content) ->
        content.weight <= SYNC_RESPONSE_MAX ∨
          Fits SYNC_RESPONSE_MAX
            (content.fallback (host.dailySummaries lastSeen)).weight := by
  cases houtcome : syncOutcome host req with
  | none =>
      have hnone : syncResponse host req = none := by
        rw [syncResponse, houtcome, Option.map_none]
      exact iff_of_true (Exchange.accepted_of_none hnone) (fun _ _ h => by cases h)
  | some answer =>
      rcases answer with ⟨lastSeen, content⟩
      have hlength : (encodeUtf8 content.json.dumps).length = content.weight := by
        rw [Json.length_dumps, SyncContent.size_json]
      have hexact : (Exchange.sync host req).Accepted <->
          content.weight <= SYNC_RESPONSE_MAX ∨ Fits SYNC_RESPONSE_MAX
            (content.fallback (host.dailySummaries lastSeen)).weight := by
        by_cases hsmall : content.weight <= SYNC_RESPONSE_MAX
        · have hsome : syncResponse host req = some content.json := by
            rw [syncResponse, houtcome, Option.map_some]
            simp only [hlength]
            rw [if_neg (Nat.not_lt.mpr hsmall)]
          rw [Exchange.accepted_iff (x := Exchange.sync host req) hsome, SyncContent.size_json]
          exact iff_of_true (Or.inl hsmall) (Or.inl hsmall)
        · have hsome : syncResponse host req =
              some (content.fallback (host.dailySummaries lastSeen)).json := by
            rw [syncResponse, houtcome, Option.map_some]
            simp only [hlength]
            rw [if_pos (Nat.lt_of_not_le hsmall)]
          rw [Exchange.accepted_iff (x := Exchange.sync host req) hsome, SyncContent.size_json]
          exact (or_iff_right hsmall).symm
      rw [hexact]
      constructor
      · intro hfits other other' hother
        cases hother
        exact hfits
      · exact fun hall => hall lastSeen content rfl

/-- Which responses their clients accept, of all three protocols. -/
theorem response_accepted_iff (x : Exchange) : x.Accepted <-> x.Small := by
  cases x with
  | logs host req => exact logs_accepted_iff host req
  | status host req => exact status_accepted_iff host req
  | sync host req => exact sync_accepted_iff host req

/-- Characters that take at most two bytes are the ones the truncation suffices for. -/
theorem logs_accepted_of_cheap {host : LogsHost} {req : Json} {logs : List Char}
    (houtcome : logsOutcome host req = LogsOutcome.fetched (Except.ok logs))
    (hcheap : forall c, c ∈ logs -> Json.charCost c <= 2) :
    (Exchange.logs host req).Accepted := by
  rw [logs_accepted_iff, houtcome]
  refine Or.inl ?_
  have hlength : (truncate logs).length <= MAX_LOG_BYTES := by
    unfold truncate
    rw [List.length_drop]
    omega
  have hcost : Json.textCost (truncate logs) <= 2 * (truncate logs).length := by
    apply Json.textCost_le
    exact fun c hc => hcheap c (List.mem_of_mem_drop hc)
  show 12 + Json.textCost (truncate logs) <= LOGS_RESPONSE_MAX
  unfold LOGS_RESPONSE_MAX
  unfold MAX_LOG_BYTES at hlength
  omega

def printing (logs : List Char) : LogsHost where
  toInt := fun _ => PyInt.typeOrValueError
  docker := some (fun _ _ => Except.ok logs)

/-- A text the handler does not truncate may still be too long when it is escaped. -/
theorem nul_logs_refused {n : Nat} (hshort : n <= MAX_LOG_BYTES)
    (hlong : LOGS_RESPONSE_MAX < 12 + n * 6) :
    ¬ (Exchange.logs (printing (List.replicate n '\x00'))
      (Json.obj [("cid", Json.str "web")])).Accepted := by
  have houtcome : logsOutcome (printing (List.replicate n '\x00'))
      (Json.obj [("cid", Json.str "web")]) =
        LogsOutcome.fetched (Except.ok (List.replicate n '\x00')) := rfl
  have hwhole : truncate (List.replicate n '\x00') = List.replicate n '\x00' := by
    unfold truncate
    rw [List.length_replicate, Nat.sub_eq_zero_of_le hshort, List.drop_zero]
  have hcost : Json.charCost '\x00' = 6 := by decide
  rw [logs_accepted_iff, houtcome, LogsOutcome.weight, hwhole, Json.textCost_replicate, hcost]
  intro hfits
  unfold MAX_LOG_BYTES at hshort
  rcases hfits with hfits | hlarge
  · omega
  · omega

/-- 700 000 NUL characters are under the cap of the handler and over that of the client. -/
theorem response_refused : ¬ forall x : Exchange, x.Accepted := by
  intro hclaim
  have hshort : 700000 <= MAX_LOG_BYTES := by decide
  have hlong : LOGS_RESPONSE_MAX < 12 + 700000 * 6 := by decide
  exact nul_logs_refused hshort hlong (hclaim _)

end Wire
end PanicMonitr
