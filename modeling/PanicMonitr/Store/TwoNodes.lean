import PanicMonitr.Store.MergeAnswers
import PanicMonitr.Store.PeerTimes

/-!
# Filling the gap of a peer

Two nodes: a peer that records and keeps its snapshots, and the local node that pulls its
live statistics and syncs with it from the newest time stored about it.  Answers travel for
any time, may be lost, and calls may overlap.
-/

namespace PanicMonitr
namespace Store

open Foundation
open Trust
open Wire

variable {V : Type}

/-!
## The nodes
-/

/-- A call in flight: a sync that is asked, or answered by the peer as it was then; a pull. -/
inductive Flight (V : Type) where
  | asked (cursor : Datetime)
  | answered (cursor : Datetime) (now : Instant) (node : Node V)
      (payload : List (String × Json))
  | stats (ownStats : List (String × Json))

/-- `finished` is what the peer held when it answered the sync that has just been merged. -/
structure TwoNodes (V : Type) where
  remote : Node V
  peers : PeerStore
  flights : List (Flight V)
  finished : Option (List (RawRow V × List (String × Json)))

inductive NodeEvent where
  | record (snap : List (String × Json)) (now : Instant)
  | rollUp5min (now : Instant)
  | rollHourly (now : Instant)
  | rollDaily (now : Instant)
  | prune (now : Instant)
  | askSync
  | answerSync (i : Nat) (now : Instant)
  | finishSync (i : Nat)
  | answerStats
  | finishStats (i : Nat) (now : Datetime)
  | lose (i : Nat)
  | retain (now : Instant)

/-- The peer's id, and what the nodes compute with. -/
structure Setting (V : Type) where
  rt : Runtime
  peerNodeId : String
  printer : Printer V
  read : Json -> Snapshot V
  mean : List V -> V
  readable : EventRow -> Bool

/-- `prune()` on the rows about peers. -/
def retainPeers (now : Instant) (s : PeerStore) : PeerStore :=
  let rawCutoff := epochOf (now - hours RAW_RETAIN_HOURS)
  let bucketCutoff := epochOf (now - days BUCKET_5MIN_RETAIN_DAYS)
  { s with
    snapshots := s.snapshots.filter (fun r => decide (¬ r.ts < rawCutoff))
    buckets := s.buckets.filter (fun r =>
      match r.bucketSize with
      | Json.int n => decide (¬ (n = BUCKET_5MIN_SECS ∧ r.windowStart < bucketCutoff))
      | _ => true) }

namespace TwoNodes

def work (s : TwoNodes V) (store : LogStore V) : TwoNodes V :=
  { s with remote := { s.remote with store := store }, finished := none }

def fly (s : TwoNodes V) (flights : List (Flight V)) : TwoNodes V :=
  { s with flights := flights, finished := none }

def answerStats (s : TwoNodes V) : TwoNodes V :=
  match s.remote.latestSnapshot with
  | none => s.fly s.flights
  | some ownStats => s.fly (s.flights ++ [Flight.stats ownStats])

end TwoNodes

namespace Setting

variable (c : Setting V)

/-- The cursor of `sync_peer`; `none` is an error of `last_seen_for_peer`. -/
def cursor (s : PeerStore) : Option Datetime :=
  match lastSeenForPeer c.rt c.peerNodeId s with
  | Except.error _ => none
  | Except.ok last => fromtimestamp (last.getD 0) IST_MICROS

def merge (payload : List (String × Json)) (s : PeerStore) :
    PeerStore × Except StoreError MergeResult :=
  mergeSyncPayload c.rt c.peerNodeId payload s

def askSync (s : TwoNodes V) : TwoNodes V :=
  match c.cursor s.peers with
  | none => s.fly s.flights
  | some cursor => s.fly (s.flights ++ [Flight.asked cursor])

def answerSync (i : Nat) (now : Instant) (s : TwoNodes V) : TwoNodes V :=
  match s.flights[i]? with
  | some (Flight.asked cursor) =>
      match syncResponse (s.remote.syncHost c.printer now) (syncRequest cursor) with
      | some (Json.obj payload) =>
          s.fly (s.flights.set i (Flight.answered cursor now s.remote payload))
      | _ => s.fly (s.flights.eraseIdx i)
  | _ => s.fly s.flights

def finishSync (i : Nat) (s : TwoNodes V) : TwoNodes V :=
  match s.flights[i]? with
  | some (Flight.answered _ _ node payload) =>
      { s with
        peers := (c.merge payload s.peers).1
        flights := s.flights.eraseIdx i
        finished :=
          match (c.merge payload s.peers).2 with
          | Except.ok _ => some node.held
          | Except.error _ => none }
  | _ => s.fly s.flights

def finishStats (i : Nat) (now : Datetime) (s : TwoNodes V) : TwoNodes V :=
  match s.flights[i]? with
  | some (Flight.stats ownStats) =>
      { s with
        peers := (c.merge (livePayload ownStats now) s.peers).1
        flights := s.flights.eraseIdx i
        finished := none }
  | _ => s.fly s.flights

variable [LinearOrder V]

def step (s : TwoNodes V) : NodeEvent -> TwoNodes V
  | NodeEvent.record snap now =>
      { s with remote := s.remote.record c.read snap now, finished := none }
  | NodeEvent.rollUp5min now => s.work (rollUp5min c.mean now s.remote.store).1
  | NodeEvent.rollHourly now => s.work (rollHourly c.mean now s.remote.store).1
  | NodeEvent.rollDaily now => s.work (rollDaily c.mean c.readable now s.remote.store).1
  | NodeEvent.prune now => s.work (prune now s.remote.store).1
  | NodeEvent.askSync => c.askSync s
  | NodeEvent.answerSync i now => c.answerSync i now s
  | NodeEvent.finishSync i => c.finishSync i s
  | NodeEvent.answerStats => s.answerStats
  | NodeEvent.finishStats i now => c.finishStats i now s
  | NodeEvent.lose i => s.fly (s.flights.eraseIdx i)
  | NodeEvent.retain now => { s with peers := retainPeers now s.peers, finished := none }

/--
Nothing is stored about the peer yet; its own snapshots are not older than the epoch, and its
windows are as long as their size says.
-/
structure Start (s : TwoNodes V) : Prop where
  peers : ¬ Known c.peerNodeId s.peers
  times : forall x, x ∈ s.remote.held -> 0 <= x.1.ts
  windows : forall b, b ∈ s.remote.store.buckets -> b.windowEnd = b.windowStart + b.bucketSize
  flights : s.flights = []
  finished : s.finished = none

def twoNodes : Machine (TwoNodes V) NodeEvent :=
  { start := c.Start, step := c.step }

end Setting

/-!
## The property
-/

/-- The payload of a row is the snapshot, or the snapshot with the time of a pull. -/
def Carries (snap : List (String × Json)) (payload : Json) : Prop :=
  payload = Json.obj snap ∨ exists now, payload = Json.obj (stampedStats snap now)

/-- A snapshot of the peer has a row, or lies in a window, among what is stored about it. -/
def Represented (peerNodeId : String) (s : PeerStore)
    (x : RawRow V × List (String × Json)) : Prop :=
  (exists r, r ∈ s.snapshots ∧ r.peerNodeId = peerNodeId ∧ Carries x.2 r.payload) ∨
    exists b, b ∈ s.buckets ∧ b.peerNodeId = peerNodeId ∧
      b.windowStart <= x.1.ts ∧ x.1.ts < b.windowEnd

/--
If a sync has just been merged: what the peer held when it answered, and still holds, is
represented.
-/
def NoHole (peerNodeId : String) (s : TwoNodes V) : Prop :=
  forall held, s.finished = some held -> forall x, x ∈ held -> x ∈ s.remote.held ->
    Represented peerNodeId s.peers x

/-!
## The condition
-/

/-- The tier of the gap asks for raw rows of a second. -/
def AsksRaw (now since : Instant) (ts : Int) : Prop :=
  match strategyFor (now - since) with
  | SyncStrategy.raw => epochOf since <= ts ∧ ts <= RAW_UNTIL
  | SyncStrategy.fiveMinutes =>
      epochOf (now - 30 * 60 * microsPerSecond) <= ts ∧ ts <= RAW_UNTIL
  | _ => False

/-- The tier of the gap asks for windows of a size from a second on. -/
def AsksWindow (now since : Instant) (size windowStart : Int) : Prop :=
  match strategyFor (now - since) with
  | SyncStrategy.fiveMinutes => size = BUCKET_5MIN_SECS ∧ epochOf since <= windowStart
  | SyncStrategy.oneHour => size = BUCKET_1HOUR_SECS ∧ epochOf since <= windowStart
  | _ => False

/-- `_to_epoch` of the cursor. -/
def cursorEpoch (cursor : Datetime) : Int :=
  epochOf (cursor.instant?.getD 0)

namespace Setting

variable (c : Setting V)

/-- The numbers the cursor is taken of when only the payload is stored. -/
def payloadTimes (payload : List (String × Json)) : List Int :=
  compared c.rt c.peerNodeId (c.merge payload PeerStore.empty).1

def flightTimes : Flight V -> List Int
  | Flight.asked cursor => [cursorEpoch cursor]
  | Flight.answered cursor _ _ payload => cursorEpoch cursor :: c.payloadTimes payload
  | Flight.stats _ => []

/-- The epoch, the times stored about the peer, and those of the syncs in flight. -/
def knownTimes (s : TwoNodes V) : List Int :=
  0 :: (compared c.rt c.peerNodeId s.peers ++ s.flights.flatMap c.flightTimes)

/-- A raw row that is asked for is the first that says its second, which is free. -/
def StoredRaw (s : PeerStore) (now since : Instant) (node : Node V)
    (x : RawRow V × List (String × Json)) : Prop :=
  AsksRaw now since x.1.ts ∧
    exists ts, stampOf c.rt x.2 = some ts ∧ (c.peerNodeId, ts) ∉ s.snapshots.map snapshotKey ∧
      forall y, y ∈ node.held -> AsksRaw now since y.1.ts -> stampOf c.rt y.2 = some ts ->
        y.1.ts <= x.1.ts -> y = x

/--
The tier of the gap reaches a snapshot: a raw row or a window of the answering node, and the
payload is not too long to be sent.
-/
def Reached (s : PeerStore) (cursor : Datetime) (now : Instant) (node : Node V)
    (x : RawRow V × List (String × Json)) : Prop :=
  (node.sent c.printer now cursor).isSome ∧
    exists since, cursor.instant? = some since ∧
      (c.StoredRaw s now since node x ∨
        exists b, b ∈ node.store.buckets ∧ b.peerNodeId = node.store.own ∧
          AsksWindow now since b.bucketSize b.windowStart ∧
            b.windowStart <= x.1.ts ∧ x.1.ts < b.windowEnd)

/-- New times pass a snapshot that was not older than the cursor. -/
def Passes (s : PeerStore) (times : List Int) (x : RawRow V × List (String × Json)) : Prop :=
  (forall t, t ∈ compared c.rt c.peerNodeId s -> t <= x.1.ts) ∧
    exists t, t ∈ times ∧ x.1.ts < t

/--
The clocks agree: the peer records at or after every time that is known about it.  A live
pull passes only what is stored or pulled, and so does a sync that raises.  The tier of a sync
that succeeds reaches what the peer still holds from the cursor on, if it is not stored.
Retention spares what the peer still holds.
-/
def InStep (s : TwoNodes V) : NodeEvent -> Prop
  | NodeEvent.record _ now => forall t, t ∈ c.knownTimes s -> t <= epochOf now
  | NodeEvent.finishSync i =>
      forall cursor now node payload,
        s.flights[i]? = some (Flight.answered cursor now node payload) ->
          match (c.merge payload s.peers).2 with
          | Except.ok _ =>
              forall x, x ∈ node.held -> x ∈ s.remote.held -> cursorEpoch cursor <= x.1.ts ->
                Represented c.peerNodeId s.peers x ∨ c.Reached s.peers cursor now node x
          | Except.error _ =>
              forall x, x ∈ s.remote.held -> c.Passes s.peers (c.payloadTimes payload) x ->
                Represented c.peerNodeId s.peers x
  | NodeEvent.finishStats i now =>
      forall ownStats, s.flights[i]? = some (Flight.stats ownStats) ->
        forall x, x ∈ s.remote.held ->
          c.Passes s.peers (stampOf c.rt (stampedStats ownStats now)).toList x ->
            x.2 = ownStats ∨ Represented c.peerNodeId s.peers x
  | NodeEvent.retain now =>
      forall x, x ∈ s.remote.held -> Represented c.peerNodeId s.peers x ->
        Represented c.peerNodeId (retainPeers now s.peers) x
  | _ => True

end Setting

end Store
end PanicMonitr
