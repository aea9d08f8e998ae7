import PanicMonitr.Foundation.Scripts
import PanicMonitr.Store.Isolation

/-!
# The database file of the store

The four tables as the versions of the program have had them, the statements that
`LogStore.__init__` runs on them, and what it looks at before it runs them.  Every
statement commits on its own, and one that fails changes nothing.  Rows are listed by
`rowid`; a node id has no quote in it, so the statements that quote one mean what they
say.
-/

namespace PanicMonitr
namespace Store

open Foundation

inductive SqlError where
  | operationalError
  | integrityError
  deriving DecidableEq

/-- `self._own_node_id or "self"` -/
def ownOf (ownNodeId : String) : String :=
  if ownNodeId = "" then "self" else ownNodeId

/-- A statement that leaves rows under a unique key. -/
def keeping {row key table : Type} [DecidableEq key] (keyOf : row -> key)
    (rows : List row) (t : table) : Except SqlError table :=
  if (rows.map keyOf).Nodup then Except.ok t
  else Except.error SqlError.integrityError

/-- A row of a table together with its `rowid`. -/
structure Rowed (row : Type) where
  rowid : Int
  row : row

/-!
## `events`
-/

/-- A row from before `peer_node_id`. -/
structure PlainEvent where
  ts : Int
  event : String
  detail : Option String

def PlainEvent.under (peerNodeId : String) (r : PlainEvent) : EventRow :=
  { peerNodeId := peerNodeId, ts := r.ts, event := r.event, detail := r.detail }

/-- The flags are `idx_events_ts`, `idx_events_peer_ts` and `idx_events_dedupe`. -/
inductive EventsTable where
  | plain (rows : List PlainEvent) (byTs : Bool)
  | keyed (rows : List EventRow) (byTs byPeerTs unique : Bool)

/-- `ts > 0 AND ts < 100000000000` -/
def isStale (ts : Int) : Bool :=
  decide (0 < ts ∧ ts < 100000000000)

def toMs (ts : Int) : Int :=
  if isStale ts then ts * 1000 else ts

def scaled (r : EventRow) : EventRow :=
  { r with ts := toMs r.ts }

/--
The rows are rewritten one by one, the lowest `ts` first, and the unique index is checked
at each: a row collides with any other that has its new key.
-/
def Collides (rows : List EventRow) : Prop :=
  exists r, r ∈ rows ∧ isStale r.ts = true ∧ eventKey (scaled r) ∈ rows.map eventKey

instance (rows : List EventRow) : Decidable (Collides rows) :=
  inferInstanceAs (Decidable (exists r, r ∈ rows ∧ isStale r.ts = true ∧
    eventKey (scaled r) ∈ rows.map eventKey))

/-- The row of lowest `id` for each key. -/
def dedupe (rows : List EventRow) : List EventRow :=
  insertMany eventKey [] rows

/-- `SET peer_node_id = own WHERE peer_node_id = ''` -/
def EventRow.fill (own : String) (r : EventRow) : EventRow :=
  if r.peerNodeId = "" then { r with peerNodeId := own } else r

inductive EventsStatement where
  | addPeerNodeId
  | fillPeerNodeId (own : String)
  | create
  | indexTs
  | indexPeerTs
  | scaleTs
  | deleteDuplicates
  | indexUnique
  deriving DecidableEq

open EventsTable in
def EventsStatement.exec :
    EventsStatement -> Option EventsTable -> Except SqlError (Option EventsTable)
  | create, none => Except.ok (some (keyed [] false false false))
  | create, some t => Except.ok (some t)
  | addPeerNodeId, some (plain rows byTs) =>
      Except.ok (some (keyed (rows.map (PlainEvent.under "")) byTs false false))
  | fillPeerNodeId own, some (keyed rows byTs byPeerTs false) =>
      Except.ok (some (keyed (rows.map (EventRow.fill own)) byTs byPeerTs false))
  | fillPeerNodeId own, some (keyed rows byTs byPeerTs true) =>
      keeping eventKey (rows.map (EventRow.fill own))
        (some (keyed (rows.map (EventRow.fill own)) byTs byPeerTs true))
  | indexTs, some (plain rows _) => Except.ok (some (plain rows true))
  | indexTs, some (keyed rows _ byPeerTs unique) =>
      Except.ok (some (keyed rows true byPeerTs unique))
  | indexPeerTs, some (keyed rows byTs _ unique) =>
      Except.ok (some (keyed rows byTs true unique))
  | scaleTs, some (plain rows byTs) =>
      Except.ok (some (plain (rows.map (fun r => { r with ts := toMs r.ts })) byTs))
  | scaleTs, some (keyed rows byTs byPeerTs unique) =>
      if unique = true ∧ Collides rows then Except.error SqlError.integrityError
      else Except.ok (some (keyed (rows.map scaled) byTs byPeerTs unique))
  | deleteDuplicates, some (keyed rows byTs byPeerTs unique) =>
      Except.ok (some (keyed (dedupe rows) byTs byPeerTs unique))
  | indexUnique, some (keyed rows byTs byPeerTs false) =>
      keeping eventKey rows (some (keyed rows byTs byPeerTs true))
  | indexUnique, some (keyed rows byTs byPeerTs true) =>
      Except.ok (some (keyed rows byTs byPeerTs true))
  | _, _ => Except.error SqlError.operationalError

/-!
## `stat_buckets`
-/

structure PlainBucket where
  windowStart : Int
  windowEnd : Int
  bucketSize : Json
  stats : List Json
  samples : Json

def PlainBucket.under (peerNodeId : String) (b : PlainBucket) : PeerBucket :=
  { peerNodeId := peerNodeId
    windowStart := b.windowStart
    windowEnd := b.windowEnd
    bucketSize := b.bucketSize
    stats := b.stats
    samples := b.samples }

/-- The columns of `idx_buckets_window`, which the versions do not agree on. -/
inductive WindowIndex where
  | byWindow
  | byPeerWindow
  deriving DecidableEq

/-- Before `peer_node_id`, `idx_buckets_window` is there or not. -/
inductive BucketsTable where
  | plain (rows : List PlainBucket) (unique : Bool)
  | keyed (rows : List PeerBucket) (unique : Option WindowIndex)

def PeerBucket.fill (own : String) (b : PeerBucket) : PeerBucket :=
  if b.peerNodeId = "" then { b with peerNodeId := own } else b

inductive BucketsStatement where
  | addPeerNodeId
  | fillPeerNodeId (own : String)
  | dropIndex
  | create
  | indexWindow
  deriving DecidableEq

open BucketsTable in
def BucketsStatement.exec :
    BucketsStatement -> Option BucketsTable -> Except SqlError (Option BucketsTable)
  | create, none => Except.ok (some (keyed [] none))
  | create, some t => Except.ok (some t)
  | addPeerNodeId, some (plain rows unique) =>
      Except.ok (some (keyed (rows.map (PlainBucket.under ""))
        (if unique then some WindowIndex.byWindow else none)))
  | fillPeerNodeId own, some (keyed rows (some WindowIndex.byPeerWindow)) =>
      keeping peerBucketKey (rows.map (PeerBucket.fill own))
        (some (keyed (rows.map (PeerBucket.fill own)) (some WindowIndex.byPeerWindow)))
  | fillPeerNodeId own, some (keyed rows unique) =>
      Except.ok (some (keyed (rows.map (PeerBucket.fill own)) unique))
  | dropIndex, none => Except.ok none
  | dropIndex, some (plain rows _) => Except.ok (some (plain rows false))
  | dropIndex, some (keyed rows _) => Except.ok (some (keyed rows none))
  -- `IF NOT EXISTS` looks at the name of the index only
  | indexWindow, some (plain rows true) => Except.ok (some (plain rows true))
  | indexWindow, some (keyed rows (some index)) => Except.ok (some (keyed rows (some index)))
  | indexWindow, some (keyed rows none) =>
      keeping peerBucketKey rows (some (keyed rows (some WindowIndex.byPeerWindow)))
  | _, _ => Except.error SqlError.operationalError

/-!
## `raw_snapshots`
-/

structure PlainSnapshot where
  ts : Int
  payload : Json

def PlainSnapshot.under (peerNodeId : String) (r : PlainSnapshot) : PeerSnapshot :=
  { peerNodeId := peerNodeId, ts := r.ts, payload := r.payload }

/--
The flags are `idx_raw_ts` and `idx_raw_peer_seq`.  What a `seq` column without a
`peer_node_id` holds is never read.
-/
inductive RawTable where
  | plain (rows : List PlainSnapshot) (byTs hasSeq : Bool)
  | keyed (rows : List (Rowed PeerSnapshot)) (byTs : Bool)
  | numbered (rows : List (Rowed TableRow)) (byTs byPeerSeq : Bool)

namespace RawTable

def byTs : RawTable -> Bool
  | plain _ byTs _ => byTs
  | keyed _ byTs => byTs
  | numbered _ byTs _ => byTs

def byPeerSeq : RawTable -> Bool
  | numbered _ _ byPeerSeq => byPeerSeq
  | _ => false

def indexedByTs : RawTable -> RawTable
  | plain rows _ hasSeq => plain rows true hasSeq
  | keyed rows _ => keyed rows true
  | numbered rows _ byPeerSeq => numbered rows true byPeerSeq

/-- `SELECT ts, payload` -/
def select : RawTable -> List PlainSnapshot
  | plain rows _ _ => rows
  | keyed rows _ => rows.map (fun r => { ts := r.row.ts, payload := r.row.payload })
  | numbered rows _ _ =>
      rows.map (fun r => { ts := r.row.snapshot.ts, payload := r.row.snapshot.payload })

end RawTable

/-- `raw_snapshots` and `raw_snapshots_legacy`; they share the names of the indexes. -/
structure RawTables where
  table : Option RawTable
  legacy : Option RawTable

/-- New rows get the numbers after the highest. -/
def nextRowid {row : Type} (rows : List (Rowed row)) : Int :=
  ((rows.map Rowed.rowid).max?).getD 0 + 1

def numberFrom {row : Type} (rowid : Int) : List row -> List (Rowed row)
  | [] => []
  | r :: rows => { rowid := rowid, row := r } :: numberFrom (rowid + 1) rows

def keyedRowKey (r : Rowed PeerSnapshot) : String × Int :=
  snapshotKey r.row

def numberedRowKey (r : Rowed TableRow) : String × Int :=
  snapshotKey r.row.snapshot

/-- A snapshot in a table that has just got its `seq` column. -/
def unnumbered (r : PeerSnapshot) : TableRow :=
  { snapshot := r, seq := none }

def withSeq (r : Rowed PeerSnapshot) : Rowed TableRow :=
  { rowid := r.rowid, row := unnumbered r.row }

/-- `SET seq = rowid WHERE peer_node_id = own AND seq IS NULL` -/
def fillSeq (own : String) (r : Rowed TableRow) : Rowed TableRow :=
  if r.row.snapshot.peerNodeId = own ∧ r.row.seq = none then
    { r with row := { r.row with seq := some r.rowid } }
  else r

inductive RawStatement where
  | rename
  | createKeyed
  | indexTs
  | insertLegacy (own : String)
  | dropLegacy
  | create
  | addSeq
  | indexPeerSeq
  | fillSeq (own : String)
  deriving DecidableEq

open RawTable in
def RawStatement.exec : RawStatement -> RawTables -> Except SqlError RawTables
  | rename, { table := some t, legacy := none } =>
      Except.ok { table := none, legacy := some t }
  | createKeyed, { table := none, legacy := legacy } =>
      Except.ok { table := some (keyed [] false), legacy := legacy }
  | create, { table := none, legacy := legacy } =>
      Except.ok { table := some (keyed [] false), legacy := legacy }
  | create, { table := some t, legacy := legacy } =>
      Except.ok { table := some t, legacy := legacy }
  -- an index that went with the renamed table keeps its name taken
  | indexTs, { table := some t, legacy := legacy } =>
      if legacy.any RawTable.byTs then Except.ok { table := some t, legacy := legacy }
      else Except.ok { table := some t.indexedByTs, legacy := legacy }
  | insertLegacy own, { table := some (keyed rows byTs), legacy := some t } =>
      let rows' := rows ++ numberFrom (nextRowid rows) (t.select.map (PlainSnapshot.under own))
      keeping keyedRowKey rows' { table := some (keyed rows' byTs), legacy := some t }
  | insertLegacy own, { table := some (numbered rows byTs byPeerSeq), legacy := some t } =>
      let rows' := rows ++ numberFrom (nextRowid rows)
        (t.select.map (fun r => unnumbered (r.under own)))
      keeping numberedRowKey rows'
        { table := some (numbered rows' byTs byPeerSeq), legacy := some t }
  | dropLegacy, { table := table, legacy := some _ } =>
      Except.ok { table := table, legacy := none }
  | addSeq, { table := some (plain rows byTs false), legacy := legacy } =>
      Except.ok { table := some (plain rows byTs true), legacy := legacy }
  | addSeq, { table := some (keyed rows byTs), legacy := legacy } =>
      Except.ok { table := some (numbered (rows.map withSeq) byTs false), legacy := legacy }
  | indexPeerSeq, { table := some (numbered rows byTs byPeerSeq), legacy := legacy } =>
      if legacy.any RawTable.byPeerSeq then
        Except.ok { table := some (numbered rows byTs byPeerSeq), legacy := legacy }
      else Except.ok { table := some (numbered rows byTs true), legacy := legacy }
  | RawStatement.fillSeq own, { table := some (numbered rows byTs byPeerSeq), legacy := legacy } =>
      Except.ok
        { table := some (numbered (rows.map (Store.fillSeq own)) byTs byPeerSeq)
          legacy := legacy }
  | _, _ => Except.error SqlError.operationalError

/-!
## `daily_summaries`
-/

structure PlainDay where
  date : String
  stats : List Json

def PlainDay.under (peerNodeId : String) (r : PlainDay) : PeerDay :=
  { peerNodeId := peerNodeId, date := r.date, stats := r.stats }

inductive DailyTable where
  | plain (rows : List PlainDay)
  | keyed (rows : List PeerDay)

/-- `SELECT date, ..., incidents` -/
def DailyTable.select : DailyTable -> List PlainDay
  | plain rows => rows
  | keyed rows => rows.map (fun r => { date := r.date, stats := r.stats })

/-- `daily_summaries` and `daily_summaries_legacy`. -/
structure DailyTables where
  table : Option DailyTable
  legacy : Option DailyTable

inductive DailyStatement where
  | rename
  | createKeyed
  | insertLegacy (own : String)
  | dropLegacy
  | create
  deriving DecidableEq

open DailyTable in
def DailyStatement.exec : DailyStatement -> DailyTables -> Except SqlError DailyTables
  | rename, { table := some t, legacy := none } =>
      Except.ok { table := none, legacy := some t }
  | createKeyed, { table := none, legacy := legacy } =>
      Except.ok { table := some (keyed []), legacy := legacy }
  | create, { table := none, legacy := legacy } =>
      Except.ok { table := some (keyed []), legacy := legacy }
  | create, { table := some t, legacy := legacy } =>
      Except.ok { table := some t, legacy := legacy }
  | insertLegacy own, { table := some (keyed rows), legacy := some t } =>
      keeping dayKey (rows ++ t.select.map (PlainDay.under own))
        { table := some (keyed (rows ++ t.select.map (PlainDay.under own)))
          legacy := some t }
  | dropLegacy, { table := table, legacy := some _ } =>
      Except.ok { table := table, legacy := none }
  | _, _ => Except.error SqlError.operationalError

/-!
## The constructor
-/

structure Database where
  events : Option EventsTable
  buckets : Option BucketsTable
  raw : RawTables
  daily : DailyTables

inductive Statement where
  | events (st : EventsStatement)
  | buckets (st : BucketsStatement)
  | raw (st : RawStatement)
  | daily (st : DailyStatement)
  deriving DecidableEq

/-- One statement, committed on its own. -/
def Statement.exec : Statement -> Database -> Except SqlError Database
  | events st, db => (st.exec db.events).map (fun t => { db with events := t })
  | buckets st, db => (st.exec db.buckets).map (fun t => { db with buckets := t })
  | raw st, db => (st.exec db.raw).map (fun t => { db with raw := t })
  | daily st, db => (st.exec db.daily).map (fun t => { db with daily := t })

/-- `_migrate_peer_node_id_column`, table by table. -/
def migrateEventsPeer (own : String) : Option EventsTable -> List EventsStatement
  | some (EventsTable.plain _ _) =>
      [EventsStatement.addPeerNodeId, EventsStatement.fillPeerNodeId own]
  | _ => []

def migrateBucketsPeer (own : String) : Option BucketsTable -> List BucketsStatement
  | some (BucketsTable.plain _ _) =>
      [BucketsStatement.addPeerNodeId, BucketsStatement.fillPeerNodeId own,
        BucketsStatement.dropIndex]
  | _ => []

def migrateRawPeer (own : String) (t : RawTables) : List RawStatement :=
  match t.table with
  | some (RawTable.plain _ _ _) =>
      [RawStatement.rename, RawStatement.createKeyed, RawStatement.indexTs,
        RawStatement.insertLegacy own, RawStatement.dropLegacy]
  | _ => []

def migrateDailyPeer (own : String) (t : DailyTables) : List DailyStatement :=
  match t.table with
  | some (DailyTable.plain _) =>
      [DailyStatement.rename, DailyStatement.createKeyed, DailyStatement.insertLegacy own,
        DailyStatement.dropLegacy]
  | _ => []

def migratePeerNodeIdColumn (own : String) (db : Database) : List Statement :=
  (migrateEventsPeer own db.events).map Statement.events ++
    (migrateBucketsPeer own db.buckets).map Statement.buckets ++
    (migrateRawPeer own db.raw).map Statement.raw ++
    (migrateDailyPeer own db.daily).map Statement.daily

/-- `_SCHEMA` -/
def schema : List Statement :=
  [Statement.events EventsStatement.create,
    Statement.events EventsStatement.indexTs,
    Statement.events EventsStatement.indexPeerTs,
    Statement.raw RawStatement.create,
    Statement.raw RawStatement.indexTs,
    Statement.buckets BucketsStatement.create,
    Statement.buckets BucketsStatement.indexWindow,
    Statement.daily DailyStatement.create]

def staleCount : Option EventsTable -> Nat
  | none => 0
  | some (EventsTable.plain rows _) => rows.countP (fun r => isStale r.ts)
  | some (EventsTable.keyed rows _ _ _) => rows.countP (fun r => isStale r.ts)

def migrateEventTimestamps (t : Option EventsTable) : List EventsStatement :=
  if 0 < staleCount t then [EventsStatement.scaleTs] else []

def migrateEventDedupe : List EventsStatement :=
  [EventsStatement.deleteDuplicates, EventsStatement.indexUnique]

def migrateSnapshotSeq (own : String) (t : RawTables) : List RawStatement :=
  match t.table with
  | none => []
  | some (RawTable.plain _ _ true) => []
  | some (RawTable.numbered _ _ _) => []
  | some _ => [RawStatement.addSeq, RawStatement.indexPeerSeq, RawStatement.fillSeq own]

/-- `LogStore.__init__(path, own_node_id)` -/
def initPhases (ownNodeId : String) : List (Database -> List Statement) :=
  let own := ownOf ownNodeId
  [migratePeerNodeIdColumn own,
    fun _ => schema,
    fun db => (migrateEventTimestamps db.events).map Statement.events,
    fun _ => migrateEventDedupe.map Statement.events,
    fun db => (migrateSnapshotSeq own db.raw).map Statement.raw]

/-- The file after the constructor has run on it. -/
def openStore (ownNodeId : String) (db : Database) : Except SqlError Database :=
  runScript Statement.exec (initPhases ownNodeId) db

end Store
end PanicMonitr
