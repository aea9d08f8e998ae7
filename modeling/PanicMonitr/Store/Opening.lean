import PanicMonitr.Store.Migration

/-!
# Opening a file

What the constructor makes of the buckets, the snapshots and the daily summaries, from
every state a crash can leave them in, and what that comes to for a whole file.
-/

namespace PanicMonitr
namespace Store

open Foundation

/-!
## `stat_buckets`
-/

theorem fill_under_buckets (own : String) (rows : List PlainBucket) :
    (rows.map (PlainBucket.under "")).map (PeerBucket.fill own) =
      rows.map (PlainBucket.under own) := by
  rw [List.map_map]
  rfl

theorem indexWindow_ok {rows : List PeerBucket} (hnodup : (rows.map peerBucketKey).Nodup) :
    BucketsStatement.indexWindow.exec (some (BucketsTable.keyed rows none)) =
      Except.ok (some (BucketsTable.keyed rows (some WindowIndex.byPeerWindow))) :=
  if_pos hnodup

theorem open_buckets_indexed (own : String) (rows : List PeerBucket) (index : WindowIndex) :
    runScript BucketsStatement.exec (bucketsPhases own)
        (some (BucketsTable.keyed rows (some index))) =
      Except.ok (some (BucketsTable.keyed rows (some index))) := rfl

theorem schema_buckets {rows : List PeerBucket} (hnodup : (rows.map peerBucketKey).Nodup) :
    execAll BucketsStatement.exec bucketsSchema (some (BucketsTable.keyed rows none)) =
      Except.ok (some (BucketsTable.keyed rows (some WindowIndex.byPeerWindow))) := by
  show execAll BucketsStatement.exec [BucketsStatement.indexWindow]
    (some (BucketsTable.keyed rows none)) = _
  rw [execAll_cons_ok (indexWindow_ok hnodup)]
  rfl

theorem open_buckets_keyed (own : String) {rows : List PeerBucket}
    (hnodup : (rows.map peerBucketKey).Nodup) :
    runScript BucketsStatement.exec (bucketsPhases own)
        (some (BucketsTable.keyed rows none)) =
      Except.ok (some (BucketsTable.keyed rows (some WindowIndex.byPeerWindow))) := by
  unfold bucketsPhases
  rw [runScript_cons_ok (m := some (BucketsTable.keyed rows none)) rfl,
    runScript_cons_ok (schema_buckets hnodup)]
  rfl

theorem open_buckets_none (own : String) :
    runScript BucketsStatement.exec (bucketsPhases own) none =
      Except.ok (some (BucketsTable.keyed [] (some WindowIndex.byPeerWindow))) := by
  unfold bucketsPhases
  rw [runScript_cons_ok (m := none) rfl,
    runScript_cons_ok
      (m := some (BucketsTable.keyed [] (some WindowIndex.byPeerWindow))) rfl]
  rfl

theorem migrate_buckets_plain (own : String) (rows : List PlainBucket) (unique : Bool) :
    execAll BucketsStatement.exec
        (migrateBucketsPeer own (some (BucketsTable.plain rows unique)))
        (some (BucketsTable.plain rows unique)) =
      Except.ok (some (BucketsTable.keyed (rows.map (PlainBucket.under own)) none)) := by
  rw [← fill_under_buckets]
  cases unique with
  | false => rfl
  | true => rfl

theorem open_buckets_plain (own : String) {rows : List PlainBucket} (unique : Bool)
    (hnodup : ((rows.map (PlainBucket.under own)).map peerBucketKey).Nodup) :
    runScript BucketsStatement.exec (bucketsPhases own)
        (some (BucketsTable.plain rows unique)) =
      Except.ok (some (BucketsTable.keyed (rows.map (PlainBucket.under own))
        (some WindowIndex.byPeerWindow))) := by
  unfold bucketsPhases
  rw [runScript_cons_ok (migrate_buckets_plain own rows unique),
    runScript_cons_ok (schema_buckets hnodup)]
  rfl

/-!
## `raw_snapshots`
-/

/-- A table without `seq` after the snapshots of the own node have got their numbers. -/
def filled (own : String) (rows : List (Rowed PeerSnapshot)) : List (Rowed TableRow) :=
  (rows.map withSeq).map (fillSeq own)

/-- The rows copied out of a table without `peer_node_id`. -/
def copied (own : String) (rows : List PlainSnapshot) : List (Rowed PeerSnapshot) :=
  numberFrom 1 (rows.map (PlainSnapshot.under own))

theorem map_row_numberFrom {row : Type} (rows : List row) (n : Int) :
    (numberFrom n rows).map Rowed.row = rows := by
  induction rows generalizing n with
  | nil => rfl
  | cons r rows ih =>
      show r :: (numberFrom (n + 1) rows).map Rowed.row = r :: rows
      rw [ih]

theorem keys_copied (own : String) (rows : List PlainSnapshot) :
    (copied own rows).map keyedRowKey =
      (rows.map PlainSnapshot.ts).map (fun ts => (own, ts)) := by
  have hkeys : (copied own rows).map keyedRowKey =
      ((copied own rows).map Rowed.row).map snapshotKey := by
    rw [List.map_map]
    rfl
  unfold copied at hkeys ⊢
  rw [hkeys, map_row_numberFrom, List.map_map, List.map_map]
  rfl

theorem nodup_copied (own : String) {rows : List PlainSnapshot}
    (hnodup : (rows.map PlainSnapshot.ts).Nodup) :
    ((copied own rows).map keyedRowKey).Nodup := by
  rw [keys_copied]
  apply List.Nodup.map _ hnodup
  intro ts ts' heq
  exact (Prod.mk.inj heq).right

section Raw

variable (own : String) {legacy : Option RawTable}

/-- Where the name `idx_raw_ts` is taken by the table that was renamed, it stays there. -/
theorem indexTs_keyed (rows : List (Rowed PeerSnapshot)) (byTs : Bool) :
    RawStatement.indexTs.exec { table := some (RawTable.keyed rows byTs), legacy := legacy } =
      Except.ok
        { table := some (RawTable.keyed rows (byTs || !legacy.any RawTable.byTs))
          legacy := legacy } := by
  rw [RawStatement.exec]
  cases hlegacy : legacy.any RawTable.byTs with
  | false => simp [RawTable.indexedByTs]
  | true => simp

theorem indexTs_numbered (rows : List (Rowed TableRow)) (byTs byPeerSeq : Bool) :
    RawStatement.indexTs.exec
        { table := some (RawTable.numbered rows byTs byPeerSeq), legacy := legacy } =
      Except.ok
        { table := some (RawTable.numbered rows (byTs || !legacy.any RawTable.byTs) byPeerSeq)
          legacy := legacy } := by
  rw [RawStatement.exec]
  cases hlegacy : legacy.any RawTable.byTs with
  | false => simp [RawTable.indexedByTs]
  | true => simp

theorem indexPeerSeq_ok (hfree : legacy.any RawTable.byPeerSeq = false)
    (rows : List (Rowed TableRow)) (byTs byPeerSeq : Bool) :
    RawStatement.indexPeerSeq.exec
        { table := some (RawTable.numbered rows byTs byPeerSeq), legacy := legacy } =
      Except.ok { table := some (RawTable.numbered rows byTs true), legacy := legacy } := by
  rw [RawStatement.exec, hfree]
  rfl

/-- The `seq` column of a table that has none. -/
theorem migrate_seq (hfree : legacy.any RawTable.byPeerSeq = false)
    (rows : List (Rowed PeerSnapshot)) (byTs : Bool) :
    execAll RawStatement.exec
        (migrateSnapshotSeq own { table := some (RawTable.keyed rows byTs), legacy := legacy })
        { table := some (RawTable.keyed rows byTs), legacy := legacy } =
      Except.ok
        { table := some (RawTable.numbered (filled own rows) byTs true), legacy := legacy } := by
  show execAll RawStatement.exec [RawStatement.indexPeerSeq, RawStatement.fillSeq own]
    { table := some (RawTable.numbered (rows.map withSeq) byTs false), legacy := legacy } = _
  rw [execAll_cons_ok (indexPeerSeq_ok hfree _ byTs false)]
  rfl

theorem schema_raw_keyed (rows : List (Rowed PeerSnapshot)) (byTs : Bool) :
    execAll RawStatement.exec rawSchema
        { table := some (RawTable.keyed rows byTs), legacy := legacy } =
      Except.ok
        { table := some (RawTable.keyed rows (byTs || !legacy.any RawTable.byTs))
          legacy := legacy } := by
  show execAll RawStatement.exec [RawStatement.indexTs]
    { table := some (RawTable.keyed rows byTs), legacy := legacy } = _
  rw [execAll_cons_ok (indexTs_keyed rows byTs)]
  rfl

theorem open_raw_keyed (hfree : legacy.any RawTable.byPeerSeq = false)
    (rows : List (Rowed PeerSnapshot)) (byTs : Bool) :
    runScript RawStatement.exec (rawPhases own)
        { table := some (RawTable.keyed rows byTs), legacy := legacy } =
      Except.ok
        { table := some (RawTable.numbered (filled own rows)
            (byTs || !legacy.any RawTable.byTs) true)
          legacy := legacy } := by
  unfold rawPhases
  rw [runScript_cons_ok
      (m := { table := some (RawTable.keyed rows byTs), legacy := legacy }) rfl,
    runScript_cons_ok (schema_raw_keyed rows byTs), runScript_cons_ok rfl,
    runScript_cons_ok rfl, runScript_cons_ok (migrate_seq own hfree rows _)]
  rfl

theorem open_raw_none (hfree : legacy.any RawTable.byPeerSeq = false) :
    runScript RawStatement.exec (rawPhases own) { table := none, legacy := legacy } =
      Except.ok
        { table := some (RawTable.numbered [] (!legacy.any RawTable.byTs) true)
          legacy := legacy } := by
  have hschema : execAll RawStatement.exec rawSchema { table := none, legacy := legacy } =
      Except.ok
        { table := some (RawTable.keyed [] (!legacy.any RawTable.byTs)), legacy := legacy } := by
    show execAll RawStatement.exec [RawStatement.indexTs]
      { table := some (RawTable.keyed [] false), legacy := legacy } = _
    rw [execAll_cons_ok (indexTs_keyed [] false)]
    rfl
  unfold rawPhases
  rw [runScript_cons_ok (m := { table := none, legacy := legacy }) rfl,
    runScript_cons_ok hschema, runScript_cons_ok rfl, runScript_cons_ok rfl,
    runScript_cons_ok (migrate_seq own hfree [] _)]
  rfl

/-- A table that has its `seq` column is done, whatever the rows and the index say. -/
theorem open_raw_numbered (rows : List (Rowed TableRow)) (byTs byPeerSeq : Bool) :
    runScript RawStatement.exec (rawPhases own)
        { table := some (RawTable.numbered rows byTs byPeerSeq), legacy := legacy } =
      Except.ok
        { table := some (RawTable.numbered rows (byTs || !legacy.any RawTable.byTs) byPeerSeq)
          legacy := legacy } := by
  have hschema : execAll RawStatement.exec rawSchema
      { table := some (RawTable.numbered rows byTs byPeerSeq), legacy := legacy } =
        Except.ok
          { table := some (RawTable.numbered rows (byTs || !legacy.any RawTable.byTs) byPeerSeq)
            legacy := legacy } := by
    show execAll RawStatement.exec [RawStatement.indexTs]
      { table := some (RawTable.numbered rows byTs byPeerSeq), legacy := legacy } = _
    rw [execAll_cons_ok (indexTs_numbered rows byTs byPeerSeq)]
    rfl
  unfold rawPhases
  rw [runScript_cons_ok
      (m := { table := some (RawTable.numbered rows byTs byPeerSeq), legacy := legacy }) rfl,
    runScript_cons_ok hschema]
  rfl

theorem insertLegacy_ok {rows : List PlainSnapshot} (byTs byTs' hasSeq : Bool)
    (hnodup : (rows.map PlainSnapshot.ts).Nodup) :
    (RawStatement.insertLegacy own).exec
        { table := some (RawTable.keyed [] byTs)
          legacy := some (RawTable.plain rows byTs' hasSeq) } =
      Except.ok
        { table := some (RawTable.keyed (copied own rows) byTs)
          legacy := some (RawTable.plain rows byTs' hasSeq) } :=
  if_pos (nodup_copied own hnodup)

/-- The statements from the table with both names on, in the order they run. -/
theorem migrate_raw_plain {rows : List PlainSnapshot} (byTs hasSeq : Bool)
    (hnodup : (rows.map PlainSnapshot.ts).Nodup) :
    execAll RawStatement.exec
        (migrateRawPeer own { table := some (RawTable.plain rows byTs hasSeq), legacy := none })
        { table := some (RawTable.plain rows byTs hasSeq), legacy := none } =
      Except.ok { table := some (RawTable.keyed (copied own rows) (!byTs)), legacy := none } := by
  show execAll RawStatement.exec
    [RawStatement.indexTs, RawStatement.insertLegacy own, RawStatement.dropLegacy]
    { table := some (RawTable.keyed [] false)
      legacy := some (RawTable.plain rows byTs hasSeq) } = _
  rw [execAll_cons_ok (indexTs_keyed [] false),
    execAll_cons_ok (insertLegacy_ok own _ byTs hasSeq hnodup)]
  rfl

theorem open_raw_plain {rows : List PlainSnapshot} (byTs hasSeq : Bool)
    (hnodup : (rows.map PlainSnapshot.ts).Nodup) :
    runScript RawStatement.exec (rawPhases own)
        { table := some (RawTable.plain rows byTs hasSeq), legacy := none } =
      Except.ok
        { table := some (RawTable.numbered (filled own (copied own rows)) true true)
          legacy := none } := by
  unfold rawPhases
  rw [runScript_cons_ok (migrate_raw_plain own byTs hasSeq hnodup),
    runScript_cons_ok (schema_raw_keyed _ (!byTs)), runScript_cons_ok rfl,
    runScript_cons_ok rfl, runScript_cons_ok (migrate_seq own rfl _ _)]
  simp [runScript_nil]

end Raw

/-!
## `daily_summaries`
-/

section Daily

variable (own : String) {legacy : Option DailyTable}

theorem open_daily_keyed (rows : List PeerDay) :
    runScript DailyStatement.exec (dailyPhases own)
        { table := some (DailyTable.keyed rows), legacy := legacy } =
      Except.ok { table := some (DailyTable.keyed rows), legacy := legacy } := rfl

theorem open_daily_none :
    runScript DailyStatement.exec (dailyPhases own) { table := none, legacy := legacy } =
      Except.ok { table := some (DailyTable.keyed []), legacy := legacy } := rfl

theorem nodup_days {rows : List PlainDay} (hnodup : (rows.map PlainDay.date).Nodup) :
    ((rows.map (PlainDay.under own)).map dayKey).Nodup := by
  have hkeys : (rows.map (PlainDay.under own)).map dayKey =
      (rows.map PlainDay.date).map (fun date => (own, date)) := by
    rw [List.map_map, List.map_map]
    rfl
  rw [hkeys]
  apply List.Nodup.map _ hnodup
  intro date date' heq
  exact (Prod.mk.inj heq).right

theorem insertDays_ok {rows : List PlainDay} (hnodup : (rows.map PlainDay.date).Nodup) :
    (DailyStatement.insertLegacy own).exec
        { table := some (DailyTable.keyed []), legacy := some (DailyTable.plain rows) } =
      Except.ok
        { table := some (DailyTable.keyed (rows.map (PlainDay.under own)))
          legacy := some (DailyTable.plain rows) } :=
  if_pos (nodup_days own hnodup)

theorem migrate_daily_plain {rows : List PlainDay}
    (hnodup : (rows.map PlainDay.date).Nodup) :
    execAll DailyStatement.exec
        (migrateDailyPeer own { table := some (DailyTable.plain rows), legacy := none })
        { table := some (DailyTable.plain rows), legacy := none } =
      Except.ok
        { table := some (DailyTable.keyed (rows.map (PlainDay.under own))), legacy := none } := by
  show execAll DailyStatement.exec
    [DailyStatement.insertLegacy own, DailyStatement.dropLegacy]
    { table := some (DailyTable.keyed []), legacy := some (DailyTable.plain rows) } = _
  rw [execAll_cons_ok (insertDays_ok own hnodup)]
  rfl

theorem open_daily_plain {rows : List PlainDay} (hnodup : (rows.map PlainDay.date).Nodup) :
    runScript DailyStatement.exec (dailyPhases own)
        { table := some (DailyTable.plain rows), legacy := none } =
      Except.ok
        { table := some (DailyTable.keyed (rows.map (PlainDay.under own))), legacy := none } := by
  unfold dailyPhases
  rw [runScript_cons_ok (migrate_daily_plain own hnodup)]
  rfl

end Daily

/-!
## A whole file
-/

/-- The rows of a table, the ones without a node id under the own one. -/
def eventsUnder (own : String) : Option EventsTable -> List EventRow
  | none => []
  | some (EventsTable.plain rows _) => rows.map (PlainEvent.under own)
  | some (EventsTable.keyed rows _ _ _) => rows

def bucketsUnder (own : String) : Option BucketsTable -> List PeerBucket
  | none => []
  | some (BucketsTable.plain rows _) => rows.map (PlainBucket.under own)
  | some (BucketsTable.keyed rows _) => rows

def snapshotsUnder (own : String) : Option RawTable -> List PeerSnapshot
  | none => []
  | some (RawTable.plain rows _ _) => rows.map (PlainSnapshot.under own)
  | some (RawTable.keyed rows _) => rows.map Rowed.row
  | some (RawTable.numbered rows _ _) => rows.map (fun r => r.row.snapshot)

def daysUnder (own : String) : Option DailyTable -> List PeerDay
  | none => []
  | some (DailyTable.plain rows) => rows.map (PlainDay.under own)
  | some (DailyTable.keyed rows) => rows

def numberedUnder (own : String) : Option RawTable -> List (Rowed TableRow)
  | none => []
  | some (RawTable.plain rows _ _) => filled own (copied own rows)
  | some (RawTable.keyed rows _) => filled own rows
  | some (RawTable.numbered rows _ _) => rows

/-- The columns of the old unique index, the size by its text. -/
def PlainBucket.window (b : PlainBucket) : Int × String :=
  (b.windowStart, String.ofList (Json.print b.bucketSize))

def LegacyBuckets : Option BucketsTable -> Prop
  | none => True
  | some (BucketsTable.plain rows _) => (rows.map PlainBucket.window).Nodup
  | some (BucketsTable.keyed rows none) => (rows.map peerBucketKey).Nodup
  | some (BucketsTable.keyed _ (some index)) => index = WindowIndex.byPeerWindow

def LegacyRaw (t : RawTables) : Prop :=
  t.legacy = none ∧
    match t.table with
    | some (RawTable.plain rows _ _) => (rows.map PlainSnapshot.ts).Nodup
    | some (RawTable.numbered _ _ byPeerSeq) => byPeerSeq = true
    | _ => True

def LegacyDaily (t : DailyTables) : Prop :=
  t.legacy = none ∧
    match t.table with
    | some (DailyTable.plain rows) => (rows.map PlainDay.date).Nodup
    | _ => True

/--
A file some version of the program has left: any of the tables may be missing, or lack
`peer_node_id` or `seq`.  Their rows are any that the keys of their tables allow; no table
is half migrated.
-/
structure Legacy (db : Database) : Prop where
  buckets : LegacyBuckets db.buckets
  raw : LegacyRaw db.raw
  daily : LegacyDaily db.daily

/-- A time cannot be scaled because the unique index is there already. -/
def Blocked : Option EventsTable -> Prop
  | some (EventsTable.keyed rows _ _ true) => Collides rows
  | _ => False

/-- The file after an uninterrupted start. -/
def migrated (own : String) (db : Database) : Database :=
  { events := settled (eventsUnder own db.events)
    buckets := some (BucketsTable.keyed (bucketsUnder own db.buckets)
      (some WindowIndex.byPeerWindow))
    raw :=
      { table := some (RawTable.numbered (numberedUnder own db.raw.table) true true)
        legacy := none }
    daily := { table := some (DailyTable.keyed (daysUnder own db.daily.table)), legacy := none } }

theorem open_events (own : String) {t : Option EventsTable} (hfree : ¬ Blocked t) :
    runScript EventsStatement.exec (eventsPhases own) t =
      Except.ok (settled (eventsUnder own t)) := by
  cases t with
  | none => exact open_events_none own
  | some t =>
      cases t with
      | plain rows byTs => exact open_events_plain own rows byTs
      | keyed rows byTs byPeerTs unique =>
          rw [open_events_keyed, if_neg]
          · rfl
          · intro h
            rcases h with ⟨rfl, hcollides⟩
            exact hfree hcollides

theorem open_events_blocked (own : String) {t : Option EventsTable} (hblocked : Blocked t) :
    runScript EventsStatement.exec (eventsPhases own) t =
      Except.error SqlError.integrityError := by
  cases t with
  | none => cases hblocked
  | some t =>
      cases t with
      | plain rows byTs => cases hblocked
      | keyed rows byTs byPeerTs unique =>
          cases unique with
          | false => cases hblocked
          | true =>
              rw [open_events_keyed, if_pos]
              exact ⟨rfl, hblocked⟩

theorem nodup_bucketsUnder (own : String) {rows : List PlainBucket}
    (hnodup : (rows.map PlainBucket.window).Nodup) :
    ((rows.map (PlainBucket.under own)).map peerBucketKey).Nodup := by
  have hkeys : (rows.map (PlainBucket.under own)).map peerBucketKey =
      (rows.map PlainBucket.window).map (fun window => (own, window)) := by
    rw [List.map_map, List.map_map]
    rfl
  rw [hkeys]
  apply List.Nodup.map _ hnodup
  intro window window' heq
  exact (Prod.mk.inj heq).right

theorem open_buckets (own : String) {t : Option BucketsTable} (hlegacy : LegacyBuckets t) :
    runScript BucketsStatement.exec (bucketsPhases own) t =
      Except.ok (some (BucketsTable.keyed (bucketsUnder own t)
        (some WindowIndex.byPeerWindow))) := by
  cases t with
  | none => exact open_buckets_none own
  | some t =>
      cases t with
      | plain rows unique => exact open_buckets_plain own unique (nodup_bucketsUnder own hlegacy)
      | keyed rows index =>
          cases index with
          | none => exact open_buckets_keyed own hlegacy
          | some index =>
              rw [show index = WindowIndex.byPeerWindow from hlegacy]
              exact open_buckets_indexed own rows WindowIndex.byPeerWindow

theorem open_raw (own : String) {t : RawTables} (hlegacy : LegacyRaw t) :
    runScript RawStatement.exec (rawPhases own) t =
      Except.ok
        { table := some (RawTable.numbered (numberedUnder own t.table) true true)
          legacy := none } := by
  cases t with
  | mk table legacy =>
      rcases hlegacy with ⟨hnone, hrows⟩
      rw [show legacy = none from hnone]
      cases table with
      | none => exact open_raw_none own rfl
      | some t =>
          cases t with
          | plain rows byTs hasSeq => exact open_raw_plain own byTs hasSeq hrows
          | keyed rows byTs =>
              rw [open_raw_keyed own rfl rows byTs]
              simp [numberedUnder]
          | numbered rows byTs byPeerSeq =>
              rw [open_raw_numbered own rows byTs byPeerSeq,
                show byPeerSeq = true from hrows]
              simp [numberedUnder]

theorem open_daily (own : String) {t : DailyTables} (hlegacy : LegacyDaily t) :
    runScript DailyStatement.exec (dailyPhases own) t =
      Except.ok { table := some (DailyTable.keyed (daysUnder own t.table)), legacy := none } := by
  cases t with
  | mk table legacy =>
      rcases hlegacy with ⟨hnone, hrows⟩
      rw [show legacy = none from hnone]
      cases table with
      | none => exact open_daily_none own
      | some t =>
          cases t with
          | plain rows => exact open_daily_plain own hrows
          | keyed rows => exact open_daily_keyed own rows

theorem openStore_parts {ownNodeId : String} {db db' : Database}
    (hopen : openStore ownNodeId db = Except.ok db') (p : Part) :
    runScript p.exec (phasesOf (ownOf ownNodeId) p) (p.get db) = Except.ok (p.get db') := by
  rw [← ofPart_initScript]
  rw [openStore, ← whole_initScript] at hopen
  exact Parts.runScript_ok hopen p

theorem openStore_of_parts {ownNodeId : String} {db db' : Database}
    (hevents : runScript EventsStatement.exec (eventsPhases (ownOf ownNodeId)) db.events =
      Except.ok db'.events)
    (hbuckets : runScript BucketsStatement.exec (bucketsPhases (ownOf ownNodeId)) db.buckets =
      Except.ok db'.buckets)
    (hraw : runScript RawStatement.exec (rawPhases (ownOf ownNodeId)) db.raw =
      Except.ok db'.raw)
    (hdaily : runScript DailyStatement.exec (dailyPhases (ownOf ownNodeId)) db.daily =
      Except.ok db'.daily) :
    openStore ownNodeId db = Except.ok db' := by
  have htotal : exists again, openStore ownNodeId db = Except.ok again := by
    rw [openStore, ← whole_initScript]
    apply Parts.runScript_total
    intro p
    rw [ofPart_initScript]
    cases p with
    | events => exact ⟨_, hevents⟩
    | buckets => exact ⟨_, hbuckets⟩
    | raw => exact ⟨_, hraw⟩
    | daily => exact ⟨_, hdaily⟩
  rcases htotal with ⟨again, hopen⟩
  rw [hopen]
  congr 1
  cases again with
  | mk events buckets raw daily =>
      cases db' with
      | mk events' buckets' raw' daily' =>
          congr 1
          · exact Except.ok.inj ((openStore_parts hopen Part.events).symm.trans hevents)
          · exact Except.ok.inj ((openStore_parts hopen Part.buckets).symm.trans hbuckets)
          · exact Except.ok.inj ((openStore_parts hopen Part.raw).symm.trans hraw)
          · exact Except.ok.inj ((openStore_parts hopen Part.daily).symm.trans hdaily)

theorem openStore_legacy {ownNodeId : String} {db : Database} (hlegacy : Legacy db)
    (hfree : ¬ Blocked db.events) :
    openStore ownNodeId db = Except.ok (migrated (ownOf ownNodeId) db) :=
  openStore_of_parts (open_events _ hfree) (open_buckets _ hlegacy.buckets)
    (open_raw _ hlegacy.raw) (open_daily _ hlegacy.daily)

theorem not_blocked_of_open {ownNodeId : String} {db db' : Database}
    (hopen : openStore ownNodeId db = Except.ok db') : ¬ Blocked db.events := by
  intro hblocked
  have hevents := openStore_parts hopen Part.events
  cases (open_events_blocked (ownOf ownNodeId) hblocked).symm.trans hevents

end Store
end PanicMonitr
