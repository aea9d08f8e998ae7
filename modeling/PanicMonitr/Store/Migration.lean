import PanicMonitr.Store.Schema

/-!
# What the constructor makes of a file

The four tables are independent parts of the file, so the constructor is one script for
each.  Every script is followed from every state a table can be in.
-/

namespace PanicMonitr
namespace Store

open Foundation

/-!
## The parts of a file
-/

inductive Part where
  | events
  | buckets
  | raw
  | daily
  deriving DecidableEq

namespace Part

def State : Part -> Type
  | events => Option EventsTable
  | buckets => Option BucketsTable
  | raw => RawTables
  | daily => DailyTables

def Stmt : Part -> Type
  | events => EventsStatement
  | buckets => BucketsStatement
  | raw => RawStatement
  | daily => DailyStatement

def get : (p : Part) -> Database -> p.State
  | events, db => db.events
  | buckets, db => db.buckets
  | raw, db => db.raw
  | daily, db => db.daily

def stmt : (p : Part) -> Statement -> Option p.Stmt
  | events, Statement.events st => some st
  | buckets, Statement.buckets st => some st
  | raw, Statement.raw st => some st
  | daily, Statement.daily st => some st
  | _, _ => none

def put : (p : Part) -> p.Stmt -> Statement
  | events => Statement.events
  | buckets => Statement.buckets
  | raw => Statement.raw
  | daily => Statement.daily

def exec : (p : Part) -> p.Stmt -> p.State -> Except SqlError p.State
  | events => EventsStatement.exec
  | buckets => BucketsStatement.exec
  | raw => RawStatement.exec
  | daily => DailyStatement.exec

end Part

theorem map_ok_inv {err state state' : Type} {x : Except err state} {f : state -> state'}
    {s' : state'} (h : x.map f = Except.ok s') : exists s, x = Except.ok s ∧ f s = s' := by
  cases x with
  | error e => cases h
  | ok s =>
      cases h
      exact ⟨s, rfl, rfl⟩

theorem map_error_inv {err state state' : Type} {x : Except err state} {f : state -> state'}
    {e : err} (h : x.map f = Except.error e) : x = Except.error e := by
  cases x with
  | error e' =>
      cases h
      rfl
  | ok s => cases h

/-- A statement changes its own table and fails when that table makes it fail. -/
def tables : Parts Statement.exec Part.State Part.Stmt where
  get := Part.get
  part := Part.stmt
  exec' := Part.exec
  moves := by
    intro p t u db db' hpart hstep
    cases t <;> cases p <;> cases hpart <;> rcases map_ok_inv hstep with ⟨s, hs, rfl⟩ <;>
      exact hs
  stays := by
    intro p t db db' hpart hstep
    cases t <;> cases p <;> cases hpart <;> rcases map_ok_inv hstep with ⟨s, hs, rfl⟩ <;> rfl
  fails := by
    intro t db e hstep
    cases t with
    | events st => exact ⟨Part.events, st, rfl, map_error_inv hstep⟩
    | buckets st => exact ⟨Part.buckets, st, rfl, map_error_inv hstep⟩
    | raw st => exact ⟨Part.raw, st, rfl, map_error_inv hstep⟩
    | daily st => exact ⟨Part.daily, st, rfl, map_error_inv hstep⟩

/-!
## A script for each table
-/

def migrateTables (own : String) : (p : Part) -> p.State -> List p.Stmt
  | Part.events => migrateEventsPeer own
  | Part.buckets => migrateBucketsPeer own
  | Part.raw => migrateRawPeer own
  | Part.daily => migrateDailyPeer own

def eventsSchema : List EventsStatement :=
  [EventsStatement.create, EventsStatement.indexTs, EventsStatement.indexPeerTs]

def bucketsSchema : List BucketsStatement :=
  [BucketsStatement.create, BucketsStatement.indexWindow]

def rawSchema : List RawStatement :=
  [RawStatement.create, RawStatement.indexTs]

def schemaOf : (p : Part) -> List p.Stmt
  | Part.events => eventsSchema
  | Part.buckets => bucketsSchema
  | Part.raw => rawSchema
  | Part.daily => [DailyStatement.create]

theorem seen_put (p q : Part) (ts : List q.Stmt) :
    tables.seen p (ts.map q.put) = if h : q = p then h ▸ ts else [] := by
  by_cases hsame : q = p
  · subst hsame
    rw [dif_pos rfl]
    apply tables.seen_map
    cases q <;> exact fun _ => rfl
  · rw [dif_neg hsame]
    apply tables.seen_other
    cases p <;> cases q <;> first | exact absurd rfl hsame | exact fun _ => rfl

theorem seen_tables (p : Part) (ts : forall q : Part, List q.Stmt) :
    tables.seen p ((ts Part.events).map Part.events.put ++
        (ts Part.buckets).map Part.buckets.put ++ (ts Part.raw).map Part.raw.put ++
        (ts Part.daily).map Part.daily.put) = ts p := by
  rw [tables.seen_append, tables.seen_append, tables.seen_append, seen_put, seen_put, seen_put,
    seen_put]
  cases p <;> simp

def onEvents (ts : List EventsStatement) : (p : Part) -> List p.Stmt
  | Part.events => ts
  | Part.buckets => []
  | Part.raw => []
  | Part.daily => []

def onRaw (ts : List RawStatement) : (p : Part) -> List p.Stmt
  | Part.events => []
  | Part.buckets => []
  | Part.raw => ts
  | Part.daily => []

theorem seen_events (p : Part) (ts : List EventsStatement) :
    tables.seen p (ts.map Statement.events) = onEvents ts p := by
  apply (seen_put p Part.events ts).trans
  cases p <;> rfl

theorem seen_raw (p : Part) (ts : List RawStatement) :
    tables.seen p (ts.map Statement.raw) = onRaw ts p := by
  apply (seen_put p Part.raw ts).trans
  cases p <;> rfl

/-- The constructor's phases, with what each table sees of them. -/
def initScript (own : String) : List tables.Phase :=
  [{ run := migratePeerNodeIdColumn own
     parts := migrateTables own
     agree := by
       intro p db
       exact seen_tables p (fun q => migrateTables own q (q.get db)) },
   { run := fun _ => schema
     parts := fun p _ => schemaOf p
     agree := by
       intro p db
       cases p <;> rfl },
   { run := fun db => (migrateEventTimestamps db.events).map Statement.events
     parts := fun
       | Part.events => migrateEventTimestamps
       | _ => fun _ => []
     agree := by
       intro p db
       rw [seen_events]
       cases p <;> rfl },
   { run := fun _ => migrateEventDedupe.map Statement.events
     parts := fun
       | Part.events => fun _ => migrateEventDedupe
       | _ => fun _ => []
     agree := by
       intro p db
       rw [seen_events]
       cases p <;> rfl },
   { run := fun db => (migrateSnapshotSeq own db.raw).map Statement.raw
     parts := fun
       | Part.raw => migrateSnapshotSeq own
       | _ => fun _ => []
     agree := by
       intro p db
       rw [seen_raw]
       cases p <;> rfl }]

theorem whole_initScript (ownNodeId : String) :
    Parts.whole (initScript (ownOf ownNodeId)) = initPhases ownNodeId := rfl

def eventsTail : List (Option EventsTable -> List EventsStatement) :=
  [migrateEventTimestamps, fun _ => migrateEventDedupe, fun _ => []]

def eventsPhases (own : String) : List (Option EventsTable -> List EventsStatement) :=
  migrateEventsPeer own :: (fun _ => eventsSchema) :: eventsTail

def bucketsPhases (own : String) : List (Option BucketsTable -> List BucketsStatement) :=
  [migrateBucketsPeer own, fun _ => bucketsSchema, fun _ => [], fun _ => [], fun _ => []]

def rawPhases (own : String) : List (RawTables -> List RawStatement) :=
  [migrateRawPeer own, fun _ => rawSchema, fun _ => [], fun _ => [], migrateSnapshotSeq own]

def dailyPhases (own : String) : List (DailyTables -> List DailyStatement) :=
  [migrateDailyPeer own, fun _ => [DailyStatement.create], fun _ => [], fun _ => [],
    fun _ => []]

def phasesOf (own : String) : (p : Part) -> List (p.State -> List p.Stmt)
  | Part.events => eventsPhases own
  | Part.buckets => bucketsPhases own
  | Part.raw => rawPhases own
  | Part.daily => dailyPhases own

theorem ofPart_initScript (own : String) (p : Part) :
    Parts.ofPart (initScript own) p = phasesOf own p := by
  cases p <;> rfl

/-!
## Rows of `events`
-/

theorem isStale_iff {ts : Int} : isStale ts = true <-> 0 < ts ∧ ts < 100000000000 :=
  decide_eq_true_iff

/-- A time that is still taken for seconds after it has been scaled. -/
def Young (ts : Int) : Prop :=
  0 < ts ∧ ts < 100000000

instance (ts : Int) : Decidable (Young ts) :=
  inferInstanceAs (Decidable (0 < ts ∧ ts < 100000000))

theorem isStale_toMs (ts : Int) : isStale (toMs ts) = true <-> Young ts := by
  unfold toMs Young
  rw [isStale_iff]
  by_cases hstale : isStale ts = true
  · rw [if_pos hstale]
    rw [isStale_iff] at hstale
    omega
  · rw [if_neg hstale]
    rw [isStale_iff] at hstale
    omega

theorem toMs_of_not_stale {ts : Int} (h : isStale ts = false) : toMs ts = ts := by
  unfold toMs
  rw [h]
  rfl

theorem map_scaled_of_fresh {rows : List EventRow}
    (h : forall r, r ∈ rows -> isStale r.ts = false) : rows.map scaled = rows := by
  have hid : rows.map scaled = rows.map id := by
    apply List.map_congr_left
    intro r hr
    unfold scaled
    rw [toMs_of_not_stale (h r hr)]
    rfl
  rw [hid, List.map_id]

theorem mem_keys_dedupe {rows : List EventRow} {k : String × Int × String × String} :
    k ∈ (dedupe rows).map eventKey <-> k ∈ rows.map eventKey := by
  unfold dedupe
  rw [keys_insertMany]
  simp

theorem nodup_dedupe (rows : List EventRow) : ((dedupe rows).map eventKey).Nodup :=
  nodup_insertMany rows List.nodup_nil

theorem dedupe_of_nodup {rows : List EventRow} (h : (rows.map eventKey).Nodup) :
    dedupe rows = rows :=
  insertMany_nil h

/-- Some row has a time iff some key has it, so the rows dropped do not matter. -/
theorem dedupe_fresh_iff (rows : List EventRow) :
    (forall r, r ∈ dedupe rows -> isStale r.ts = false) <->
      forall r, r ∈ rows -> isStale r.ts = false := by
  have hts : forall rows' : List EventRow, (forall r, r ∈ rows' -> isStale r.ts = false) <->
      forall k, k ∈ rows'.map eventKey -> isStale k.2.1 = false := by
    intro rows'
    simp [eventKey]
  rw [hts, hts]
  simp only [mem_keys_dedupe]

/-- A row that is scaled moves up, so the lowest stale time is gone afterwards. -/
theorem no_stale_of_keys {rows : List EventRow}
    (h : forall k, k ∈ rows.map eventKey -> k ∈ (rows.map scaled).map eventKey) (n : Nat) :
    forall r, r ∈ rows -> r.ts = n -> isStale r.ts = false := by
  induction n using Nat.strong_induction_on with
  | h n ih =>
      intro r hr hn
      cases hstale : isStale r.ts with
      | false => rfl
      | true =>
          exfalso
          have hkey := h (eventKey r) (List.mem_map_of_mem hr)
          rw [List.map_map, List.mem_map] at hkey
          rcases hkey with ⟨r', hr', heq⟩
          have hts : toMs r'.ts = r.ts := congrArg (fun k => k.2.1) heq
          have hrange := isStale_iff.mp hstale
          cases hstale' : isStale r'.ts with
          | false =>
              rw [toMs_of_not_stale hstale'] at hts
              rw [hts, hstale] at hstale'
              cases hstale'
          | true =>
              have hrange' := isStale_iff.mp hstale'
              have hlower := ih r'.ts.toNat (by
                unfold toMs at hts
                rw [if_pos hstale'] at hts
                omega) r' hr' (by omega)
              rw [hlower] at hstale'
              cases hstale'

/-- Scaling is undone by nothing: it leaves the rows as they are only if none is stale. -/
theorem dedupe_scaled_iff (rows : List EventRow) :
    dedupe (rows.map scaled) = dedupe rows <->
      forall r, r ∈ rows -> isStale r.ts = false := by
  constructor
  · intro h r hr
    cases hstale : isStale r.ts with
    | false => rfl
    | true =>
        have hrange := isStale_iff.mp hstale
        rw [← hstale]
        apply no_stale_of_keys _ r.ts.toNat r hr (by omega)
        intro k hk
        rw [← mem_keys_dedupe, h, mem_keys_dedupe]
        exact hk
  · intro h
    rw [map_scaled_of_fresh h]

/-!
## Opening: `events`
-/

/-- The table the constructor makes of rows that have their node ids. -/
def settled (rows : List EventRow) : Option EventsTable :=
  some (EventsTable.keyed (dedupe (rows.map scaled)) true true true)

theorem staleCount_pos_iff {rows : List EventRow} {byTs byPeerTs unique : Bool} :
    0 < staleCount (some (EventsTable.keyed rows byTs byPeerTs unique)) <->
      exists r, r ∈ rows ∧ isStale r.ts = true := by
  unfold staleCount
  rw [List.countP_pos_iff]

theorem migrateEventTimestamps_stale {rows : List EventRow} {byTs byPeerTs unique : Bool}
    (hstale : exists r, r ∈ rows ∧ isStale r.ts = true) :
    migrateEventTimestamps (some (EventsTable.keyed rows byTs byPeerTs unique)) =
      [EventsStatement.scaleTs] :=
  if_pos (staleCount_pos_iff.mpr hstale)

theorem migrateEventTimestamps_fresh {rows : List EventRow} {byTs byPeerTs unique : Bool}
    (hfresh : forall r, r ∈ rows -> isStale r.ts = false) :
    migrateEventTimestamps (some (EventsTable.keyed rows byTs byPeerTs unique)) = [] := by
  apply if_neg
  rw [staleCount_pos_iff]
  intro h
  rcases h with ⟨r, hr, hstale⟩
  rw [hfresh r hr] at hstale
  cases hstale

theorem not_collides_of_fresh {rows : List EventRow}
    (hfresh : forall r, r ∈ rows -> isStale r.ts = false) : ¬ Collides rows := by
  intro h
  rcases h with ⟨r, hr, hstale, _⟩
  rw [hfresh r hr] at hstale
  cases hstale

theorem scaleTs_ok {rows : List EventRow} {byTs byPeerTs unique : Bool}
    (hfree : ¬ (unique = true ∧ Collides rows)) :
    EventsStatement.scaleTs.exec (some (EventsTable.keyed rows byTs byPeerTs unique)) =
      Except.ok (some (EventsTable.keyed (rows.map scaled) byTs byPeerTs unique)) :=
  if_neg hfree

theorem scaleTs_error {rows : List EventRow} {byTs byPeerTs unique : Bool}
    (hcollides : unique = true ∧ Collides rows) :
    EventsStatement.scaleTs.exec (some (EventsTable.keyed rows byTs byPeerTs unique)) =
      Except.error SqlError.integrityError :=
  if_pos hcollides

theorem indexUnique_ok {rows : List EventRow} (hnodup : (rows.map eventKey).Nodup)
    (byTs byPeerTs unique : Bool) :
    EventsStatement.indexUnique.exec (some (EventsTable.keyed rows byTs byPeerTs unique)) =
      Except.ok (some (EventsTable.keyed rows byTs byPeerTs true)) := by
  cases unique with
  | false => exact if_pos hnodup
  | true => rfl

theorem execAll_dedupe (rows : List EventRow) (byTs byPeerTs unique : Bool) :
    execAll EventsStatement.exec migrateEventDedupe
        (some (EventsTable.keyed rows byTs byPeerTs unique)) =
      Except.ok (some (EventsTable.keyed (dedupe rows) byTs byPeerTs true)) := by
  show execAll EventsStatement.exec [EventsStatement.indexUnique]
    (some (EventsTable.keyed (dedupe rows) byTs byPeerTs unique)) = _
  rw [execAll_cons_ok (indexUnique_ok (nodup_dedupe rows) byTs byPeerTs unique)]
  rfl

theorem fresh_of_no_stale {rows : List EventRow}
    (h : ¬ exists r, r ∈ rows ∧ isStale r.ts = true) :
    forall r, r ∈ rows -> isStale r.ts = false := by
  intro r hr
  rw [← Bool.not_eq_true]
  intro hstale
  exact h ⟨r, hr, hstale⟩

theorem execAll_timestamps_stale {rows : List EventRow} {byTs byPeerTs unique : Bool}
    (hstale : exists r, r ∈ rows ∧ isStale r.ts = true)
    (hfree : ¬ (unique = true ∧ Collides rows)) :
    execAll EventsStatement.exec
        (migrateEventTimestamps (some (EventsTable.keyed rows byTs byPeerTs unique)))
        (some (EventsTable.keyed rows byTs byPeerTs unique)) =
      Except.ok (some (EventsTable.keyed (rows.map scaled) byTs byPeerTs unique)) := by
  rw [migrateEventTimestamps_stale hstale, execAll_cons_ok (scaleTs_ok hfree)]
  rfl

theorem execAll_timestamps_fresh {rows : List EventRow} {byTs byPeerTs unique : Bool}
    (hfresh : forall r, r ∈ rows -> isStale r.ts = false) :
    execAll EventsStatement.exec
        (migrateEventTimestamps (some (EventsTable.keyed rows byTs byPeerTs unique)))
        (some (EventsTable.keyed rows byTs byPeerTs unique)) =
      Except.ok (some (EventsTable.keyed rows byTs byPeerTs unique)) := by
  rw [migrateEventTimestamps_fresh hfresh]
  rfl

theorem runScript_eventsTail (rows : List EventRow) (byTs byPeerTs unique : Bool) :
    runScript EventsStatement.exec eventsTail
        (some (EventsTable.keyed rows byTs byPeerTs unique)) =
      if unique = true ∧ Collides rows then Except.error SqlError.integrityError
      else Except.ok
        (some (EventsTable.keyed (dedupe (rows.map scaled)) byTs byPeerTs true)) := by
  unfold eventsTail
  by_cases hstale : exists r, r ∈ rows ∧ isStale r.ts = true
  · by_cases hcollides : unique = true ∧ Collides rows
    · rw [if_pos hcollides]
      apply runScript_cons_error
      rw [migrateEventTimestamps_stale hstale, execAll, scaleTs_error hcollides]
    · rw [if_neg hcollides, runScript_cons_ok (execAll_timestamps_stale hstale hcollides),
        runScript_cons_ok (execAll_dedupe _ byTs byPeerTs unique)]
      rfl
  · have hfresh := fresh_of_no_stale hstale
    rw [if_neg (fun h => not_collides_of_fresh hfresh h.right), map_scaled_of_fresh hfresh,
      runScript_cons_ok (execAll_timestamps_fresh hfresh),
      runScript_cons_ok (execAll_dedupe rows byTs byPeerTs unique)]
    rfl

/-- Rows that have their node ids: the constructor raises, or it settles them. -/
theorem open_events_keyed (own : String) (rows : List EventRow)
    (byTs byPeerTs unique : Bool) :
    runScript EventsStatement.exec (eventsPhases own)
        (some (EventsTable.keyed rows byTs byPeerTs unique)) =
      if unique = true ∧ Collides rows then Except.error SqlError.integrityError
      else Except.ok (settled rows) := by
  unfold eventsPhases
  rw [runScript_cons_ok (m := some (EventsTable.keyed rows byTs byPeerTs unique)) rfl,
    runScript_cons_ok (m := some (EventsTable.keyed rows true true unique)) rfl,
    runScript_eventsTail]
  rfl

theorem open_events_none (own : String) :
    runScript EventsStatement.exec (eventsPhases own) none = Except.ok (settled []) := by
  unfold eventsPhases
  rw [runScript_cons_ok (m := none) rfl,
    runScript_cons_ok (m := some (EventsTable.keyed [] true true false)) rfl,
    runScript_eventsTail]
  rfl

theorem fill_under (own : String) (rows : List PlainEvent) :
    (rows.map (PlainEvent.under "")).map (EventRow.fill own) =
      rows.map (PlainEvent.under own) := by
  rw [List.map_map]
  rfl

theorem open_events_plain (own : String) (rows : List PlainEvent) (byTs : Bool) :
    runScript EventsStatement.exec (eventsPhases own) (some (EventsTable.plain rows byTs)) =
      Except.ok (settled (rows.map (PlainEvent.under own))) := by
  unfold eventsPhases
  rw [runScript_cons_ok
      (m := some (EventsTable.keyed ((rows.map (PlainEvent.under "")).map (EventRow.fill own))
        byTs false false)) rfl,
    fill_under,
    runScript_cons_ok
      (m := some (EventsTable.keyed (rows.map (PlainEvent.under own)) true true false)) rfl,
    runScript_eventsTail]
  rfl

/-- A settled table is settled again exactly when no time in it is stale. -/
theorem settled_iff {rows : List EventRow} :
    settled rows = some (EventsTable.keyed (dedupe rows) true true true) <->
      forall r, r ∈ rows -> isStale r.ts = false := by
  rw [← dedupe_scaled_iff]
  simp [settled]

/-- Opening a keyed table only deduplicates it, exactly when no time in it is stale. -/
theorem reopen_events_iff (own : String) (rows : List EventRow) (byTs byPeerTs unique : Bool) :
    runScript EventsStatement.exec (eventsPhases own)
        (some (EventsTable.keyed rows byTs byPeerTs unique)) =
        Except.ok (some (EventsTable.keyed (dedupe rows) true true true)) <->
      forall r, r ∈ rows -> isStale r.ts = false := by
  rw [open_events_keyed]
  constructor
  · intro h
    by_cases hcollides : unique = true ∧ Collides rows
    · rw [if_pos hcollides] at h
      cases h
    · rw [if_neg hcollides] at h
      exact settled_iff.mp (Except.ok.inj h)
  · intro h
    rw [if_neg (fun hcollides => not_collides_of_fresh h hcollides.right),
      settled_iff.mpr h]

end Store
end PanicMonitr
