import PanicMonitr.Store.Atomicity
import PanicMonitr.Store.EventCuts

/-!
# Opening a store again

A store is closed after any run of the current version and opened again on the same file.
The tables have their columns and their indexes, so the constructor leaves all of them
alone but the events: times below 10^11 milliseconds are taken for seconds, whoever wrote
them and however often they have been scaled.
-/

namespace PanicMonitr
namespace Store

open Foundation

/-!
## Runs of a store
-/

/-- How the rows of the roll-ups are stored. -/
structure Writing (V : Type) where
  bucket : StatBucket V -> PeerBucket
  day : DailyRow V -> PeerDay

inductive Operation where
  | recordEvent (event : String) (detail : Option String) (now : Instant)
  | recordSnapshot (snap : Json) (now : Instant)
  | rollUp5min (now : Instant)
  | rollHourly (now : Instant)
  | rollDaily (now : Instant)
  | prune (now : Instant)
  | merge (peerNodeId : String) (payload : Json)

def tableRowKey (r : TableRow) : String × Int :=
  snapshotKey r.snapshot

section Runs

variable {V : Type} [LinearOrder V] (rt : Runtime) (ownNodeId : String) (read : Reading V)
  (write : Writing V) (mean : List V -> V) (readable : EventRow -> Bool)

/-- A call on a store with these tables; the queries of the roll-ups read them. -/
def Tables.run (t : Tables) : Operation -> Tables
  | Operation.recordEvent event detail now =>
      { t with
        events := (Store.recordEvent event detail now (t.logStore ownNodeId read)).events }
  | Operation.recordSnapshot snap now =>
      { t with
        raw := insertOrReplace tableRowKey t.raw
          { snapshot := { peerNodeId := ownOf ownNodeId, ts := epochOf now, payload := snap }
            seq := some (nextSeq (ownOf ownNodeId) (t.logStore ownNodeId read)) } }
  | Operation.rollUp5min now =>
      { t with
        buckets := insertMany peerBucketKey t.buckets
          ((fiveMinuteBuckets mean now (t.logStore ownNodeId read)).map write.bucket) }
  | Operation.rollHourly now =>
      { t with
        buckets := insertMany peerBucketKey t.buckets
          ((hourlyRows mean now (t.logStore ownNodeId read)).map write.bucket) }
  | Operation.rollDaily now =>
      { t with
        daily := insertMany dayKey t.daily
          ((dayGroups now (t.logStore ownNodeId read)).map (fun day =>
            write.day (dailyRow mean readable (t.logStore ownNodeId read) day.1 day.2))) }
  | Operation.prune now =>
      { t with
        raw := t.raw.filter (fun r =>
          decide (¬ r.snapshot.ts < epochOf (now - hours RAW_RETAIN_HOURS)))
        buckets := t.buckets.filter (fun b =>
          decide (¬ ((read.bucket b).bucketSize = BUCKET_5MIN_SECS ∧
            b.windowStart < epochOf (now - days BUCKET_5MIN_RETAIN_DAYS)))) }
  | Operation.merge peerNodeId payload =>
      t.ofPeers (mergeJson rt peerNodeId payload t.peers).1

/-- A store as the constructor has opened it, with no time in it that looks like seconds. -/
structure Tables.Opened (t : Tables) : Prop where
  distinct : (t.events.map eventKey).Nodup
  fresh : forall r, r ∈ t.events -> isStale r.ts = false

def recorder : Machine Tables Operation where
  start := Tables.Opened
  step := fun t op => t.run rt ownNodeId read write mean readable op

/-- No event the call may record has a time that looks like seconds. -/
def Timely : Operation -> Prop
  | Operation.recordEvent _ _ now => isStale (now.tdiv 1000) = false
  | Operation.merge peerNodeId payload =>
      forall r, r ∈ (payloadRows rt peerNodeId payload).1.events -> isStale r.ts = false
  | _ => True

/-!
## The events of a run
-/

theorem events_merge (peerNodeId : String) (payload : Json) (s : PeerStore) :
    (mergeJson rt peerNodeId payload s).1.events =
      insertMany eventKey s.events (payloadRows rt peerNodeId payload).1.events := by
  rcases mergeJson_leaves rt peerNodeId payload with hraised | hdone
  · rcases hraised with ⟨e, _, hmerge⟩
    rw [hmerge s]
    rfl
  · rcases hdone with ⟨_, hmerge⟩
    rcases hmerge s with ⟨result, hresult⟩
    rw [hresult]
    rfl

def recordedEvents : Operation -> List EventRow
  | Operation.recordEvent event detail now =>
      [{ peerNodeId := ownOf ownNodeId, ts := now.tdiv 1000, event := event, detail := detail }]
  | Operation.merge peerNodeId payload => (payloadRows rt peerNodeId payload).1.events
  | _ => []

theorem events_run (t : Tables) (op : Operation) :
    (t.run rt ownNodeId read write mean readable op).events =
      insertMany eventKey t.events (recordedEvents rt ownNodeId op) := by
  cases op with
  | merge peerNodeId payload => exact events_merge rt peerNodeId payload t.peers
  | _ => rfl

theorem distinct_run {t : Tables} (hdistinct : (t.events.map eventKey).Nodup)
    (op : Operation) :
    ((t.run rt ownNodeId read write mean readable op).events.map eventKey).Nodup := by
  rw [events_run]
  exact nodup_insertMany _ hdistinct

theorem timely_recordedEvents {op : Operation} (htimely : Timely rt op) :
    forall r, r ∈ recordedEvents rt ownNodeId op -> isStale r.ts = false := by
  intro r hr
  cases op with
  | recordEvent event detail now =>
      rw [List.mem_singleton.mp hr]
      exact htimely
  | merge peerNodeId payload => exact htimely r hr
  | _ => cases hr

theorem opened_run {t : Tables} (hopened : t.Opened) {op : Operation}
    (htimely : Timely rt op) : (t.run rt ownNodeId read write mean readable op).Opened := by
  refine ⟨distinct_run rt ownNodeId read write mean readable hopened.distinct op, ?_⟩
  intro r hr
  rw [events_run] at hr
  rcases of_mem_insertMany hr with hold | hnew
  · exact hopened.fresh r hold
  · exact timely_recordedEvents rt ownNodeId htimely r hnew

theorem reachable_opened {t : Tables}
    (hreach : (recorder rt ownNodeId read write mean readable).Reachable
      (fun _ op => Timely rt op) t) : t.Opened :=
  hreach.invariant (fun _ hstart => hstart) (fun _ _ hopened htimely =>
    opened_run rt ownNodeId read write mean readable hopened htimely)

theorem reachable_distinct {t : Tables}
    (hreach : (recorder rt ownNodeId read write mean readable).Reachable
      (fun _ _ => True) t) : (t.events.map eventKey).Nodup :=
  hreach.invariant (I := fun t => (t.events.map eventKey).Nodup)
    (fun t hstart => (show t.Opened from hstart).distinct)
    (fun _ op hdistinct _ => distinct_run rt ownNodeId read write mean readable hdistinct op)

end Runs

/-!
## Opening the file of a store
-/

/-- The file of a store of the current version; a renamed table may still lie about. -/
structure Holds (db : Database) (t : Tables) : Prop where
  events : db.events = some (EventsTable.keyed t.events true true true)
  buckets : db.buckets = some (BucketsTable.keyed t.buckets (some WindowIndex.byPeerWindow))
  raw : exists rows, db.raw.table = some (RawTable.numbered rows true true) ∧
    rows.map Rowed.row = t.raw
  daily : db.daily.table = some (DailyTable.keyed t.daily)

theorem open_others {db : Database} {t : Tables} (hholds : Holds db t) (own : String) :
    runScript BucketsStatement.exec (bucketsPhases own) db.buckets = Except.ok db.buckets ∧
      runScript RawStatement.exec (rawPhases own) db.raw = Except.ok db.raw ∧
      runScript DailyStatement.exec (dailyPhases own) db.daily = Except.ok db.daily := by
  refine ⟨?_, ?_, ?_⟩
  · rw [hholds.buckets]
    exact open_buckets_indexed own t.buckets WindowIndex.byPeerWindow
  · rcases hholds.raw with ⟨rows, htable, _⟩
    cases hraw : db.raw with
    | mk table legacy =>
        rw [hraw] at htable
        cases (show table = some (RawTable.numbered rows true true) from htable)
        exact open_raw_numbered own rows true true
  · cases hdaily : db.daily with
    | mk table legacy =>
        have htable := hholds.daily
        rw [hdaily] at htable
        cases (show table = some (DailyTable.keyed t.daily) from htable)
        exact open_daily_keyed own t.daily

/-- Opening the file changes nothing exactly when no event looks like one in seconds. -/
theorem reopen_iff {ownNodeId : String} {db : Database} {t : Tables} (hholds : Holds db t)
    (hdistinct : (t.events.map eventKey).Nodup) :
    openStore ownNodeId db = Except.ok db <->
      forall r, r ∈ t.events -> isStale r.ts = false := by
  have hevents : runScript EventsStatement.exec (eventsPhases (ownOf ownNodeId)) db.events =
      Except.ok db.events <-> forall r, r ∈ t.events -> isStale r.ts = false := by
    rw [← reopen_events_iff (ownOf ownNodeId) t.events true true true,
      dedupe_of_nodup hdistinct, hholds.events]
  rw [← hevents]
  constructor
  · intro hopen
    exact openStore_parts hopen Part.events
  · intro hopen
    rcases open_others hholds (ownOf ownNodeId) with ⟨hbuckets, hraw, hdaily⟩
    exact openStore_of_parts hopen hbuckets hraw hdaily

/-- The constructor run twice in a row leaves what it leaves the first time. -/
def OpensTwice (ownNodeId : String) (db : Database) : Prop :=
  exists once, openStore ownNodeId db = Except.ok once ∧
    openStore ownNodeId once = Except.ok once

theorem holds_migrated (own : String) (db : Database) :
    Holds (migrated own db)
      { raw := (numberedUnder own db.raw.table).map Rowed.row
        events := dedupe ((eventsUnder own db.events).map scaled)
        buckets := bucketsUnder own db.buckets
        daily := daysUnder own db.daily.table } :=
  ⟨rfl, rfl, ⟨_, rfl, rfl⟩, rfl⟩

theorem opensTwice_iff {ownNodeId : String} {db : Database} (hlegacy : Legacy db) :
    OpensTwice ownNodeId db <->
      ¬ Blocked db.events ∧
        forall r, r ∈ eventsUnder (ownOf ownNodeId) db.events -> ¬ Young r.ts := by
  have hsecond : openStore ownNodeId (migrated (ownOf ownNodeId) db) =
      Except.ok (migrated (ownOf ownNodeId) db) <->
        forall r, r ∈ eventsUnder (ownOf ownNodeId) db.events -> ¬ Young r.ts := by
    rw [reopen_iff (holds_migrated (ownOf ownNodeId) db) (nodup_dedupe _), dedupe_fresh_iff,
      fresh_scaled_iff]
  rw [← hsecond]
  constructor
  · intro h
    rcases h with ⟨once, honce, htwice⟩
    have hfree := not_blocked_of_open honce
    rw [openStore_legacy hlegacy hfree] at honce
    cases honce
    exact ⟨hfree, htwice⟩
  · intro h
    rcases h with ⟨hfree, htwice⟩
    exact ⟨_, openStore_legacy hlegacy hfree, htwice⟩

/--
A run in which no call records a time that looks like seconds can be closed and opened at
any point with nothing changed; in general this hangs on the times that are stored.  An
old file is opened for good the first time exactly when none of its times, in seconds,
lies so early that its milliseconds look like seconds again.
-/
theorem reopening_changes_nothing {V : Type} [LinearOrder V] (rt : Runtime)
    (ownNodeId : String) (read : Reading V) (write : Writing V) (mean : List V -> V)
    (readable : EventRow -> Bool) :
    (forall t, (recorder rt ownNodeId read write mean readable).Reachable
        (fun _ op => Timely rt op) t ->
      forall db, Holds db t -> openStore ownNodeId db = Except.ok db) ∧
    (forall t, (recorder rt ownNodeId read write mean readable).Reachable
        (fun _ _ => True) t ->
      forall db, Holds db t ->
        (openStore ownNodeId db = Except.ok db <->
          forall r, r ∈ t.events -> isStale r.ts = false)) ∧
    (forall db, Legacy db ->
      (OpensTwice ownNodeId db <->
        ¬ Blocked db.events ∧
          forall r, r ∈ eventsUnder (ownOf ownNodeId) db.events -> ¬ Young r.ts)) := by
  refine ⟨?_, ?_, ?_⟩
  · intro t hreach db hholds
    have hopened := reachable_opened rt ownNodeId read write mean readable hreach
    exact (reopen_iff hholds hopened.distinct).mpr hopened.fresh
  · intro t hreach db hholds
    exact reopen_iff hholds (reachable_distinct rt ownNodeId read write mean readable hreach)
  · intro db hlegacy
    exact opensTwice_iff hlegacy

/-! A node that starts an agent, at three readings of its clock. -/

def noTables : Tables where
  raw := []
  events := []
  buckets := []
  daily := []

def nothingWritten : Writing Int where
  bucket b :=
    { peerNodeId := b.peerNodeId
      windowStart := b.windowStart
      windowEnd := b.windowEnd
      bucketSize := Json.int b.bucketSize
      stats := []
      samples := Json.int b.samples }
  day d := { peerNodeId := d.peerNodeId, date := "", stats := [] }

def plainRecorder : Machine Tables Operation :=
  recorder textRuntime "" nothingRead nothingWritten (fun _ => 0) (fun _ => true)

def agentStarted (seconds : Int) : Operation :=
  Operation.recordEvent "agent_started" none (seconds * microsPerSecond)

/-- The file of a store that has recorded these events and nothing else. -/
def fileOf (t : Tables) : Database where
  events := some (EventsTable.keyed t.events true true true)
  buckets := some (BucketsTable.keyed [] (some WindowIndex.byPeerWindow))
  raw := { table := some (RawTable.numbered [] true true), legacy := none }
  daily := { table := some (DailyTable.keyed []), legacy := none }

theorem opened_noTables : noTables.Opened :=
  ⟨List.nodup_nil, nofun⟩

theorem reopening_changes_nothing_2023 :
    openStore "" (fileOf (plainRecorder.step noTables (agentStarted 1700000000))) =
      Except.ok (fileOf (plainRecorder.step noTables (agentStarted 1700000000))) :=
  (reopening_changes_nothing textRuntime "" nothingRead nothingWritten (fun _ => 0)
    (fun _ => true)).left _
    ((Machine.Reachable.start opened_noTables).step (agentStarted 1700000000) rfl) _
    ⟨rfl, rfl, ⟨_, rfl, rfl⟩, rfl⟩

def earlyTables : Tables :=
  plainRecorder.step noTables (agentStarted 5)

/-- A day after the epoch, and at a thousand times that reading. -/
def collidingTables : Tables :=
  plainRecorder.step (plainRecorder.step noTables (agentStarted 100000))
    (agentStarted 100000000)

/-- An early event is moved by the next start, and two can keep a store from opening. -/
theorem early_events_rewritten :
    plainRecorder.Reachable (fun _ _ => True) earlyTables ∧
      Holds (fileOf earlyTables) earlyTables ∧
      openStore "" (fileOf earlyTables) =
        Except.ok (fileOf (plainRecorder.step noTables (agentStarted 5000))) ∧
      openStore "" (fileOf earlyTables) ≠ Except.ok (fileOf earlyTables) ∧
      plainRecorder.Reachable (fun _ _ => True) collidingTables ∧
      Holds (fileOf collidingTables) collidingTables ∧
      openStore "" (fileOf collidingTables) = Except.error SqlError.integrityError := by
  have hstart : plainRecorder.Reachable (fun _ _ => True) noTables :=
    Machine.Reachable.start opened_noTables
  have hmoved : openStore "" (fileOf earlyTables) =
      Except.ok (fileOf (plainRecorder.step noTables (agentStarted 5000))) := rfl
  refine ⟨hstart.step _ trivial, ⟨rfl, rfl, ⟨_, rfl, rfl⟩, rfl⟩, hmoved, ?_,
    (hstart.step _ trivial).step _ trivial, ⟨rfl, rfl, ⟨_, rfl, rfl⟩, rfl⟩, rfl⟩
  rw [hmoved]
  intro heq
  have htimes := congrArg (fun db => (eventsUnder "" db.events).map EventRow.ts)
    (Except.ok.inj heq)
  revert htimes
  decide

end Store
end PanicMonitr
