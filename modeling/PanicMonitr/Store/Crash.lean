import PanicMonitr.Store.EventCuts
import PanicMonitr.Store.TableCuts

/-!
# A crash during the migration

A start that is cut off leaves its file after some of the constructor's statements, and
the next start goes by the schema it finds.  The tables are independent, so every crash
is one crash for each of them, at a point of its own.
-/

namespace PanicMonitr
namespace Store

open Foundation

/-!
## What has to be there afterwards
-/

/-- Every table has the columns and the indexes of the current version. -/
structure Database.Current (db : Database) : Prop where
  events : exists rows, db.events = some (EventsTable.keyed rows true true true)
  buckets : exists rows,
    db.buckets = some (BucketsTable.keyed rows (some WindowIndex.byPeerWindow))
  raw : exists rows, db.raw.table = some (RawTable.numbered rows true true)
  daily : exists rows, db.daily.table = some (DailyTable.keyed rows)

/-- The rows of an old file are there under the own node id, an event by its key. -/
structure Carried (own : String) (db again : Database) : Prop where
  events : forall r, r ∈ eventsUnder own db.events ->
    eventKey (scaled r) ∈ (eventsUnder own again.events).map eventKey
  buckets : bucketsUnder own again.buckets = bucketsUnder own db.buckets
  snapshots : snapshotsUnder own again.raw.table = snapshotsUnder own db.raw.table
  days : daysUnder own again.daily.table = daysUnder own db.daily.table

end Store
end PanicMonitr
