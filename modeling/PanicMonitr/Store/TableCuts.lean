import PanicMonitr.Store.Opening

/-!
# A crash among the other tables

What a second start makes of the buckets, the snapshots and the daily summaries.  A table
that was renamed is not looked for again, a table that has its new column is taken for
done, and an index of the right name for the right index.
-/

namespace PanicMonitr
namespace Store

open Foundation

/-!
## `stat_buckets`
-/

section Buckets

variable {own : String}

end Buckets

/-!
## `raw_snapshots`
-/

section Raw

variable {own : String}

end Raw

/-!
## `daily_summaries`
-/

section Daily

variable {own : String}

end Daily

end Store
end PanicMonitr
