import PanicMonitr.Store.Opening

/-!
# A crash among the events

What a second start makes of an `events` table after a first one was cut off.  The guards
ask whether the column and the index are there, so rows whose node id has not been filled
in keep the empty one; and a time that has been scaled once may look as if it had not.
-/

namespace PanicMonitr
namespace Store

open Foundation

/-!
## Safe points
-/

theorem fresh_scaled_iff (rows : List EventRow) :
    (forall r, r ∈ rows.map scaled -> isStale r.ts = false) <->
      forall r, r ∈ rows -> ¬ Young r.ts := by
  simp only [List.forall_mem_map, ← isStale_toMs, Bool.not_eq_true]
  rfl

section Tail

variable {rows : List EventRow} {unique : Bool}

end Tail

end Store
end PanicMonitr
