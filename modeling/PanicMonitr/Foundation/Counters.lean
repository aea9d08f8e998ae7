import Mathlib.Data.List.Basic
import Mathlib.Algebra.BigOperators.Group.List.Basic
import Mathlib.Algebra.Order.Ring.Int

/-!
# Readings of a cumulative counter

How far a counter moves over a list of readings, and how that splits into the movement
inside consecutive groups of readings and the movement between them.
-/

namespace PanicMonitr
namespace Foundation

/-- Last reading minus first. -/
def spread (xs : List Int) : Int :=
  xs.getLast?.getD 0 - xs.head?.getD 0

/-- From the last reading of each group to the first of the next, starting at a reading. -/
def crossing : Option Int -> List (List Int) -> Int
  | _, [] => 0
  | last, [] :: groups => crossing last groups
  | last, (x :: xs) :: groups =>
      (x - last.getD x) + crossing (some ((x :: xs).getLast (List.cons_ne_nil x xs))) groups

theorem getLast?_flatten_cons (x : Int) (xs : List Int) (groups : List (List Int)) (d : Int) :
    (((x :: xs) :: groups).flatten.getLast?).getD d =
      (groups.flatten.getLast?).getD ((x :: xs).getLast (List.cons_ne_nil x xs)) := by
  rw [List.flatten_cons, List.getLast?_append, List.getLast?_eq_some_getLast
    (List.cons_ne_nil x xs)]
  cases groups.flatten.getLast? with
  | none => rfl
  | some y => rfl

theorem spread_add_crossing_some (groups : List (List Int)) (last : Int) :
    (groups.map spread).sum + crossing (some last) groups =
      (groups.flatten.getLast?).getD last - last := by
  induction groups generalizing last with
  | nil =>
      show (0 : Int) + 0 = last - last
      omega
  | cons group groups ih =>
      cases group with
      | nil =>
          rw [List.map_cons, List.sum_cons, List.flatten_cons, List.nil_append, ← ih last]
          show (0 - 0) + _ + crossing (some last) groups = _
          omega
      | cons x xs =>
          have hrest := ih ((x :: xs).getLast (List.cons_ne_nil x xs))
          rw [getLast?_flatten_cons, List.map_cons, List.sum_cons, crossing, spread,
            List.getLast?_eq_some_getLast (List.cons_ne_nil x xs)]
          show _ - x + _ + (x - last + _) = _
          rw [Option.getD_some]
          omega

theorem spread_add_crossing (groups : List (List Int)) :
    (groups.map spread).sum + crossing none groups = spread groups.flatten := by
  induction groups with
  | nil => rfl
  | cons group groups ih =>
      cases group with
      | nil =>
          rw [List.map_cons, List.sum_cons, List.flatten_cons, List.nil_append, ← ih]
          show (0 - 0) + _ + crossing none groups = _
          omega
      | cons x xs =>
          have hrest := spread_add_crossing_some groups
            ((x :: xs).getLast (List.cons_ne_nil x xs))
          have hlast := getLast?_flatten_cons x xs groups 0
          have hgroup : spread (x :: xs) =
              (x :: xs).getLast (List.cons_ne_nil x xs) - x := by
            rw [spread, List.getLast?_eq_some_getLast (List.cons_ne_nil x xs)]
            rfl
          rw [List.map_cons, List.sum_cons, crossing, hgroup]
          show _ + (x - x + _) = (((x :: xs) :: groups).flatten.getLast?).getD 0 - x
          rw [hlast]
          omega

theorem spread_nonneg {xs : List Int} (hsorted : xs.Pairwise (fun a b => a <= b)) :
    0 <= spread xs := by
  cases xs with
  | nil => exact Int.le_refl 0
  | cons x xs =>
      rw [spread, List.getLast?_eq_some_getLast (List.cons_ne_nil x xs)]
      show 0 <= (x :: xs).getLast _ - x
      have hlast := List.getLast_mem (List.cons_ne_nil x xs)
      rcases List.mem_cons.mp hlast with hhead | htail
      · omega
      · have hle := (List.pairwise_cons.mp hsorted).left _ htail
        omega

theorem crossing_nonneg {groups : List (List Int)}
    (hsorted : groups.flatten.Pairwise (fun a b => a <= b)) {last : Option Int}
    (hlast : forall l, last = some l -> forall x, x ∈ groups.flatten -> l <= x) :
    0 <= crossing last groups := by
  induction groups generalizing last with
  | nil => exact Int.le_refl 0
  | cons group groups ih =>
      cases group with
      | nil => exact ih hsorted hlast
      | cons x xs =>
          rw [List.flatten_cons] at hsorted hlast
          rcases List.pairwise_append.mp hsorted with ⟨_, hgroups, hacross⟩
          have hrest : 0 <= crossing (some ((x :: xs).getLast (List.cons_ne_nil x xs)))
              groups := by
            apply ih hgroups
            intro l hl y hy
            rw [← Option.some.inj hl]
            exact hacross _ (List.getLast_mem _) y hy
          have hfirst : 0 <= x - last.getD x := by
            cases last with
            | none =>
                show 0 <= x - x
                omega
            | some l =>
                have hle := hlast l rfl x (List.mem_append_left _ List.mem_cons_self)
                show 0 <= x - l
                omega
          rw [crossing]
          omega

end Foundation
end PanicMonitr
