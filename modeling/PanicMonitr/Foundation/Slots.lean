import Mathlib.Data.List.Nodup
import Mathlib.Data.List.Perm.Basic

/-!
# Slots

A list of empty slots that a loop fills by index, and the classes a list falls into when
each element belongs to one slot.
-/

namespace PanicMonitr
namespace Foundation

variable {elem item key : Type _}

/-!
## Filling
-/

section Filling

variable (slot : item -> Nat) (value : item -> elem)

/-- `xs[slot(item)] = value(item)` for one item after the other. -/
def fillSlots (items : List item) (xs : List elem) : List elem :=
  items.foldl (fun xs item => xs.set (slot item) (value item)) xs

theorem fillSlots_of_not_mem {items : List item} {i : Nat} (hi : i ∉ items.map slot)
    (xs : List elem) : (fillSlots slot value items xs)[i]? = xs[i]? := by
  unfold fillSlots
  induction items generalizing xs with
  | nil => rfl
  | cons item items ih =>
      rw [List.map_cons, List.mem_cons, not_or] at hi
      rw [List.foldl_cons, ih hi.right, List.getElem?_set_ne (Ne.symm hi.left)]

theorem fillSlots_of_mem {items : List item} (hnodup : (items.map slot).Nodup) {x : item}
    (hx : x ∈ items) {xs : List elem} (hslot : slot x < xs.length) :
    (fillSlots slot value items xs)[slot x]? = some (value x) := by
  induction items generalizing xs with
  | nil => cases hx
  | cons item items ih =>
      rw [List.map_cons, List.nodup_cons] at hnodup
      show (fillSlots slot value items (xs.set (slot item) (value item)))[slot x]? = _
      rcases List.mem_cons.mp hx with rfl | htail
      · rw [fillSlots_of_not_mem slot value hnodup.left, List.getElem?_set_self hslot]
      · exact ih hnodup.right htail (by rw [List.length_set]; exact hslot)

end Filling

/-!
## Classes
-/

section Classes

variable [DecidableEq key] (f : elem -> key)

/-- The elements of one class, in their order. -/
def classOf (xs : List elem) (k : key) : List elem :=
  xs.filter (fun x => decide (f x = k))

theorem classOf_filter_ne {k k' : key} (hne : k' ≠ k) (xs : List elem) :
    classOf f (xs.filter (fun x => !decide (f x = k))) k' = classOf f xs k' := by
  unfold classOf
  rw [List.filter_filter]
  apply List.filter_congr
  intro x _
  by_cases hx : f x = k'
  · simp [hx, hne]
  · simp [hx]

theorem flatMap_classOf_perm {ks : List key} (hnodup : ks.Nodup) {xs : List elem}
    (hcover : forall x, x ∈ xs -> f x ∈ ks) : (ks.flatMap (classOf f xs)).Perm xs := by
  induction ks generalizing xs with
  | nil =>
      have hnil : xs = [] := List.eq_nil_iff_forall_not_mem.mpr (fun x hx => nomatch hcover x hx)
      rw [hnil]
      exact List.Perm.nil
  | cons k ks ih =>
      rcases List.nodup_cons.mp hnodup with ⟨hfresh, hnodup⟩
      have hrest : ks.flatMap (classOf f xs) =
          ks.flatMap (classOf f (xs.filter (fun x => !decide (f x = k)))) := by
        apply List.flatMap_congr
        intro k' hk'
        have hne : k' ≠ k := fun heq => hfresh (heq ▸ hk')
        exact (classOf_filter_ne f hne xs).symm
      have hcover' : forall x, x ∈ xs.filter (fun x => !decide (f x = k)) -> f x ∈ ks := by
        intro x hx
        rcases List.mem_filter.mp hx with ⟨hin, hnot⟩
        rcases List.mem_cons.mp (hcover x hin) with heq | htail
        · simp [heq] at hnot
        · exact htail
      rw [List.flatMap_cons, hrest]
      exact ((ih hnodup hcover').append_left _).trans (List.filter_append_perm _ xs)

end Classes

end Foundation
end PanicMonitr
