import Mathlib.Data.List.SplitBy

/-!
# Maximal blocks

A list falls into maximal runs of elements that satisfy a test and of elements that do
not.  A block is one of the runs that do, with the element after it.
-/

namespace PanicMonitr
namespace Foundation

variable {elem : Type _}

structure Block (elem : Type _) where
  first : elem
  more : List elem
  next : Option elem

namespace Block

def elems (b : Block elem) : List elem :=
  b.first :: b.more

def last (b : Block elem) : elem :=
  b.more.getLast?.getD b.first

/-- All elements of the block satisfy the test, and neither neighbour does. -/
structure Maximal (p : elem -> Bool) (xs : List elem) (b : Block elem) : Prop where
  all : forall x, x ∈ b.elems -> p x = true
  next : forall x, x ∈ b.next -> p x = false
  place : exists before after, xs = before ++ b.elems ++ after ∧ after.head? = b.next ∧
    forall x, x ∈ before.getLast? -> p x = false

end Block

/-- The blocks among the runs of a list. -/
def blocksOf (p : elem -> Bool) : List (List elem) -> List (Block elem)
  | [] => []
  | [] :: groups => blocksOf p groups
  | (first :: more) :: groups =>
      if p first then
        { first := first, more := more, next := groups.flatten.head? } :: blocksOf p groups
      else blocksOf p groups

def maximalBlocks (p : elem -> Bool) (xs : List elem) : List (Block elem) :=
  blocksOf p (xs.splitBy (fun x y => p x == p y))

/-!
## Alternating runs
-/

/-- Nonempty runs that satisfy the test and fail it in turn; the first has the given kind. -/
inductive AlternateRuns (p : elem -> Bool) : Bool -> List (List elem) -> Prop where
  | nil (kind : Bool) : AlternateRuns p kind []
  | cons {kind : Bool} {first : elem} {more : List elem} {groups : List (List elem)} :
      (forall x, x ∈ first :: more -> p x = kind) -> AlternateRuns p (!kind) groups ->
        AlternateRuns p kind ((first :: more) :: groups)

theorem kind_of_isChain {p : elem -> Bool} {first : elem} {more : List elem}
    (h : (first :: more).IsChain (fun x y => (p x == p y) = true)) :
    forall x, x ∈ first :: more -> p x = p first := by
  induction more generalizing first with
  | nil =>
      intro x hx
      rw [List.mem_singleton.mp hx]
  | cons second more ih =>
      rcases List.isChain_cons_cons.mp h with ⟨hsame, hrest⟩
      intro x hx
      rcases List.mem_cons.mp hx with rfl | hx
      · rfl
      · rw [ih hrest x hx, eq_of_beq hsame]

theorem alternateRuns_of_isChain {p : elem -> Bool} {groups : List (List elem)}
    (hnil : [] ∉ groups)
    (hsame : forall group, group ∈ groups -> group.IsChain (fun x y => (p x == p y) = true))
    (hturn : groups.IsChain
      (fun g g' => exists hg hg', (p (g.getLast hg) == p (g'.head hg')) = false)) :
    exists kind, AlternateRuns p kind groups := by
  induction groups with
  | nil => exact ⟨true, AlternateRuns.nil true⟩
  | cons group groups ih =>
      cases group with
      | nil => exact absurd (List.mem_cons_self ..) hnil
      | cons first more =>
          have hkind := kind_of_isChain (hsame _ (List.mem_cons_self ..))
          refine ⟨p first, AlternateRuns.cons hkind ?_⟩
          rcases ih (fun h => hnil (List.mem_cons_of_mem _ h))
            (fun g hg => hsame g (List.mem_cons_of_mem _ hg)) hturn.tail with ⟨kind, halt⟩
          cases halt with
          | nil => exact AlternateRuns.nil _
          | @cons _ first' more' groups' hkind' hrest =>
              rcases List.isChain_cons_cons.mp hturn with ⟨⟨hg, hg', hdiffer⟩, _⟩
              have hlast : p ((first :: more).getLast hg) = p first :=
                hkind _ (List.getLast_mem hg)
              have hhead : p ((first' :: more').head hg') = kind :=
                hkind' _ (List.head_mem hg')
              rw [hlast, hhead] at hdiffer
              have hturned : kind = !p first := by
                revert hdiffer
                cases kind <;> cases p first <;> simp
              rw [← hturned]
              exact AlternateRuns.cons hkind' hrest

theorem alternateRuns_splitBy (p : elem -> Bool) (xs : List elem) :
    exists kind, AlternateRuns p kind (xs.splitBy (fun x y => p x == p y)) := by
  apply alternateRuns_of_isChain
  · exact List.nil_notMem_splitBy _ xs
  · intro group hgroup
    exact List.isChain_of_mem_splitBy hgroup
  · exact List.isChain_getLast_head_splitBy (fun x y => p x == p y) xs

/-!
## The blocks of alternating runs
-/

section Alternating

variable {p : elem -> Bool} {kind : Bool} {groups : List (List elem)}

theorem blocksOf_cons_true {first : elem} {more : List elem} (h : p first = true) :
    blocksOf p ((first :: more) :: groups) =
      { first := first, more := more, next := groups.flatten.head? } :: blocksOf p groups :=
  if_pos h

theorem blocksOf_cons_false {first : elem} {more : List elem} (h : p first = false) :
    blocksOf p ((first :: more) :: groups) = blocksOf p groups :=
  if_neg (by rw [h]; exact Bool.false_ne_true)

theorem AlternateRuns.head {x : elem} (h : AlternateRuns p kind groups)
    (hx : x ∈ groups.flatten.head?) : p x = kind := by
  cases h with
  | nil => cases hx
  | @cons _ first more groups hkind _ =>
      cases hx
      exact hkind x (List.mem_cons_self ..)

/-- The blocks hold exactly the elements that satisfy the test, in their order. -/
theorem AlternateRuns.flatMap_blocksOf (h : AlternateRuns p kind groups) :
    (blocksOf p groups).flatMap Block.elems = groups.flatten.filter p := by
  induction h with
  | nil => rfl
  | @cons kind first more groups hkind _ ih =>
      have hfirst := hkind first (List.mem_cons_self ..)
      rw [List.flatten_cons, List.filter_append]
      cases kind with
      | true =>
          rw [blocksOf_cons_true hfirst, List.flatMap_cons, ih, List.filter_eq_self.mpr hkind]
          rfl
      | false =>
          have hnone : (first :: more).filter p = [] :=
            List.filter_eq_nil_iff.mpr (fun x hx => by rw [hkind x hx]; exact Bool.false_ne_true)
          rw [blocksOf_cons_false hfirst, ih, hnone, List.nil_append]

theorem AlternateRuns.maximal (h : AlternateRuns p kind groups) {before : List elem}
    (hbefore : forall x, x ∈ before.getLast? -> p x = !kind) {b : Block elem}
    (hb : b ∈ blocksOf p groups) : b.Maximal p (before ++ groups.flatten) := by
  induction h generalizing before with
  | nil => cases hb
  | @cons kind first more groups hkind hrest ih =>
      have hfirst := hkind first (List.mem_cons_self ..)
      have hlater : b ∈ blocksOf p groups ->
          b.Maximal p (before ++ ((first :: more) :: groups).flatten) := by
        intro hmem
        have hend : forall x, x ∈ (before ++ first :: more).getLast? -> p x = !!kind := by
          intro x hx
          rw [List.getLast?_append_of_ne_nil _ (List.cons_ne_nil first more)] at hx
          rw [Bool.not_not]
          exact hkind x (List.mem_of_getLast? hx)
        have hmax := ih hend hmem
        rw [List.append_assoc] at hmax
        exact hmax
      cases kind with
      | false =>
          rw [blocksOf_cons_false hfirst] at hb
          exact hlater hb
      | true =>
          rw [blocksOf_cons_true hfirst] at hb
          rcases List.mem_cons.mp hb with rfl | hmem
          · refine ⟨hkind, fun x hx => hrest.head hx, before, groups.flatten, ?_, rfl, hbefore⟩
            rw [List.flatten_cons, List.append_assoc]
            rfl
          · exact hlater hmem

theorem AlternateRuns.first_mem (h : AlternateRuns p kind groups) {b : Block elem}
    (hb : b ∈ blocksOf p groups) : b.first ∈ groups.flatten := by
  have hmem : b.first ∈ (blocksOf p groups).flatMap Block.elems :=
    List.mem_flatMap.mpr ⟨b, hb, List.mem_cons_self ..⟩
  rw [h.flatMap_blocksOf] at hmem
  exact (List.mem_filter.mp hmem).left

/-- Each block ends with an element that comes before the first one of every later block. -/
theorem AlternateRuns.separate (h : AlternateRuns p kind groups) {R : elem -> elem -> Prop}
    (hsorted : groups.flatten.Pairwise R) :
    (blocksOf p groups).Pairwise
      (fun earlier later => exists x, earlier.next = some x ∧ R x later.first) := by
  induction h with
  | nil => exact List.Pairwise.nil
  | @cons kind first more groups hkind hrest ih =>
      have hfirst := hkind first (List.mem_cons_self ..)
      rw [List.flatten_cons] at hsorted
      have hlater := ih (List.pairwise_append.mp hsorted).right.left
      cases kind with
      | false =>
          rw [blocksOf_cons_false hfirst]
          exact hlater
      | true =>
          rw [blocksOf_cons_true hfirst]
          refine List.pairwise_cons.mpr ⟨?_, hlater⟩
          intro later hmem
          cases hrest with
          | nil => cases hmem
          | @cons _ first' more' groups' hkind' hrest' =>
              have hup := hkind' first' (List.mem_cons_self ..)
              rw [blocksOf_cons_false hup] at hmem
              refine ⟨first', rfl, ?_⟩
              have htail := (List.pairwise_append.mp hsorted).right.left
              rw [List.flatten_cons, List.cons_append] at htail
              exact (List.pairwise_cons.mp htail).left later.first
                (List.mem_append_right _ (hrest'.first_mem hmem))

end Alternating

/-!
## The maximal blocks of a list
-/

section Maximal

variable (p : elem -> Bool) (xs : List elem)

theorem flatMap_maximalBlocks : (maximalBlocks p xs).flatMap Block.elems = xs.filter p := by
  rcases alternateRuns_splitBy p xs with ⟨kind, h⟩
  unfold maximalBlocks
  rw [h.flatMap_blocksOf, List.flatten_splitBy]

theorem maximal_of_mem {b : Block elem} (hb : b ∈ maximalBlocks p xs) : b.Maximal p xs := by
  rcases alternateRuns_splitBy p xs with ⟨kind, h⟩
  have hmax : b.Maximal p ([] ++ (xs.splitBy (fun x y => p x == p y)).flatten) :=
    h.maximal (fun x hx => by cases hx) hb
  rw [List.flatten_splitBy] at hmax
  exact hmax

theorem separate_maximalBlocks {R : elem -> elem -> Prop} (hsorted : xs.Pairwise R) :
    (maximalBlocks p xs).Pairwise
      (fun earlier later => exists x, earlier.next = some x ∧ R x later.first) := by
  rcases alternateRuns_splitBy p xs with ⟨kind, h⟩
  apply h.separate
  rw [List.flatten_splitBy]
  exact hsorted

end Maximal

end Foundation
end PanicMonitr
