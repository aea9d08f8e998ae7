import Mathlib.Data.List.Basic
import Mathlib.Data.List.DropRight
import Mathlib.Data.List.Infix
import Mathlib.Data.List.Forall2
import Mathlib.Data.List.Perm.Subperm

/-!
# Trailing runs, alternation and bounded queues

Facts about finite sequences of observations: how long the run at the end is, when
two symbols strictly alternate, which of two kinds of positions came last, and what
a queue of bounded length keeps; last, lists of which each element has its partner.
-/

namespace PanicMonitr
namespace Foundation

variable {elem : Type _}

/-!
## Trailing runs
-/

/-- An element that satisfies `P` has a first one before it. -/
theorem exists_first {P : elem -> Prop} {xs : List elem} (h : exists x, x ∈ xs ∧ P x) :
    exists front x back, xs = front ++ x :: back ∧ P x ∧ forall y, y ∈ front -> ¬ P y := by
  classical
  rcases h with ⟨x, hx, hP⟩
  cases hfind : xs.find? (fun y => decide (P y)) with
  | none =>
      have hnone := List.find?_eq_none.mp hfind x hx
      exact absurd (decide_eq_true hP) hnone
  | some y =>
      rcases List.find?_eq_some_iff_append.mp hfind with ⟨hy, front, back, heq, hfront⟩
      refine ⟨front, y, back, heq, of_decide_eq_true hy, ?_⟩
      intro z hz hPz
      have hnot := hfront z hz
      rw [decide_eq_true hPz] at hnot
      cases hnot

/-- The last element that satisfies `P` splits a list in one way. -/
theorem last_split_unique {P : elem -> Prop} {front front' back back' : List elem}
    {x x' : elem} (heq : front ++ x :: back = front' ++ x' :: back') (hx : P x) (hx' : P x')
    (hback : forall y, y ∈ back -> ¬ P y) (hback' : forall y, y ∈ back' -> ¬ P y) :
    front = front' ∧ x = x' ∧ back = back' := by
  induction front generalizing front' with
  | nil =>
      cases front' with
      | nil =>
          rcases List.cons.inj heq with ⟨hhead, htail⟩
          exact ⟨rfl, hhead, htail⟩
      | cons y front' =>
          rcases List.cons.inj heq with ⟨_, htail⟩
          exact absurd hx' (hback x' (by
            rw [htail]
            exact List.mem_append_right _ (List.mem_cons_self ..)))
  | cons z front ih =>
      cases front' with
      | nil =>
          rcases List.cons.inj heq with ⟨_, htail⟩
          exact absurd hx (hback' x (by
            rw [← htail]
            exact List.mem_append_right _ (List.mem_cons_self ..)))
      | cons y front' =>
          rcases List.cons.inj heq with ⟨hhead, htail⟩
          rcases ih htail with ⟨hfront, hx, hback⟩
          exact ⟨by rw [hhead, hfront], hx, hback⟩

/-- The length of the longest suffix whose elements all satisfy `p`. -/
def trailingRun (p : elem -> Bool) (xs : List elem) : Nat :=
  (xs.reverse.takeWhile p).length

@[simp] theorem trailingRun_nil (p : elem -> Bool) : trailingRun p [] = 0 := rfl

theorem trailingRun_snoc (p : elem -> Bool) (xs : List elem) (x : elem) :
    trailingRun p (xs ++ [x]) = if p x then trailingRun p xs + 1 else 0 := by
  unfold trailingRun
  rw [List.reverse_append, List.reverse_singleton, List.singleton_append,
    List.takeWhile_cons]
  split <;> rfl

theorem trailingRun_map {source : Type _} (p : elem -> Bool) (f : source -> elem)
    (xs : List source) :
    trailingRun p (xs.map f) = trailingRun (fun x => p (f x)) xs := by
  unfold trailingRun
  rw [← List.map_reverse, List.takeWhile_map, List.length_map]
  rfl

/-- A positive run means that the last element satisfies `p`. -/
theorem trailingRun_pos_iff {p : elem -> Bool} {xs : List elem} :
    0 < trailingRun p xs <-> exists x, xs.getLast? = some x ∧ p x = true := by
  rcases List.eq_nil_or_concat xs with hnil | ⟨front, last, hsnoc⟩
  · simp [hnil]
  · rw [hsnoc, List.concat_eq_append, trailingRun_snoc]
    by_cases hp : p last
    · simp [hp]
    · simp [hp]

theorem trailingRun_le_of_suffix {p : elem -> Bool} {xs ys : List elem} (h : xs <:+ ys) :
    trailingRun p xs <= trailingRun p ys := by
  rcases h with ⟨front, heq⟩
  unfold trailingRun
  rw [← heq, List.reverse_append, List.takeWhile_append]
  split
  · rw [List.length_append]
    exact Nat.le_trans ((List.takeWhile_prefix p).length_le) (Nat.le_add_right ..)
  · exact Nat.le_refl _

/-- What a filter leaves of a list in which everything after a kept element is kept. -/
theorem filter_suffix_of_pairwise {p : elem -> Bool} {xs : List elem}
    (h : xs.Pairwise (fun x y => p x = true -> p y = true)) : xs.filter p <:+ xs := by
  induction xs with
  | nil => exact List.suffix_refl []
  | cons x xs ih =>
      rcases List.pairwise_cons.mp h with ⟨hhead, htail⟩
      by_cases hx : p x = true
      · have hall : xs.filter p = xs :=
          List.filter_eq_self.mpr (fun y hy => hhead y hy hx)
        rw [List.filter_cons_of_pos hx, hall]
      · rw [List.filter_cons_of_neg hx]
        exact (ih htail).trans (List.suffix_cons x xs)

theorem pairwise_snoc_of_last {R : elem -> elem -> Prop}
    (htrans : forall x y z, R x y -> R y z -> R x z) {xs : List elem} (h : xs.Pairwise R)
    {x : elem} (hlast : forall y, xs.getLast? = some y -> R y x) :
    (xs ++ [x]).Pairwise R := by
  apply List.pairwise_append.mpr
  refine ⟨h, List.pairwise_singleton R x, ?_⟩
  intro y hy z hz
  rw [List.mem_singleton.mp hz]
  rcases List.eq_nil_or_concat xs with hnil | ⟨front, last, hsnoc⟩
  · rw [hnil] at hy
    cases hy
  · rw [hsnoc, List.concat_eq_append] at h hy hlast
    have hend : R last x := hlast last List.getLast?_concat
    rcases List.mem_append.mp hy with hfront | hequal
    · exact htrans y last x
        ((List.pairwise_append.mp h).right.right y hfront last (List.mem_singleton_self last))
        hend
    · rw [List.mem_singleton.mp hequal]
      exact hend

/-!
## Alternation
-/

/-- The list is `first, second, first, second, ...`, of any length. -/
def Alternates (first second : elem) : List elem -> Prop
  | [] => True
  | x :: xs => x = first ∧ Alternates second first xs

instance decidableAlternates [DecidableEq elem] :
    (first second : elem) -> (xs : List elem) -> Decidable (Alternates first second xs)
  | _, _, [] => isTrue trivial
  | first, second, x :: xs =>
      have := decidableAlternates second first xs
      inferInstanceAs (Decidable (x = first ∧ Alternates second first xs))

theorem alternates_getLast? {first second x : elem} {xs : List elem}
    (h : Alternates first second xs) (hlast : xs.getLast? = some x) :
    x = first ∨ x = second := by
  induction xs generalizing first second with
  | nil => cases hlast
  | cons y ys ih =>
      cases ys with
      | nil =>
          cases hlast
          exact Or.inl h.left
      | cons z zs =>
          rw [List.getLast?_cons_cons] at hlast
          exact (ih h.right hlast).symm

/--
Which symbol may come next is read off the last one: `first` unless the list ends
with `first`, `second` when it does.
-/
theorem alternates_snoc {first second : elem} {xs : List elem}
    (h : Alternates first second xs) :
    (xs.getLast? ≠ some first -> Alternates first second (xs ++ [first])) ∧
      (xs.getLast? = some first -> Alternates first second (xs ++ [second])) := by
  induction xs generalizing first second with
  | nil =>
      constructor
      · intro _
        exact ⟨rfl, trivial⟩
      · intro hlast
        cases hlast
  | cons x xs ih =>
      rcases h with ⟨hx, hxs⟩
      cases xs with
      | nil =>
          constructor
          · intro hlast
            exact absurd (by rw [hx]; rfl) hlast
          · intro _
            exact ⟨hx, rfl, trivial⟩
      | cons y ys =>
          rcases ih hxs with ⟨hother, hsame⟩
          constructor
          · intro hlast
            refine ⟨hx, hsame ?_⟩
            rw [List.getLast?_cons_cons] at hlast
            cases hend : (y :: ys).getLast? with
            | none => simp at hend
            | some z =>
                rcases alternates_getLast? hxs hend with hz | hz
                · rw [hz]
                · exact absurd (by rw [hend, hz]) hlast
          · intro hlast
            refine ⟨hx, ?_⟩
            rw [List.getLast?_cons_cons] at hlast
            by_cases hsecond : (y :: ys).getLast? = some second
            · have heq : first = second := by
                rw [hlast] at hsecond
                exact Option.some.inj hsecond
              rw [heq] at hsame ⊢
              exact hsame (by rw [hsecond])
            · exact hother hsecond

/-!
## The last of two kinds of positions

`p` and `q` speak about the prefix that ends at a position.
-/

/-- Some `p`-position comes after every `q`-position. -/
def LastAfter (p q : List elem -> Prop) (xs : List elem) : Prop :=
  exists i, i <= xs.length ∧ p (xs.take i) ∧
    forall j, j <= xs.length -> q (xs.take j) -> j < i

theorem lastAfter_snoc {p q : List elem -> Prop} {xs : List elem} {x : elem} :
    LastAfter p q (xs ++ [x]) <->
      ¬ q (xs ++ [x]) ∧ (p (xs ++ [x]) ∨ LastAfter p q xs) := by
  have hlen : (xs ++ [x]).length = xs.length + 1 := by simp
  have hfull : (xs ++ [x]).take (xs.length + 1) = xs ++ [x] :=
    List.take_of_length_le (Nat.le_of_eq hlen)
  have hpart : forall k, k <= xs.length -> (xs ++ [x]).take k = xs.take k :=
    fun k hk => List.take_append_of_le_length hk
  constructor
  · rintro ⟨i, hi, hp, hq⟩
    rw [hlen] at hi hq
    have hnot : ¬ q (xs ++ [x]) := by
      intro hend
      have hlt := hq (xs.length + 1) (Nat.le_refl _) (by rw [hfull]; exact hend)
      omega
    refine ⟨hnot, ?_⟩
    by_cases hlast : i = xs.length + 1
    · rw [hlast, hfull] at hp
      exact Or.inl hp
    · have hi' : i <= xs.length := by omega
      rw [hpart i hi'] at hp
      refine Or.inr ⟨i, hi', hp, ?_⟩
      intro j hj hqj
      exact hq j (by omega) (by rw [hpart j hj]; exact hqj)
  · rintro ⟨hnot, hp | ⟨i, hi, hp, hq⟩⟩
    · refine ⟨xs.length + 1, by omega, by rw [hfull]; exact hp, ?_⟩
      intro j hj hqj
      by_cases hlast : j = xs.length + 1
      · rw [hlast, hfull] at hqj
        exact absurd hqj hnot
      · omega
    · refine ⟨i, by omega, by rw [hpart i hi]; exact hp, ?_⟩
      intro j hj hqj
      by_cases hlast : j = xs.length + 1
      · rw [hlast, hfull] at hqj
        exact absurd hqj hnot
      · have hj' : j <= xs.length := by omega
        rw [hpart j hj'] at hqj
        exact hq j hj' hqj

/-- The steps of a list at which it changes, with the values before and after. -/
def changes [DecidableEq elem] : List elem -> List (elem × elem)
  | [] => []
  | [_] => []
  | x :: y :: rest => (if y = x then [] else [(x, y)]) ++ changes (y :: rest)

/-!
## Bounded queues
-/

/-- `deque(maxlen=n).append(x)`: the oldest elements fall off the front. -/
def pushBounded (maxlen : Nat) (xs : List elem) (x : elem) : List elem :=
  (xs ++ [x]).drop (xs.length + 1 - maxlen)

/-- A bounded queue that holds the end of a list holds the end of the longer list too. -/
theorem pushBounded_rtake (maxlen : Nat) (xs : List elem) (x : elem) :
    pushBounded maxlen (xs.rtake maxlen) x = (xs ++ [x]).rtake maxlen := by
  unfold pushBounded List.rtake
  rw [← List.drop_append_of_le_length (Nat.sub_le ..), List.drop_drop]
  congr 1
  rw [List.length_drop, List.length_append, List.length_singleton]
  omega

theorem foldl_pushBounded (maxlen : Nat) (xs ys : List elem) :
    ys.foldl (pushBounded maxlen) (xs.rtake maxlen) = (xs ++ ys).rtake maxlen := by
  induction ys generalizing xs with
  | nil => rw [List.foldl_nil, List.append_nil]
  | cons y ys ih =>
      rw [List.foldl_cons, pushBounded_rtake, ih, List.append_assoc, List.singleton_append]

theorem getLast?_pushBounded {maxlen : Nat} (hmaxlen : 1 <= maxlen) (xs : List elem)
    (x : elem) : (pushBounded maxlen xs x).getLast? = some x := by
  unfold pushBounded
  rw [List.drop_append_of_le_length (by omega), List.getLast?_concat]

/-- The last element of a queue stays in front of the one that is pushed. -/
theorem pushBounded_snoc {maxlen : Nat} (hmaxlen : 2 <= maxlen) (xs : List elem)
    (x y : elem) : exists front, pushBounded maxlen (xs ++ [x]) y = front ++ [x, y] := by
  refine ⟨xs.drop (xs.length + 2 - maxlen), ?_⟩
  unfold pushBounded
  rw [List.append_assoc, List.drop_append_of_le_length (by
    rw [List.length_append, List.length_singleton]; omega), List.length_append,
    List.length_singleton]
  rfl

theorem pushBounded_suffix (maxlen : Nat) (xs : List elem) (x : elem) :
    pushBounded maxlen xs x <:+ xs ++ [x] :=
  List.drop_suffix ..

/-!
## One place of a list
-/

theorem mem_eraseIdx_of_ne {xs : List elem} {i : Nat} {x y : elem} (hi : xs[i]? = some y)
    (hx : x ∈ xs) (hne : x ≠ y) : x ∈ xs.eraseIdx i := by
  rcases List.mem_iff_getElem?.mp hx with ⟨j, hj⟩
  refine List.mem_eraseIdx_iff_getElem?.mpr ⟨j, ?_, hj⟩
  intro heq
  rw [heq, hi] at hj
  exact hne (Option.some.inj hj).symm

theorem mem_set_of_ne {xs : List elem} {i : Nat} {x y z : elem} (hi : xs[i]? = some y)
    (hx : x ∈ xs) (hne : x ≠ y) : x ∈ xs.set i z := by
  rcases List.mem_iff_getElem?.mp hx with ⟨j, hj⟩
  have hij : i ≠ j := by
    intro heq
    rw [← heq, hi] at hj
    exact hne (Option.some.inj hj).symm
  refine List.mem_iff_getElem?.mpr ⟨j, ?_⟩
  rw [List.getElem?_set_ne hij, hj]

/-- Setting one place moves the count by what the place counted before and counts now. -/
theorem countP_set_add {p : elem -> Bool} {xs : List elem} {i : Nat} {x : elem}
    (hi : xs[i]? = some x) (y : elem) :
    (xs.set i y).countP p + (if p x then 1 else 0) = xs.countP p + (if p y then 1 else 0) := by
  induction xs generalizing i with
  | nil => cases hi
  | cons z xs ih =>
      cases i with
      | zero =>
          cases hi
          rw [List.set_cons_zero, List.countP_cons, List.countP_cons, Nat.add_right_comm]
      | succ i =>
          have hrest := ih hi
          rw [List.set_cons_succ, List.countP_cons, List.countP_cons]
          omega

theorem countP_eraseIdx_add {p : elem -> Bool} {xs : List elem} {i : Nat} {x : elem}
    (hi : xs[i]? = some x) :
    (xs.eraseIdx i).countP p + (if p x then 1 else 0) = xs.countP p := by
  induction xs generalizing i with
  | nil => cases hi
  | cons z xs ih =>
      cases i with
      | zero =>
          cases hi
          rw [List.eraseIdx_cons_zero, List.countP_cons]
      | succ i =>
          have hrest := ih hi
          rw [List.eraseIdx_cons_succ, List.countP_cons, List.countP_cons]
          omega

/-- Among elements with distinct keys at most one passes a test that fixes the key. -/
theorem countP_le_one {key : Type _} {f : elem -> key} {k : key} {p : elem -> Bool}
    {xs : List elem} (hnodup : (xs.map f).Nodup)
    (hkey : forall x, x ∈ xs -> p x = true -> f x = k) : xs.countP p <= 1 := by
  have hsingle : (xs.filter p).map f ⊆ [k] := by
    intro k' hk'
    rcases List.mem_map.mp hk' with ⟨x, hx, rfl⟩
    rcases List.mem_filter.mp hx with ⟨hin, hp⟩
    rw [hkey x hin hp]
    exact List.mem_singleton_self k
  have hfiltered : ((xs.filter p).map f).Nodup :=
    hnodup.sublist (List.filter_sublist.map f)
  rw [List.countP_eq_length_filter, ← List.length_map f]
  exact (List.subperm_of_subset hfiltered hsingle).length_le

/-!
## Lists side by side
-/

/-- One element of the second list may change as long as it still fits its partner. -/
theorem forall₂_set {other : Type _} {R : elem -> other -> Prop} {xs : List elem}
    {ys : List other} (h : List.Forall₂ R xs ys) {i : Nat} {y y' : other}
    (hy : ys[i]? = some y) (hfits : forall x, R x y -> R x y') :
    List.Forall₂ R xs (ys.set i y') := by
  induction h generalizing i with
  | nil => cases hy
  | cons hxy hrest ih =>
      cases i with
      | zero =>
          cases hy
          exact List.Forall₂.cons (hfits _ hxy) hrest
      | succ i => exact List.Forall₂.cons hxy (ih hy)

/-!
## Times in a window
-/

def inWindow (start length : Int) (times : List Int) : Nat :=
  times.countP (fun t => decide (start <= t ∧ t < start + length))

theorem inWindow_flatten_le {length : Int} {cap : Nat} {groups : List (List Int)}
    (hcap : forall group, group ∈ groups -> group.length <= cap)
    (hapart : groups.Pairwise (fun later earlier =>
      forall t, t ∈ later -> forall s, s ∈ earlier -> s + length <= t)) (start : Int) :
    inWindow start length groups.flatten <= cap := by
  induction groups with
  | nil => exact Nat.zero_le cap
  | cons group groups ih =>
      rcases List.pairwise_cons.mp hapart with ⟨hhead, htail⟩
      have hrest := ih (fun g hg => hcap g (List.mem_cons_of_mem group hg)) htail
      unfold inWindow at hrest ⊢
      rw [List.flatten_cons, List.countP_append]
      by_cases hmeets : exists t, t ∈ group ∧ start <= t ∧ t < start + length
      · rcases hmeets with ⟨t, ht, _, hbefore⟩
        have hnone : groups.flatten.countP
            (fun t => decide (start <= t ∧ t < start + length)) = 0 := by
          apply List.countP_eq_zero.mpr
          intro s hs hin
          rcases List.mem_flatten.mp hs with ⟨earlier, hearlier, hs'⟩
          have hgap := hhead earlier hearlier t ht s hs'
          have hwindow := of_decide_eq_true hin
          omega
        rw [hnone, Nat.add_zero]
        exact Nat.le_trans List.countP_le_length (hcap group List.mem_cons_self)
      · have hnone : group.countP
            (fun t => decide (start <= t ∧ t < start + length)) = 0 := by
          apply List.countP_eq_zero.mpr
          intro t ht hin
          exact hmeets ⟨t, ht, of_decide_eq_true hin⟩
        rw [hnone, Nat.zero_add]
        exact hrest

end Foundation
end PanicMonitr
