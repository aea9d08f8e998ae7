import Mathlib.Data.List.Forall2
import Mathlib.Data.List.Induction

/-!
# Linked sequences

Elements that carry a number and a link to the digest of the element before them.  The
digest of the last element fixes the whole sequence, as far as a digest fixes an element.
-/

namespace PanicMonitr
namespace Foundation

section Chains

variable {elem hash : Type _} (seq : elem -> Int) (prev digest : elem -> hash)

/-- Every element carries on from the one before it, the first one from `start`. -/
def Linked (start : Int × hash) : List elem -> Prop
  | [] => True
  | e :: es => seq e = start.1 + 1 ∧ prev e = start.2 ∧ Linked (seq e, digest e) es

/-- What an element after these has to carry on from. -/
def tip (start : Int × hash) : List elem -> Int × hash
  | [] => start
  | e :: es => tip (seq e, digest e) es

variable {seq prev digest}

theorem tip_snoc (start : Int × hash) (es : List elem) (e : elem) :
    tip seq digest start (es ++ [e]) = (seq e, digest e) := by
  induction es generalizing start with
  | nil => rfl
  | cons first es ih => exact ih (seq first, digest first)

theorem linked_snoc {start : Int × hash} {es : List elem} {e : elem} :
    Linked seq prev digest start (es ++ [e]) <->
      Linked seq prev digest start es ∧ seq e = (tip seq digest start es).1 + 1 ∧
        prev e = (tip seq digest start es).2 := by
  induction es generalizing start with
  | nil => simp [Linked, tip]
  | cons first es ih =>
      rw [List.cons_append, Linked, Linked, ih, tip]
      constructor
      · intro h
        rcases h with ⟨hseq, hprev, hes, he⟩
        exact ⟨⟨hseq, hprev, hes⟩, he⟩
      · intro h
        rcases h with ⟨⟨hseq, hprev, hes⟩, he⟩
        exact ⟨hseq, hprev, hes, he⟩

theorem seq_tip {start : Int × hash} {es : List elem}
    (h : Linked seq prev digest start es) :
    (tip seq digest start es).1 = start.1 + es.length := by
  induction es generalizing start with
  | nil => simp [tip]
  | cons e es ih =>
      rcases h with ⟨hseq, _, hes⟩
      rw [tip, ih hes, hseq, List.length_cons]
      omega

theorem seq_getElem {start : Int × hash} {es : List elem}
    (h : Linked seq prev digest start es) {i : Nat} (hi : i < es.length) :
    seq es[i] = start.1 + 1 + i := by
  induction es generalizing start i with
  | nil => cases hi
  | cons e es ih =>
      rcases h with ⟨hseq, _, hes⟩
      cases i with
      | zero =>
          rw [List.getElem_cons_zero, hseq]
          omega
      | succ i =>
          rw [List.getElem_cons_succ, ih hes (Nat.lt_of_succ_lt_succ hi), hseq]
          omega

/--
Two sequences of one length that end in one digest are the same, element by element, when
equal digests make elements the same.
-/
theorem linked_fixed {Same : elem -> elem -> Prop} {start : Int × hash}
    (hprev : forall a b, Same a b -> prev a = prev b) {front back : List elem}
    (hlength : front.length = back.length)
    (hsame : forall a, a ∈ front -> forall b, b ∈ back -> digest a = digest b -> Same a b)
    (hfront : Linked seq prev digest start front)
    (hback : Linked seq prev digest start back)
    (htip : (tip seq digest start front).2 = (tip seq digest start back).2) :
    List.Forall₂ Same front back := by
  induction front using List.reverseRecOn generalizing back with
  | nil =>
      rw [List.eq_nil_of_length_eq_zero hlength.symm]
      exact List.Forall₂.nil
  | append_singleton front a ih =>
      rcases List.eq_nil_or_concat back with rfl | ⟨back', b, rfl⟩
      · rw [List.length_append] at hlength
        cases hlength
      · rw [List.concat_eq_append] at hlength hsame hback htip ⊢
        rw [List.length_append, List.length_append, List.length_singleton,
          List.length_singleton, Nat.add_right_cancel_iff] at hlength
        rcases linked_snoc.mp hfront with ⟨hfront', _, hprevA⟩
        rcases linked_snoc.mp hback with ⟨hback', _, hprevB⟩
        rw [tip_snoc, tip_snoc] at htip
        have hab : Same a b := hsame a (List.mem_append_right _ (List.mem_singleton_self a)) b
          (List.mem_append_right _ (List.mem_singleton_self b)) htip
        have hrest := ih hlength
          (fun x hx y hy => hsame x (List.mem_append_left _ hx) y (List.mem_append_left _ hy))
          hfront' hback' (by rw [← hprevA, ← hprevB, hprev a b hab])
        exact List.rel_append hrest (List.Forall₂.cons hab List.Forall₂.nil)

end Chains

end Foundation
end PanicMonitr
