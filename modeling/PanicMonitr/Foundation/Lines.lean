import Mathlib.Data.List.DropRight
import PanicMonitr.Foundation.Sequences

/-!
# Lines of a text

How Python reads a text file line by line: universal newlines, `str.splitlines`, which
breaks at more characters than a newline, and `str.strip`.
-/

namespace PanicMonitr
namespace Foundation

/-- The characters `str.splitlines` ends a line at. -/
def isLineBreak (c : Char) : Bool :=
  c = '\n' || c = '\r' || c = '\x0b' || c = '\x0c' || c = '\x1c' || c = '\x1d' ||
    c = '\x1e' || c = '\u0085' || c = '\u2028' || c = '\u2029'

/-- The line breaks that are not control characters below a blank. -/
def isWideBreak (c : Char) : Bool :=
  c = '\u0085' || c = '\u2028' || c = '\u2029'

/-- `str.isspace` of one character. -/
def isSpace (c : Char) : Bool :=
  (9 <= c.toNat && c.toNat <= 13) || (28 <= c.toNat && c.toNat <= 32) ||
    c = '\u0085' || c = '\u00a0' || c = '\u1680' ||
    (0x2000 <= c.toNat && c.toNat <= 0x200a) || c = '\u2028' || c = '\u2029' ||
    c = '\u202f' || c = '\u205f' || c = '\u3000'

/-- What reading in text mode makes of `\r\n` and of a lone `\r`. -/
def universalNewlines : List Char -> List Char
  | [] => []
  | c :: s =>
      if c = '\r' then
        if s.head? = some '\n' then universalNewlines s else '\n' :: universalNewlines s
      else c :: universalNewlines s

def consLine (c : Char) : List (List Char) -> List (List Char)
  | [] => [[c]]
  | line :: lines => (c :: line) :: lines

/-- `str.splitlines()`; a `\r\n` is one break, which its `\n` stands for. -/
def splitlines : List Char -> List (List Char)
  | [] => []
  | c :: s =>
      if c = '\r' ∧ s.head? = some '\n' then splitlines s
      else if isLineBreak c then [] :: splitlines s
      else consLine c (splitlines s)

/-- `str.strip()` -/
def strip (s : List Char) : List Char :=
  (s.dropWhile isSpace).rdropWhile isSpace

/-- Lines as a writer puts them out, each with its newline. -/
def unlines (lines : List (List Char)) : List Char :=
  lines.flatMap (fun line => line ++ ['\n'])

/-!
## Breaks
-/

theorem isLineBreak_of_isWideBreak {c : Char} (hc : isWideBreak c = true) :
    isLineBreak c = true ∧ c ≠ '\r' ∧ 128 <= c.toNat := by
  simp only [isWideBreak, Bool.or_eq_true, decide_eq_true_eq] at hc
  rcases hc with (hc | hc) | hc
  · rw [hc]
    decide
  · rw [hc]
    decide
  · rw [hc]
    decide

/-- A character that ends a line is a control character or one of the wide breaks. -/
theorem isWideBreak_of_isLineBreak {c : Char} (hc : isLineBreak c = true)
    (hprint : 32 <= c.toNat) : isWideBreak c = true := by
  have hne : forall a : Char, a.toNat < 32 -> c ≠ a := by
    intro a ha heq
    rw [heq] at hprint
    omega
  simpa [isLineBreak, isWideBreak, hne '\n' (by decide), hne '\r' (by decide),
    hne '\x0b' (by decide), hne '\x0c' (by decide), hne '\x1c' (by decide),
    hne '\x1d' (by decide), hne '\x1e' (by decide)] using hc

theorem universalNewlines_eq {s : List Char} (hs : '\r' ∉ s) : universalNewlines s = s := by
  induction s with
  | nil => rfl
  | cons c s ih =>
      have hc : c ≠ '\r' := by
        intro h
        apply hs
        rw [h]
        exact List.mem_cons_self ..
      have htail : '\r' ∉ s := by
        intro h
        exact hs (List.mem_cons_of_mem c h)
      simp [universalNewlines, hc, ih htail]

theorem splitlines_cons {c : Char} (hc : isLineBreak c = false) (s : List Char) :
    splitlines (c :: s) = consLine c (splitlines s) := by
  have hreturn : c ≠ '\r' := by
    intro h
    rw [h] at hc
    revert hc
    decide
  simp [splitlines, hc, hreturn]

theorem splitlines_break {c : Char} (hc : isLineBreak c = true) (hreturn : c ≠ '\r')
    (s : List Char) : splitlines (c :: s) = [] :: splitlines s := by
  simp [splitlines, hc, hreturn]

theorem splitlines_line {line : List Char} (hline : forall c, c ∈ line -> isLineBreak c = false)
    {c : Char} (hc : isLineBreak c = true) (hreturn : c ≠ '\r') (s : List Char) :
    splitlines (line ++ c :: s) = line :: splitlines s := by
  induction line with
  | nil => exact splitlines_break hc hreturn s
  | cons d line ih =>
      rw [List.cons_append, splitlines_cons (hline d (List.mem_cons_self ..)),
        ih (fun c hc => hline c (List.mem_cons_of_mem d hc))]
      rfl

theorem unlines_append (lines lines' : List (List Char)) :
    unlines (lines ++ lines') = unlines lines ++ unlines lines' :=
  List.flatMap_append

theorem unlines_injective {lines lines' : List (List Char)}
    (hlines : forall line, line ∈ lines -> '\n' ∉ line)
    (hlines' : forall line, line ∈ lines' -> '\n' ∉ line)
    (h : unlines lines = unlines lines') : lines = lines' := by
  have hfirst : forall (line rest : List Char), '\n' ∉ line ->
      (line ++ ['\n'] ++ rest).takeWhile (fun c => decide (c ≠ '\n')) = line := by
    intro line rest hline
    rw [List.append_assoc, List.takeWhile_append_of_pos, List.singleton_append,
      List.takeWhile_cons_of_neg (by decide), List.append_nil]
    intro c hc
    apply decide_eq_true
    intro hnewline
    rw [hnewline] at hc
    exact hline hc
  induction lines generalizing lines' with
  | nil =>
      cases lines' with
      | nil => rfl
      | cons line' lines' =>
          rw [unlines, unlines, List.flatMap_cons, List.append_assoc] at h
          exact absurd h.symm (List.append_ne_nil_of_right_ne_nil _ (List.cons_ne_nil _ _))
  | cons line lines ih =>
      cases lines' with
      | nil =>
          rw [unlines, unlines, List.flatMap_cons, List.append_assoc] at h
          exact absurd h (List.append_ne_nil_of_right_ne_nil _ (List.cons_ne_nil _ _))
      | cons line' lines' =>
          rw [List.forall_mem_cons] at hlines hlines'
          rw [unlines, unlines, List.flatMap_cons, List.flatMap_cons] at h
          have hline : line = line' := by
            rw [← hfirst line _ hlines.left, h, hfirst line' _ hlines'.left]
          rw [hline] at h ⊢
          rw [ih hlines.right hlines'.right (List.append_cancel_left h)]

theorem unlines_singleton (line : List Char) : unlines [line] = line ++ ['\n'] :=
  List.append_nil _

theorem splitlines_unlines_append {lines : List (List Char)}
    (hlines : forall line, line ∈ lines -> forall c, c ∈ line -> isLineBreak c = false)
    (s : List Char) : splitlines (unlines lines ++ s) = lines ++ splitlines s := by
  induction lines with
  | nil => rfl
  | cons line lines ih =>
      have hrest := ih (fun l hl => hlines l (List.mem_cons_of_mem line hl))
      rw [unlines, List.flatMap_cons, List.append_assoc, List.append_assoc,
        List.singleton_append, ← unlines,
        splitlines_line (hlines line (List.mem_cons_self ..)) (by decide) (by decide), hrest]
      rfl

theorem splitlines_unlines {lines : List (List Char)}
    (hlines : forall line, line ∈ lines -> forall c, c ∈ line -> isLineBreak c = false) :
    splitlines (unlines lines) = lines := by
  have h := splitlines_unlines_append hlines []
  rwa [List.append_nil, splitlines, List.append_nil] at h

theorem splitlines_first {s : List Char} (hs : s ≠ []) (hreturn : '\r' ∉ s) :
    ((forall c, c ∈ s -> isLineBreak c = false) ∧ splitlines s = [s]) ∨
      exists line c rest, s = line ++ c :: rest ∧ isLineBreak c = true ∧
        (forall d, d ∈ line -> isLineBreak d = false) ∧
        splitlines s = line :: splitlines rest := by
  by_cases hbreak : exists c, c ∈ s ∧ isLineBreak c = true
  · rcases exists_first hbreak with ⟨line, c, rest, rfl, hc, hline⟩
    have hclean : forall d, d ∈ line -> isLineBreak d = false :=
      fun d hd => Bool.eq_false_iff.mpr (hline d hd)
    refine Or.inr ⟨line, c, rest, rfl, hc, hclean, ?_⟩
    apply splitlines_line hclean hc
    intro heq
    apply hreturn
    rw [← heq]
    exact List.mem_append_right _ List.mem_cons_self
  · left
    have hclean : forall c, c ∈ s -> isLineBreak c = false := by
      intro c hc
      cases hb : isLineBreak c with
      | false => rfl
      | true => exact absurd ⟨c, hc, hb⟩ hbreak
    refine ⟨hclean, ?_⟩
    clear hreturn hbreak
    induction s with
    | nil => exact absurd rfl hs
    | cons c s ih =>
        rw [splitlines_cons (hclean c List.mem_cons_self)]
        cases s with
        | nil => rfl
        | cons d s =>
            rw [ih (List.cons_ne_nil _ _) (fun x hx => hclean x (List.mem_cons_of_mem c hx))]
            rfl

/-!
## Stripping
-/

/-- A text that starts and ends with a character that is not a space is its own strip. -/
theorem strip_eq_self {c d : Char} {s : List Char} (hc : isSpace c = false)
    (hd : isSpace d = false) : strip (c :: (s ++ [d])) = c :: (s ++ [d]) := by
  rw [strip, List.dropWhile_cons_of_neg (by rw [hc]; exact Bool.false_ne_true),
    ← List.cons_append, List.rdropWhile_concat_neg isSpace _ d (by rw [hd]; exact Bool.false_ne_true)]

theorem strip_strip (s : List Char) : strip (strip s) = strip s := by
  have hhead := List.head?_dropWhile_not isSpace s
  have hprefix : strip s <+: s.dropWhile isSpace := List.rdropWhile_prefix isSpace _
  have hfront : (strip s).dropWhile isSpace = strip s := by
    cases hstrip : strip s with
    | nil => rfl
    | cons c rest =>
        rw [hstrip] at hprefix
        rcases hprefix with ⟨back, hback⟩
        rw [← hback, List.cons_append, List.head?_cons] at hhead
        exact List.dropWhile_cons_of_neg (by rw [hhead]; exact Bool.false_ne_true)
  rw [strip, hfront]
  exact List.rdropWhile_idempotent isSpace _

/-- The strip of a text that starts with a character that is not a space. -/
theorem strip_prefix {c : Char} (hc : isSpace c = false) (s : List Char) :
    strip (c :: s) <+: c :: s ∧ strip (c :: s) ≠ [] := by
  have hfront : (c :: s).dropWhile isSpace = c :: s :=
    List.dropWhile_cons_of_neg (by rw [hc]; exact Bool.false_ne_true)
  rw [strip, hfront]
  constructor
  · exact List.rdropWhile_prefix isSpace (c :: s)
  · intro hnil
    have hall := List.rdropWhile_eq_nil_iff.mp hnil c (List.mem_cons_self ..)
    rw [hc] at hall
    cases hall

/-- A line that goes on with a character that is no space is not stripped back to its start. -/
theorem strip_append_cons {a b : List Char} {c d : Char} (hc : isSpace c = false)
    (hd : isSpace d = false) : (c :: a) ++ [d] <+: strip ((c :: a) ++ d :: b) := by
  have hfront : ((c :: a) ++ d :: b).dropWhile isSpace = (c :: a) ++ d :: b :=
    List.dropWhile_cons_of_neg (by rw [hc]; exact Bool.false_ne_true)
  have hkept : forall b : List Char,
      (c :: a) ++ [d] <+: (((c :: a) ++ [d]) ++ b).rdropWhile isSpace := by
    intro b
    induction b using List.reverseRecOn with
    | nil =>
        rw [List.append_nil, List.rdropWhile_concat_neg isSpace _ d
          (by rw [hd]; exact Bool.false_ne_true)]
    | append_singleton b x ih =>
        rw [← List.append_assoc]
        cases hx : isSpace x with
        | true =>
            rw [List.rdropWhile_concat_pos isSpace _ x hx]
            exact ih
        | false =>
            rw [List.rdropWhile_concat_neg isSpace _ x (by rw [hx]; exact Bool.false_ne_true),
              List.append_assoc]
            exact List.prefix_append _ _
  have hshape : (c :: a) ++ d :: b = ((c :: a) ++ [d]) ++ b := List.append_cons _ _ _
  rw [strip, hfront, hshape]
  exact hkept b

end Foundation
end PanicMonitr
