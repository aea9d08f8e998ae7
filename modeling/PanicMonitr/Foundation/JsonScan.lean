import PanicMonitr.Foundation.JsonParser

/-!
# Broken texts

A scan of a text keeps how deep it stands in brackets, and whether it stands in a string.
What is read as a value ends as deep as it began.  A text that breaks off inside an object
stays deeper, whatever objects and parts of objects are written behind it, and is no JSON.
-/

namespace PanicMonitr
namespace Foundation
namespace Json

/-- `closed` is right behind the quote that ends a string. -/
inductive Scan where
  | outside (depth : Nat)
  | inside (depth : Nat)
  | escaped (depth : Nat)
  | closed (depth : Nat)
  | stuck
  deriving DecidableEq

namespace Scan

/-- A character outside strings. -/
def mark (depth : Nat) (c : Char) : Scan :=
  if c = '"' then inside depth
  else if c = '{' ∨ c = '[' then outside (depth + 1)
  else if c = '}' ∨ c = ']' then (if depth = 0 then stuck else outside (depth - 1))
  else outside depth

/-- No letter follows a string. -/
def next : Scan -> Char -> Scan
  | outside depth, c => mark depth c
  | closed depth, c => if c.isAlpha then stuck else mark depth c
  | inside depth, c =>
      if c = '"' then closed depth else if c = '\\' then escaped depth else inside depth
  | escaped depth, _ => inside depth
  | stuck, _ => stuck

def run (scan : Scan) (text : List Char) : Scan :=
  text.foldl next scan

def raise (k : Nat) : Scan -> Scan
  | outside depth => outside (depth + k)
  | inside depth => inside (depth + k)
  | escaped depth => escaped (depth + k)
  | closed depth => closed (depth + k)
  | stuck => stuck

/-- No text from here on ends outside all brackets that are open. -/
def Lost : Scan -> Prop
  | outside depth => 0 < depth
  | inside depth => 0 < depth
  | escaped depth => 0 < depth
  | closed depth => 0 < depth
  | stuck => True

/-!
## Steps of the scan
-/

@[simp] theorem run_nil (scan : Scan) : scan.run [] = scan := rfl

@[simp] theorem run_cons (scan : Scan) (c : Char) (text : List Char) :
    scan.run (c :: text) = (scan.next c).run text := rfl

theorem run_append (scan : Scan) (text text' : List Char) :
    scan.run (text ++ text') = (scan.run text).run text' :=
  List.foldl_append

theorem run_stuck (text : List Char) : stuck.run text = stuck := by
  induction text with
  | nil => rfl
  | cons c text ih => exact ih

theorem run_prefix_ne_stuck {scan : Scan} {text text' : List Char} (hpart : text <+: text')
    (h : scan.run text' ≠ stuck) : scan.run text ≠ stuck := by
  rcases hpart with ⟨more, rfl⟩
  intro hstuck
  apply h
  rw [run_append, hstuck, run_stuck]

theorem mark_raise {depth : Nat} {c : Char} (k : Nat) (h : mark depth c ≠ stuck) :
    mark (depth + k) c = (mark depth c).raise k := by
  unfold mark at h ⊢
  split
  · rfl
  rename_i hquote
  rw [if_neg hquote] at h
  split
  · show outside _ = outside _
    rw [Nat.add_right_comm]
  rename_i hopen
  rw [if_neg hopen] at h
  split
  · rename_i hclose
    rw [if_pos hclose] at h
    have hdepth : depth ≠ 0 := by
      intro hzero
      rw [if_pos hzero] at h
      exact h rfl
    rw [if_neg hdepth, if_neg (by omega)]
    show outside _ = outside _
    congr 1
    omega
  · rfl

theorem next_raise {scan : Scan} {c : Char} (k : Nat) (h : scan.next c ≠ stuck) :
    (scan.raise k).next c = (scan.next c).raise k := by
  cases scan with
  | outside depth => exact mark_raise k h
  | closed depth =>
      have hletter : ¬ c.isAlpha = true := by
        intro hletter
        exact h (if_pos hletter)
      rw [next, if_neg hletter] at h
      show (if c.isAlpha then stuck else mark (depth + k) c) = _
      rw [if_neg hletter, next, if_neg hletter]
      exact mark_raise k h
  | inside depth =>
      show (if c = '"' then closed (depth + k) else if c = '\\' then escaped (depth + k)
        else inside (depth + k)) = _
      rw [next]
      split
      · rfl
      · split <;> rfl
  | escaped depth => rfl
  | stuck => rfl

theorem run_raise {scan : Scan} {text : List Char} (k : Nat) (h : scan.run text ≠ stuck) :
    (scan.raise k).run text = (scan.run text).raise k := by
  induction text generalizing scan with
  | nil => rfl
  | cons c text ih =>
      have hnext : scan.next c ≠ stuck := by
        intro hstuck
        apply h
        rw [run_cons, hstuck, run_stuck]
      rw [run_cons, next_raise k hnext]
      exact ih h

theorem lost_raise (scan : Scan) (k : Nat) : (scan.raise (k + 1)).Lost := by
  cases scan with
  | outside depth => exact Nat.succ_pos _
  | inside depth => exact Nat.succ_pos _
  | escaped depth => exact Nat.succ_pos _
  | closed depth => exact Nat.succ_pos _
  | stuck => trivial

theorem run_inside {text : List Char} (h : forall c, c ∈ text -> c ≠ '"' ∧ c ≠ '\\')
    (depth : Nat) : (inside depth).run text = inside depth := by
  induction text with
  | nil => rfl
  | cons c text ih =>
      rcases h c List.mem_cons_self with ⟨hquote, hslash⟩
      rw [run_cons, next, if_neg hquote, if_neg hslash]
      exact ih (fun d hd => h d (List.mem_cons_of_mem c hd))

theorem run_outside {text : List Char} (h : forall c, c ∈ text -> mark 0 c = outside 0) :
    (outside 0).run text = outside 0 := by
  induction text with
  | nil => rfl
  | cons c text ih =>
      rw [run_cons, next, h c List.mem_cons_self]
      exact ih (fun d hd => h d (List.mem_cons_of_mem c hd))

end Scan

open Scan

/-!
## Balanced texts
-/

/-- The scan ends as deep as it began, and in no string. -/
def Balanced (text : List Char) : Prop :=
  (outside 0).run text = outside 0 ∨ (outside 0).run text = closed 0

theorem Balanced.ne_stuck {text : List Char} (h : Balanced text) :
    (outside 0).run text ≠ stuck := by
  rcases h with hend | hend
  · rw [hend]
    exact fun heq => by cases heq
  · rw [hend]
    exact fun heq => by cases heq

/-- A character that is no letter makes no difference between the two ends. -/
theorem Balanced.next {text : List Char} (h : Balanced text) {c : Char}
    (hletter : c.isAlpha = false) (k : Nat) :
    (outside k).run (text ++ [c]) = mark k c := by
  have hend : (outside k).run text = ((outside 0).run text).raise k := by
    rw [← run_raise k h.ne_stuck]
    show (outside k).run text = (outside (0 + k)).run text
    rw [Nat.zero_add]
  rw [run_append, hend]
  rcases h with hout | hclosed
  · rw [hout]
    show mark (0 + k) c = mark k c
    rw [Nat.zero_add]
  · rw [hclosed]
    show (if c.isAlpha then stuck else mark (0 + k) c) = mark k c
    rw [hletter, if_neg Bool.false_ne_true, Nat.zero_add]

def isSeparator (c : Char) : Bool :=
  c = ',' || c = ':' || isJsonBlank c

theorem separator_mark {c : Char} (h : isSeparator c = true) :
    c.isAlpha = false ∧ mark 0 c = outside 0 := by
  unfold isSeparator isJsonBlank at h
  simp only [Bool.or_eq_true, decide_eq_true_eq] at h
  rcases h with (rfl | rfl) | (((rfl | rfl) | rfl) | rfl) <;> decide

theorem Balanced.separate {text text' : List Char} (h : Balanced text) {c : Char}
    (hc : isSeparator c = true) (h' : Balanced text') : Balanced (text ++ c :: text') := by
  rcases separator_mark hc with ⟨hletter, hmark⟩
  unfold Balanced
  rw [List.append_cons, run_append, h.next hletter 0, hmark]
  exact h'

theorem balanced_nil : Balanced [] :=
  Or.inl rfl

theorem Balanced.afterBlanks {blanks text : List Char} (h : Balanced text)
    (hblanks : forall c, c ∈ blanks -> isJsonBlank c = true) : Balanced (blanks ++ text) := by
  induction blanks with
  | nil => exact h
  | cons c blanks ih =>
      have hc : isSeparator c = true := by
        rw [isSeparator, hblanks c List.mem_cons_self, Bool.or_true]
      exact balanced_nil.separate hc (ih (fun d hd => hblanks d (List.mem_cons_of_mem c hd)))

theorem Balanced.beforeBlanks {text blanks : List Char} (h : Balanced text)
    (hblanks : forall c, c ∈ blanks -> isJsonBlank c = true) : Balanced (text ++ blanks) := by
  cases blanks with
  | nil =>
      rw [List.append_nil]
      exact h
  | cons c blanks =>
      have hc : isSeparator c = true := by
        rw [isSeparator, hblanks c List.mem_cons_self, Bool.or_true]
      have hrest := balanced_nil.afterBlanks (fun d hd => hblanks d (List.mem_cons_of_mem c hd))
      rw [List.append_nil] at hrest
      exact h.separate hc hrest

theorem Balanced.enclose {text : List Char} (h : Balanced text) {opening closing : Char}
    (hopen : opening = '{' ∨ opening = '[') (hclose : closing = '}' ∨ closing = ']') :
    (outside 0).run (opening :: (text ++ [closing])) = outside 0 := by
  have hfirst : mark 0 opening = outside 1 := by
    rcases hopen with rfl | rfl <;> rfl
  have hlast : closing.isAlpha = false ∧ mark 1 closing = outside 0 := by
    rcases hclose with rfl | rfl <;> exact ⟨by decide, rfl⟩
  rw [run_cons, Scan.next, hfirst, h.next hlast.left 1, hlast.right]

/-!
## What the reader takes in
-/

/-- What was read is a text in front of the rest. -/
def Reads (P : List Char -> Prop) (s rest : List Char) : Prop :=
  exists used, s = used ++ rest ∧ P used

theorem hexVal_ne {c : Char} {n : Nat} (h : hexVal c = some n) : c ≠ '"' ∧ c ≠ '\\' := by
  constructor
  · intro hc
    rw [hc] at h
    cases h
  · intro hc
    rw [hc] at h
    cases h

theorem reads_hex4 {s rest : List Char} {n : Nat} (h : hex4 s = some (n, rest)) :
    Reads (fun used => forall c, c ∈ used -> c ≠ '"' ∧ c ≠ '\\') s rest := by
  unfold hex4 at h
  split at h
  · rename_i a b c d more
    split at h
    · rename_i ha hb hc hd
      cases h
      refine ⟨[a, b, c, d], rfl, ?_⟩
      intro x hx
      simp only [List.mem_cons, List.not_mem_nil, or_false] at hx
      rcases hx with rfl | rfl | rfl | rfl
      · exact hexVal_ne ha
      · exact hexVal_ne hb
      · exact hexVal_ne hc
      · exact hexVal_ne hd
    · cases h
  · cases h

/-- A scan that stays inside its string. -/
def Within (used : List Char) : Prop :=
  forall depth, (inside depth).run used = inside depth

theorem reads_readUnicode {s rest : List Char} {c : Char}
    (h : readUnicode s = some (c, rest)) : Reads Within s rest := by
  unfold readUnicode at h
  split at h
  · cases h
  rename_i n after hhex
  rcases reads_hex4 hhex with ⟨used, rfl, hused⟩
  split at h
  · split at h
    · rename_i low
      split at h
      · cases h
      rename_i m after' hlow
      rcases reads_hex4 hlow with ⟨used', rfl, hused'⟩
      split at h
      · rw [← (Prod.mk.inj (Option.some.inj h)).right]
        refine ⟨used ++ '\\' :: 'u' :: used', by simp, ?_⟩
        intro depth
        rw [run_append, run_inside hused]
        exact run_inside hused' depth
      · cases h
    · cases h
  split at h
  · cases h
  · cases h
    exact ⟨used, rfl, run_inside hused⟩

theorem reads_readEscape {e c : Char} {s rest : List Char}
    (h : readEscape e s = some (c, rest)) : Reads Within s rest := by
  have hnothing : Reads Within s s := ⟨[], rfl, fun _ => rfl⟩
  unfold readEscape at h
  repeat' split at h
  all_goals first
    | exact reads_readUnicode h
    | (cases h
       exact hnothing)
    | cases h

theorem reads_readChar {s rest : List Char} {c : Char} (hquote : s.head? ≠ some '"')
    (h : readChar s = some (c, rest)) : Reads Within s rest := by
  cases s with
  | nil => cases h
  | cons d s =>
      unfold readChar at h
      simp only at h
      split at h
      · rename_i hslash
        cases s with
        | nil => cases h
        | cons e s =>
            rcases reads_readEscape h with ⟨used, rfl, hused⟩
            refine ⟨d :: e :: used, rfl, ?_⟩
            intro depth
            rw [hslash]
            exact hused depth
      · rename_i hslash
        split at h
        · cases h
        · cases h
          refine ⟨[c], rfl, ?_⟩
          apply run_inside
          intro x hx
          rw [List.mem_singleton.mp hx]
          exact ⟨fun heq => hquote (by rw [heq]; rfl), hslash⟩

theorem reads_parseChars {fuel : Nat} {s cs rest : List Char}
    (h : parseChars fuel s = some (cs, rest)) :
    Reads (fun used => forall depth, (inside depth).run used = closed depth) s rest := by
  induction fuel generalizing s cs with
  | zero => cases h
  | succ fuel ih =>
      rw [parseChars] at h
      split at h
      · rename_i hquote
        cases h
        refine ⟨['"'], ?_, fun _ => rfl⟩
        cases s with
        | nil => cases hquote
        | cons d s =>
            rw [Option.some.inj hquote]
            rfl
      · rename_i hquote
        split at h
        · cases h
        rename_i c after hchar
        rcases Option.map_eq_some_iff.mp h with ⟨r, hr, heq⟩
        cases heq
        rcases reads_readChar hquote hchar with ⟨used, rfl, hused⟩
        rcases ih hr with ⟨used', rfl, hused'⟩
        refine ⟨used ++ used', (List.append_assoc _ _ _).symm, ?_⟩
        intro depth
        rw [run_append, hused depth]
        exact hused' depth

theorem skipBlanks_eq (s : List Char) :
    exists blanks, s = blanks ++ skipBlanks s ∧ forall c, c ∈ blanks -> isJsonBlank c = true :=
  ⟨s.takeWhile isJsonBlank, List.takeWhile_append_dropWhile.symm,
    fun _ hc => List.mem_takeWhile_imp hc⟩

theorem mark_numberChar {c : Char} (hc : isNumberChar c = true) : mark 0 c = outside 0 := by
  have hne : forall a : Char, isNumberChar a = false -> c ≠ a := by
    intro a ha heq
    rw [heq, ha] at hc
    cases hc
  unfold mark
  rw [if_neg (hne '"' (by decide)), if_neg, if_neg]
  · intro h
    rcases h with h | h
    · exact hne '}' (by decide) h
    · exact hne ']' (by decide) h
  · intro h
    rcases h with h | h
    · exact hne '{' (by decide) h
    · exact hne '[' (by decide) h

theorem reads_parseScalar {s rest : List Char} {v : Json}
    (h : parseScalar s = some (v, rest)) : Reads Balanced s rest := by
  have hword : forall word : List Char, (outside 0).run word = outside 0 ->
      word.isPrefixOf s = true -> Reads Balanced s (s.drop word.length) := by
    intro word hplain hfront
    rcases List.isPrefixOf_iff_prefix.mp hfront with ⟨more, rfl⟩
    exact ⟨word, by rw [List.drop_left], Or.inl hplain⟩
  unfold parseScalar at h
  split at h
  · rename_i hfront
    cases h
    exact hword nullWord (by decide) hfront
  split at h
  · rename_i hfront
    cases h
    exact hword trueWord (by decide) hfront
  split at h
  · rename_i hfront
    cases h
    exact hword falseWord (by decide) hfront
  · rcases Option.map_eq_some_iff.mp h with ⟨v', _, heq⟩
    cases heq
    refine ⟨s.takeWhile isNumberChar, List.takeWhile_append_dropWhile.symm, Or.inl ?_⟩
    apply run_outside
    intro c hc
    exact mark_numberChar (List.mem_takeWhile_imp hc)

theorem balanced_enclosed {blanks inner : List Char} {opening closing : Char}
    (hblanks : forall c, c ∈ blanks -> isJsonBlank c = true)
    (hopen : opening = '{' ∨ opening = '[') (hclose : closing = '}' ∨ closing = ']')
    (h : Balanced inner) : Balanced (blanks ++ opening :: (inner ++ [closing])) :=
  Balanced.afterBlanks (Or.inl (h.enclose hopen hclose)) hblanks

theorem reads_empty {s rest : List Char} {blanks : List Char} {opening closing : Char}
    (hs : s = blanks ++ opening :: rest)
    (hblanks : forall c, c ∈ blanks -> isJsonBlank c = true)
    (hopen : opening = '{' ∨ opening = '[') (hclose : closing = '}' ∨ closing = ']')
    (hhead : (skipBlanks rest).head? = some closing) :
    Reads Balanced s (skipBlanks rest).tail := by
  rcases skipBlanks_eq rest with ⟨inner, hrest, hinner⟩
  have hempty : Balanced inner := by
    have h := balanced_nil.beforeBlanks hinner
    rwa [List.nil_append] at h
  refine ⟨blanks ++ opening :: (inner ++ [closing]), ?_,
    balanced_enclosed hblanks hopen hclose hempty⟩
  cases hskip : skipBlanks rest with
  | nil =>
      rw [hskip] at hhead
      cases hhead
  | cons c more =>
      rw [hskip, List.head?_cons] at hhead
      rw [hskip] at hrest
      rw [hs, hrest, Option.some.inj hhead]
      simp

theorem reads_enclosed {s rest after : List Char} {blanks : List Char}
    {opening closing : Char} (hs : s = blanks ++ opening :: rest)
    (hblanks : forall c, c ∈ blanks -> isJsonBlank c = true)
    (hopen : opening = '{' ∨ opening = '[') (hclose : closing = '}' ∨ closing = ']')
    (h : Reads Balanced rest (closing :: after)) : Reads Balanced s after := by
  rcases h with ⟨inner, hrest, hinner⟩
  refine ⟨blanks ++ opening :: (inner ++ [closing]), ?_,
    balanced_enclosed hblanks hopen hclose hinner⟩
  rw [hs, hrest]
  simp

mutual

theorem reads_parseValue : (fuel : Nat) -> {s rest : List Char} -> {v : Json} ->
    parseValue fuel s = some (v, rest) -> Reads Balanced s rest
  | 0, _, _, _, h => by cases h
  | fuel + 1, s, rest, v, h => by
      rcases skipBlanks_eq s with ⟨blanks, hs, hblanks⟩
      rw [parseValue] at h
      split at h
      · cases h
      rename_i c more hskip
      rw [hskip] at hs
      split at h
      · rename_i hquote
        rcases Option.map_eq_some_iff.mp h with ⟨r, hr, heq⟩
        cases heq
        rcases reads_parseChars hr with ⟨used, hmore, hused⟩
        refine ⟨blanks ++ '"' :: used, ?_, Balanced.afterBlanks (Or.inr (hused 0)) hblanks⟩
        rw [hs, hquote, hmore]
        simp
      split at h
      · rename_i hbracket
        split at h
        · rename_i hhead
          cases h
          exact reads_empty hs hblanks (Or.inr hbracket) (Or.inr rfl) hhead
        · rcases Option.map_eq_some_iff.mp h with ⟨r, hr, heq⟩
          cases heq
          exact reads_enclosed hs hblanks (Or.inr hbracket) (Or.inr rfl)
            (reads_parseItems fuel hr)
      split at h
      · rename_i hbrace
        split at h
        · rename_i hhead
          cases h
          exact reads_empty hs hblanks (Or.inl hbrace) (Or.inl rfl) hhead
        · rcases Option.map_eq_some_iff.mp h with ⟨r, hr, heq⟩
          cases heq
          exact reads_enclosed hs hblanks (Or.inl hbrace) (Or.inl rfl)
            (reads_parseFields fuel hr)
      · rcases reads_parseScalar h with ⟨used, hmore, hused⟩
        refine ⟨blanks ++ used, ?_, hused.afterBlanks hblanks⟩
        rw [hs, hmore, List.append_assoc]

theorem reads_parseItems : (fuel : Nat) -> {s rest : List Char} -> {items : List Json} ->
    parseItems fuel s = some (items, rest) -> Reads Balanced s (']' :: rest)
  | 0, _, _, _, h => by cases h
  | fuel + 1, s, rest, items, h => by
      rw [parseItems] at h
      split at h
      · cases h
      rename_i v after hvalue
      rcases reads_parseValue fuel hvalue with ⟨used, rfl, hused⟩
      rcases skipBlanks_eq after with ⟨blanks, hafter, hblanks⟩
      split at h
      · rename_i next hskip
        rcases Option.map_eq_some_iff.mp h with ⟨r, hr, heq⟩
        cases heq
        rcases reads_parseItems fuel hr with ⟨used', rfl, hused'⟩
        refine ⟨(used ++ blanks) ++ ',' :: used', ?_,
          (hused.beforeBlanks hblanks).separate (by decide) hused'⟩
        rw [hafter, hskip]
        simp
      · rename_i next hskip
        cases h
        refine ⟨used ++ blanks, ?_, hused.beforeBlanks hblanks⟩
        rw [hafter, hskip, List.append_assoc]
      · cases h

theorem reads_parseFields : (fuel : Nat) -> {s rest : List Char} ->
    {fields : List (String × Json)} -> parseFields fuel s = some (fields, rest) ->
      Reads Balanced s ('}' :: rest)
  | 0, _, _, _, h => by cases h
  | fuel + 1, s, rest, fields, h => by
      rcases skipBlanks_eq s with ⟨blanks, hs, hblanks⟩
      rw [parseFields] at h
      split at h
      · rename_i body hopen
        split at h
        · cases h
        rename_i k afterKey hkey
        rcases reads_parseChars hkey with ⟨keyText, rfl, hkeyText⟩
        rcases skipBlanks_eq afterKey with ⟨blanks', hafterKey, hblanks'⟩
        split at h
        · rename_i value hcolon
          split at h
          · cases h
          rename_i v after hvalue
          rcases reads_parseValue fuel hvalue with ⟨used, rfl, hused⟩
          rcases skipBlanks_eq after with ⟨blanks'', hafter, hblanks''⟩
          have hfield : Balanced ((blanks ++ '"' :: keyText ++ blanks') ++ ':' ::
              (used ++ blanks'')) := by
            have hname : Balanced ('"' :: keyText) := Or.inr (hkeyText 0)
            exact ((hname.afterBlanks hblanks).beforeBlanks hblanks').separate (by decide)
              (hused.beforeBlanks hblanks'')
          split at h
          · rename_i next hskip
            rcases Option.map_eq_some_iff.mp h with ⟨r, hr, heq⟩
            cases heq
            rcases reads_parseFields fuel hr with ⟨used', rfl, hused'⟩
            refine ⟨_, ?_, hfield.separate (c := ',') (by decide) hused'⟩
            rw [hs, hopen, hafterKey, hcolon, hafter, hskip]
            simp
          · rename_i next hskip
            cases h
            refine ⟨_, ?_, hfield⟩
            rw [hs, hopen, hafterKey, hcolon, hafter, hskip]
            simp
          · cases h
        · cases h
      · cases h

end

theorem balanced_of_parse {s : List Char} {v : Json} (h : parse s = some v) : Balanced s := by
  unfold parse at h
  split at h
  · rename_i w rest hvalue
    split at h
    · rename_i hblank
      rcases reads_parseValue _ hvalue with ⟨used, rfl, hused⟩
      rcases skipBlanks_eq rest with ⟨blanks, hrest, hblanks⟩
      rw [hblank, List.append_nil] at hrest
      rw [hrest]
      exact hused.beforeBlanks hblanks
    · cases h
  · cases h

theorem balanced_printFields {fields : List (String × Json)} (hwf : WfFields fields) :
    Balanced (printFields fields) := by
  cases fields with
  | nil => exact balanced_nil
  | cons field fields =>
      have hread := parseFields_print field fields hwf _ (Nat.le_refl _) []
      rcases reads_parseFields _ hread with ⟨used, hprint, hused⟩
      rw [List.append_cancel_right hprint]
      exact hused

/-!
## Parts of objects
-/

/-- The first part of the text of an object whose first key starts with a letter. -/
def Fragment (t : List Char) : Prop :=
  exists inner, t <+: '{' :: (inner ++ ['}']) ∧ Balanced inner ∧
    exists c more, inner = '"' :: c :: more ∧ c.isAlpha = true

theorem run_fragment_ne_stuck {t : List Char} (h : Fragment t) :
    (outside 0).run t ≠ stuck := by
  rcases h with ⟨inner, hpart, hinner, _⟩
  apply run_prefix_ne_stuck hpart
  rw [hinner.enclose (Or.inl rfl) (Or.inl rfl)]
  exact fun heq => by cases heq

/-- Outside a string a fragment goes no higher than it began; in a string it gets stuck. -/
theorem Scan.Lost.fragment {scan : Scan} (h : scan.Lost) {t : List Char} (ht : Fragment t) :
    (scan.run t).Lost := by
  have hdeeper : forall depth, 0 < depth -> ((outside depth).run t).Lost := by
    intro depth hdepth
    have hraise := run_raise depth (run_fragment_ne_stuck ht)
    rcases Nat.exists_eq_succ_of_ne_zero (Nat.ne_of_gt hdepth) with ⟨k, rfl⟩
    show ((outside (k + 1)).run t).Lost
    rw [show outside (k + 1) = (outside 0).raise (k + 1) from by
      show _ = outside (0 + (k + 1))
      rw [Nat.zero_add]]
    rw [hraise]
    exact lost_raise _ k
  cases t with
  | nil => exact h
  | cons c t =>
      rcases ht with ⟨inner, hpart, _, d, more, rfl, hletter⟩
      rcases List.cons_prefix_cons.mp hpart with ⟨rfl, hbody⟩
      -- behind the brace a quote ends the string, and the letter cannot follow
      have hstring : forall depth, 0 < depth -> ((inside depth).run t).Lost := by
        intro depth hdepth
        clear hpart hdeeper
        cases t with
        | nil => exact hdepth
        | cons c t =>
            rcases List.cons_prefix_cons.mp hbody with ⟨rfl, hkey⟩
            cases t with
            | nil => exact hdepth
            | cons c t =>
                rcases List.cons_prefix_cons.mp hkey with ⟨rfl, _⟩
                show ((if c.isAlpha then stuck else mark depth c).run t).Lost
                rw [if_pos hletter, run_stuck]
                trivial
      cases scan with
      | outside depth => exact hdeeper depth h
      | closed depth => exact hdeeper depth h
      | inside depth => exact hstring depth h
      | escaped depth => exact hstring depth h
      | stuck =>
          rw [run_stuck]
          trivial

theorem Scan.Lost.fragments {scan : Scan} (h : scan.Lost) {parts : List (List Char)}
    (hparts : forall t, t ∈ parts -> Fragment t) : (scan.run parts.flatten).Lost := by
  induction parts generalizing scan with
  | nil => exact h
  | cons t parts ih =>
      rw [List.flatten_cons, run_append]
      exact ih (h.fragment (hparts t List.mem_cons_self))
        (fun u hu => hparts u (List.mem_cons_of_mem t hu))

theorem not_balanced_of_lost {s : List Char} (h : ((outside 0).run s).Lost) : ¬ Balanced s := by
  intro hbalanced
  rcases hbalanced with hend | hend
  · rw [hend] at h
    exact Nat.lt_irrefl 0 h
  · rw [hend] at h
    exact Nat.lt_irrefl 0 h

/-- Behind a broken-off object nothing that is written next makes the text JSON again. -/
theorem parse_broken_eq_none {inner p : List Char} (hinner : Balanced inner) (hp : p ≠ [])
    (hpart : p <+: '{' :: inner) {parts : List (List Char)}
    (hparts : forall t, t ∈ parts -> Fragment t) : parse (p ++ parts.flatten) = none := by
  cases hparse : parse (p ++ parts.flatten) with
  | none => rfl
  | some v =>
      refine absurd (balanced_of_parse hparse) (not_balanced_of_lost ?_)
      cases p with
      | nil => exact absurd rfl hp
      | cons c q =>
          rcases List.cons_prefix_cons.mp hpart with ⟨rfl, hq⟩
          have hraise := run_raise 1 (run_prefix_ne_stuck hq hinner.ne_stuck)
          have hlost : ((outside 1).run q).Lost := by
            show (((outside 0).raise 1).run q).Lost
            rw [hraise]
            exact lost_raise _ 0
          rw [run_append]
          exact hlost.fragments hparts

theorem parse_part_eq_none {fields : List (String × Json)} (hwf : Wf (obj fields))
    {s : List Char} (hs : s ≠ []) (hpart : s <+: print (obj fields))
    (hproper : s ≠ print (obj fields)) {parts : List (List Char)}
    (hparts : forall t, t ∈ parts -> Fragment t) : parse (s ++ parts.flatten) = none := by
  have hconcat : s <+: ('{' :: printFields fields) ++ ['}'] := hpart
  rcases List.prefix_concat_iff.mp hconcat with hwhole | hinner
  · exact absurd hwhole hproper
  · exact parse_broken_eq_none (balanced_printFields hwf.right) hs hinner hparts

theorem parse_cut_eq_none {fields : List (String × Json)} (hwf : Wf (obj fields))
    {s t : List Char} (hs : s ≠ []) (ht : t ≠ []) (hprint : print (obj fields) = s ++ t) :
    parse s = none := by
  have hpart : s <+: print (obj fields) := ⟨t, hprint.symm⟩
  have hproper : s ≠ print (obj fields) := by
    rw [hprint]
    exact fun hsame => ht (List.self_eq_append_right.mp hsame)
  have hnone := parse_part_eq_none hwf hs hpart hproper (List.forall_mem_nil Fragment)
  rwa [List.flatten_nil, List.append_nil] at hnone

theorem parse_twice_eq_none {fields : List (String × Json)} (hwf : Wf (obj fields))
    (t : List Char) : parse (print (obj fields) ++ '{' :: t) = none := by
  have hread := parseValue_print (obj fields) hwf ((print (obj fields) ++ '{' :: t).length + 1)
    (by rw [List.length_append]; omega) ('{' :: t) (closed_cons (by decide) t)
  rw [parse, hread]
  simp only
  rw [if_neg]
  rw [skipBlanks_cons (by decide)]
  exact List.cons_ne_nil _ _

end Json
end Foundation
end PanicMonitr
