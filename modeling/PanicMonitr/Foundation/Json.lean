import PanicMonitr.Foundation.Digits
import PanicMonitr.Foundation.Dict
import Mathlib.Data.List.Sort
import Mathlib.Data.List.TakeWhile

/-!
# JSON values and their compact text

Values as Python and a JSON library see them: objects are association lists in key
order of insertion, a float is kept as its text.  The printer is the compact one:
no blanks, the short escapes, `\u00xx` for the other control characters, and every
other character raw.
-/

namespace PanicMonitr
namespace Foundation

inductive Json where
  | null
  | bool (b : Bool)
  | int (n : Int)
  | float (text : List Char)
  | str (s : String)
  | arr (items : List Json)
  | obj (fields : List (String × Json))

namespace Json

/-!
## Numbers
-/

def isNumberChar (c : Char) : Bool :=
  c.isDigit || c = '-' || c = '+' || c = '.' || c = 'e' || c = 'E'

/-- `0` or digits without a leading zero. -/
def isNatToken (cs : List Char) : Bool :=
  cs ≠ [] && cs.all Char.isDigit && (cs.length = 1 || cs.head? ≠ some '0')

def natOfToken (cs : List Char) : Nat :=
  Nat.ofDigitChars 10 cs 0

/-- An exponent, its `e` included, to the end of the token. -/
def isExponent : List Char -> Bool
  | [] => true
  | e :: cs =>
      (e = 'e' || e = 'E') &&
        (let digits := if cs.head? = some '-' ∨ cs.head? = some '+' then cs.tail else cs
         digits ≠ [] && digits.all Char.isDigit)

/-- A fraction and an exponent, at least one of them, to the end of the token. -/
def isFractionExponent : List Char -> Bool
  | [] => false
  | '.' :: cs =>
      let digits := cs.takeWhile Char.isDigit
      digits ≠ [] && isExponent (cs.dropWhile Char.isDigit)
  | cs => isExponent cs

def unsigned (token : List Char) : List Char :=
  if token.head? = some '-' then token.tail else token

def signed (token : List Char) (n : Nat) : Int :=
  if token.head? = some '-' then -(n : Int) else n

def ofNumberToken (token : List Char) : Option Json :=
  if isNatToken (unsigned token) then
    some (int (signed token (natOfToken (unsigned token))))
  else if isNatToken ((unsigned token).takeWhile Char.isDigit) &&
      isFractionExponent ((unsigned token).dropWhile Char.isDigit) then
    some (float token)
  else
    none

def intText : Int -> List Char
  | Int.ofNat n => Nat.toDigits 10 n
  | Int.negSucc n => '-' :: Nat.toDigits 10 (n + 1)

/-!
## Printing
-/

/-- `\u00xx` -/
def unicodeEscape (c : Char) : List Char :=
  '\\' :: 'u' :: '0' :: '0' ::
    [Nat.digitChar (c.toNat / 16), Nat.digitChar (c.toNat % 16)]

def escapeChar (c : Char) : List Char :=
  if c = '"' then ['\\', '"']
  else if c = '\\' then ['\\', '\\']
  else if c = '\n' then ['\\', 'n']
  else if c = '\r' then ['\\', 'r']
  else if c = '\t' then ['\\', 't']
  else if c = '\x08' then ['\\', 'b']
  else if c = '\x0c' then ['\\', 'f']
  else if c.toNat < 32 then unicodeEscape c
  else [c]

def printString (s : String) : List Char :=
  '"' :: (s.toList.flatMap escapeChar ++ ['"'])

mutual

def print : Json -> List Char
  | null => ['n', 'u', 'l', 'l']
  | bool true => ['t', 'r', 'u', 'e']
  | bool false => ['f', 'a', 'l', 's', 'e']
  | int n => intText n
  | float text => text
  | str s => printString s
  | arr items => '[' :: (printItems items ++ [']'])
  | obj fields => '{' :: (printFields fields ++ ['}'])

def printItems : List Json -> List Char
  | [] => []
  | [v] => print v
  | v :: w :: rest => print v ++ ',' :: printItems (w :: rest)

def printFields : List (String × Json) -> List Char
  | [] => []
  | [(k, v)] => printString k ++ ':' :: print v
  | (k, v) :: field :: rest =>
      printString k ++ ':' :: (print v ++ ',' :: printFields (field :: rest))

end

/-!
## Well-formed values

What a Python value of JSON type always is: the keys of a dict are distinct, and the
text of a float is the text of a float.
-/

mutual

def Wf : Json -> Prop
  | null => True
  | bool _ => True
  | int _ => True
  | float text => ofNumberToken text = some (float text)
  | str _ => True
  | arr items => WfItems items
  | obj fields => (Assoc.keys fields).Nodup ∧ WfFields fields

def WfItems : List Json -> Prop
  | [] => True
  | v :: rest => Wf v ∧ WfItems rest

def WfFields : List (String × Json) -> Prop
  | [] => True
  | (_, v) :: rest => Wf v ∧ WfFields rest

end

mutual

/-- The character occurs in some string of the value, key or text. -/
def Mentions (c : Char) : Json -> Prop
  | null => False
  | bool _ => False
  | int _ => False
  | float _ => False
  | str s => c ∈ s.toList
  | arr items => MentionsItems c items
  | obj fields => MentionsFields c fields

def MentionsItems (c : Char) : List Json -> Prop
  | [] => False
  | v :: rest => Mentions c v ∨ MentionsItems c rest

def MentionsFields (c : Char) : List (String × Json) -> Prop
  | [] => False
  | (k, v) :: rest => c ∈ k.toList ∨ Mentions c v ∨ MentionsFields c rest

end

/-!
## Keys in order

`json.dumps(value, sort_keys=True)` prints the value with the fields of every object
sorted.
-/

mutual

def sortKeys : Json -> Json
  | arr items => arr (sortItems items)
  | obj fields => obj ((sortFields fields).insertionSort (fun a b => a.1 <= b.1))
  | v => v

def sortItems : List Json -> List Json
  | [] => []
  | v :: rest => sortKeys v :: sortItems rest

def sortFields : List (String × Json) -> List (String × Json)
  | [] => []
  | (k, v) :: rest => (k, sortKeys v) :: sortFields rest

end

theorem keys_sortFields : (fields : List (String × Json)) ->
    Assoc.keys (sortFields fields) = Assoc.keys fields
  | [] => rfl
  | (k, _) :: rest => congrArg (k :: ·) (keys_sortFields rest)

theorem wfFields_iff {fields : List (String × Json)} :
    WfFields fields <-> forall field, field ∈ fields -> Wf field.2 := by
  induction fields with
  | nil => simp [WfFields]
  | cons field fields ih => rw [WfFields, ih, List.forall_mem_cons]

theorem mem_sortFields {fields : List (String × Json)} {k : String} {v : Json}
    (h : (k, v) ∈ fields) : (k, sortKeys v) ∈ sortFields fields := by
  induction fields with
  | nil => cases h
  | cons field fields ih =>
      rcases List.mem_cons.mp h with rfl | hrest
      · exact List.mem_cons_self ..
      · exact List.mem_cons_of_mem _ (ih hrest)

mutual

theorem wf_sortKeys : (v : Json) -> Wf v -> Wf (sortKeys v)
  | null, h => h
  | bool _, h => h
  | int _, h => h
  | float _, h => h
  | str _, h => h
  | arr items, h => wfItems_sortItems items h
  | obj fields, h => by
      have hperm := List.perm_insertionSort (fun a b : String × Json => a.1 <= b.1)
        (sortFields fields)
      constructor
      · rw [Assoc.keys, (hperm.map Prod.fst).nodup_iff, ← Assoc.keys, keys_sortFields]
        exact h.left
      · rw [wfFields_iff]
        intro field hfield
        exact wfFields_iff.mp (wfFields_sortFields fields h.right) field
          (hperm.mem_iff.mp hfield)

theorem wfItems_sortItems : (items : List Json) -> WfItems items -> WfItems (sortItems items)
  | [], h => h
  | v :: rest, h => ⟨wf_sortKeys v h.left, wfItems_sortItems rest h.right⟩

theorem wfFields_sortFields : (fields : List (String × Json)) -> WfFields fields ->
    WfFields (sortFields fields)
  | [], h => h
  | (_, v) :: rest, h => ⟨wf_sortKeys v h.left, wfFields_sortFields rest h.right⟩

end

/-- Objects with the same sorted fields have the same value under every key, up to order. -/
theorem sorted_field {fields fields' : List (String × Json)}
    (h : sortKeys (obj fields) = sortKeys (obj fields'))
    (hkeys : (Assoc.keys fields').Nodup) {k : String} {v v' : Json} (hv : (k, v) ∈ fields)
    (hv' : (k, v') ∈ fields') : sortKeys v = sortKeys v' := by
  have hsorted := obj.inj h
  have hperm := (List.perm_insertionSort (fun a b : String × Json => a.1 <= b.1)
    (sortFields fields)).symm
  rw [hsorted] at hperm
  have hperm' := hperm.trans (List.perm_insertionSort _ (sortFields fields'))
  have hin : (k, sortKeys v) ∈ sortFields fields' := hperm'.mem_iff.mp (mem_sortFields hv)
  have hin' := mem_sortFields hv'
  rw [← keys_sortFields] at hkeys
  have hget := Assoc.get?_eq_some_of_mem hkeys hin
  rw [Assoc.get?_eq_some_of_mem hkeys hin'] at hget
  exact (Option.some.inj hget).symm

/-!
## What the text is made of
-/

theorem digitChar_ascii {n : Nat} (hn : n < 16) : (Nat.digitChar n).toNat < 128 := by
  have hall : forall m, m < 16 -> (Nat.digitChar m).toNat < 128 := by decide
  exact hall n hn

/-- A character outside ASCII stays raw, and escapes make no such character. -/
theorem mem_escapeChar_iff {c x : Char} (hc : 128 <= c.toNat) :
    c ∈ escapeChar x <-> c = x := by
  have hne : forall a : Char, a.toNat < 128 -> c ≠ a := by
    intro a ha heq
    rw [heq] at hc
    omega
  unfold escapeChar
  repeat' split
  all_goals first
    | (rename_i h
       subst h
       refine iff_of_false ?_ (hne _ (by decide))
       simp only [List.mem_cons, List.not_mem_nil, or_false, not_or]
       exact ⟨hne _ (by decide), hne _ (by decide)⟩)
    | skip
  · rename_i hlow
    refine iff_of_false ?_ (hne _ (by omega))
    unfold unicodeEscape
    simp only [List.mem_cons, List.not_mem_nil, or_false, not_or]
    exact ⟨hne _ (by decide), hne _ (by decide), hne _ (by decide), hne _ (by decide),
      hne _ (digitChar_ascii (by omega)), hne _ (digitChar_ascii (by omega))⟩
  · exact List.mem_singleton

theorem le_of_mem_escapeChar {c x : Char} (hc : c ∈ escapeChar x) : 32 <= c.toNat := by
  have hdigit : forall m, m < 16 -> 32 <= (Nat.digitChar m).toNat := by decide
  unfold escapeChar at hc
  repeat' split at hc
  all_goals first
    | (simp only [List.mem_cons, List.not_mem_nil, or_false] at hc
       rcases hc with hc | hc <;> (rw [hc]; decide))
    | skip
  · rename_i hlow
    unfold unicodeEscape at hc
    simp only [List.mem_cons, List.not_mem_nil, or_false] at hc
    rcases hc with hc | hc | hc | hc | hc | hc
    · rw [hc]; decide
    · rw [hc]; decide
    · rw [hc]; decide
    · rw [hc]; decide
    · rw [hc]
      exact hdigit _ (by omega)
    · rw [hc]
      exact hdigit _ (by omega)
  · rename_i hlow
    rw [List.mem_singleton.mp hc]
    omega

theorem isNumberChar_of_isDigit {c : Char} (hc : c.isDigit = true) :
    isNumberChar c = true := by
  simp [isNumberChar, hc]

theorem isNumberChar_of_isExponent {cs : List Char} (h : isExponent cs = true) {c : Char}
    (hc : c ∈ cs) : isNumberChar c = true := by
  cases cs with
  | nil => cases hc
  | cons e cs =>
      simp only [isExponent, Bool.and_eq_true, Bool.or_eq_true, decide_eq_true_eq] at h
      rcases h with ⟨he, _hne, hdigits⟩
      rcases List.mem_cons.mp hc with hhead | htail
      · rw [hhead]
        rcases he with he | he <;> simp [isNumberChar, he]
      · split at hdigits
        · rename_i hsign
          cases cs with
          | nil => cases htail
          | cons sign digits =>
              rcases List.mem_cons.mp htail with hs | hd
              · rw [hs]
                rcases hsign with hsign | hsign <;>
                  · have hs' := Option.some.inj hsign
                    simp [isNumberChar, hs']
              · exact isNumberChar_of_isDigit (List.all_eq_true.mp hdigits c hd)
        · exact isNumberChar_of_isDigit (List.all_eq_true.mp hdigits c htail)

theorem isNumberChar_of_isFractionExponent {cs : List Char}
    (h : isFractionExponent cs = true) {c : Char} (hc : c ∈ cs) :
    isNumberChar c = true := by
  unfold isFractionExponent at h
  split at h
  · cases h
  · rename_i digits
    rw [Bool.and_eq_true] at h
    rcases List.mem_cons.mp hc with hdot | htail
    · rw [hdot]
      rfl
    · rw [← List.takeWhile_append_dropWhile (p := Char.isDigit) (l := digits)] at htail
      rcases List.mem_append.mp htail with hd | he
      · exact isNumberChar_of_isDigit (List.mem_takeWhile_imp hd)
      · exact isNumberChar_of_isExponent h.right he
  · exact isNumberChar_of_isExponent h hc

/-- A token the reader takes is not empty and made of number characters. -/
theorem isNumberChar_of_token {token : List Char} {v : Json}
    (h : ofNumberToken token = some v) :
    token ≠ [] ∧ forall c, c ∈ token -> isNumberChar c = true := by
  have hdigits : forall digits : List Char,
      (isNatToken digits = true ∨ (isNatToken (digits.takeWhile Char.isDigit) &&
        isFractionExponent (digits.dropWhile Char.isDigit)) = true) ->
      digits ≠ [] ∧ forall c, c ∈ digits -> isNumberChar c = true := by
    intro digits hdigits
    rcases hdigits with hnat | hfloat
    · simp only [isNatToken, Bool.and_eq_true, decide_eq_true_eq] at hnat
      exact ⟨hnat.left.left,
        fun c hc => isNumberChar_of_isDigit (List.all_eq_true.mp hnat.left.right c hc)⟩
    · rw [Bool.and_eq_true] at hfloat
      refine ⟨?_, fun c hc => ?_⟩
      · intro hnil
        rw [hnil] at hfloat
        simp [isNatToken] at hfloat
      · rw [← List.takeWhile_append_dropWhile (p := Char.isDigit) (l := digits)] at hc
        rcases List.mem_append.mp hc with hd | he
        · exact isNumberChar_of_isDigit (List.mem_takeWhile_imp hd)
        · exact isNumberChar_of_isFractionExponent hfloat.right he
  have hread : isNatToken (unsigned token) = true ∨
      (isNatToken ((unsigned token).takeWhile Char.isDigit) &&
        isFractionExponent ((unsigned token).dropWhile Char.isDigit)) = true := by
    unfold ofNumberToken at h
    split at h
    · rename_i hnat
      exact Or.inl hnat
    · split at h
      · rename_i hfloat
        exact Or.inr hfloat
      · cases h
  rcases hdigits _ hread with ⟨hne, hall⟩
  cases token with
  | nil => exact absurd rfl hne
  | cons d rest =>
      refine ⟨List.cons_ne_nil d rest, fun c hc => ?_⟩
      unfold unsigned at hall
      by_cases hminus : (d :: rest).head? = some '-'
      · rw [if_pos hminus] at hall
        rcases List.mem_cons.mp hc with hhead | htail
        · rw [hhead, Option.some.inj hminus]
          rfl
        · exact hall c htail
      · rw [if_neg hminus] at hall
        exact hall c hc

theorem isDigit_of_mem_toDigits {n : Nat} {c : Char} (hc : c ∈ Nat.toDigits 10 n) :
    c.isDigit = true :=
  Nat.isDigit_of_mem_toDigits (by decide) (by decide) hc

theorem isNumberChar_of_mem_intText {n : Int} {c : Char} (hc : c ∈ intText n) :
    isNumberChar c = true := by
  cases n with
  | ofNat n => exact isNumberChar_of_isDigit (isDigit_of_mem_toDigits hc)
  | negSucc n =>
      rcases List.mem_cons.mp hc with hminus | hdigit
      · rw [hminus]
        rfl
      · exact isNumberChar_of_isDigit (isDigit_of_mem_toDigits hdigit)

theorem isNumberChar_range {c : Char} (hc : isNumberChar c = true) :
    32 <= c.toNat ∧ c.toNat < 128 := by
  simp only [isNumberChar, Bool.or_eq_true, decide_eq_true_eq, Char.isDigit,
    Bool.and_eq_true] at hc
  rcases hc with ((((hd | h) | h) | h) | h) | h
  · have hlow : '0'.toNat <= c.toNat := hd.left
    have hhigh : c.toNat <= '9'.toNat := hd.right
    have h0 : '0'.toNat = 48 := rfl
    have h9 : '9'.toNat = 57 := rfl
    omega
  all_goals
    rw [h]
    decide

theorem mem_printString_iff {c : Char} (hc : 128 <= c.toNat) (s : String) :
    c ∈ printString s <-> c ∈ s.toList := by
  have hquote : c ≠ '"' := by
    intro h
    rw [h] at hc
    revert hc
    decide
  unfold printString
  simp only [List.mem_cons, List.mem_append, List.mem_flatMap, List.not_mem_nil, or_false,
    hquote, false_or]
  constructor
  · rintro ⟨x, hx, hcx⟩
    rw [(mem_escapeChar_iff hc).mp hcx]
    exact hx
  · exact fun hin => ⟨c, hin, (mem_escapeChar_iff hc).mpr rfl⟩

theorem le_of_mem_printString {c : Char} {s : String} (hc : c ∈ printString s) :
    32 <= c.toNat := by
  unfold printString at hc
  simp only [List.mem_cons, List.mem_append, List.mem_flatMap, List.not_mem_nil,
    or_false] at hc
  rcases hc with hquote | ⟨x, _, hcx⟩ | hquote
  · rw [hquote]
    decide
  · exact le_of_mem_escapeChar hcx
  · rw [hquote]
    decide

section Raw

variable {c : Char} (hc : 128 <= c.toNat)
include hc

theorem ne_ascii {a : Char} (ha : a.toNat < 128) : c ≠ a := by
  intro h
  rw [h] at hc
  omega

theorem not_isNumberChar : ¬ isNumberChar c = true := by
  intro h
  have hlt := (isNumberChar_range h).right
  omega

mutual

/-- Outside ASCII the text of a value shows the characters of its strings, no others. -/
theorem mem_print_iff : (v : Json) -> Wf v -> (c ∈ print v <-> Mentions c v)
  | null, _ => by simp [print, Mentions, ne_ascii hc]
  | bool true, _ => by simp [print, Mentions, ne_ascii hc]
  | bool false, _ => by simp [print, Mentions, ne_ascii hc]
  | int n, _ =>
      iff_of_false (fun h => not_isNumberChar hc (isNumberChar_of_mem_intText h)) id
  | float text, hwf =>
      iff_of_false
        (fun h => not_isNumberChar hc ((isNumberChar_of_token hwf).right c h)) id
  | str s, _ => mem_printString_iff hc s
  | arr items, hwf => by
      have hopen : c ≠ '[' := ne_ascii hc (by decide)
      have hclose : c ≠ ']' := ne_ascii hc (by decide)
      simp only [print, Mentions, List.mem_cons, List.mem_append, List.not_mem_nil,
        or_false, hopen, hclose, false_or]
      exact mem_printItems_iff items hwf
  | obj fields, hwf => by
      have hopen : c ≠ '{' := ne_ascii hc (by decide)
      have hclose : c ≠ '}' := ne_ascii hc (by decide)
      simp only [print, Mentions, List.mem_cons, List.mem_append, List.not_mem_nil,
        or_false, hopen, hclose, false_or]
      exact mem_printFields_iff fields hwf.right

theorem mem_printItems_iff :
    (items : List Json) -> WfItems items ->
      (c ∈ printItems items <-> MentionsItems c items)
  | [], _ => by simp [printItems, MentionsItems]
  | [v], hwf => by
      simp only [printItems, MentionsItems, or_false]
      exact mem_print_iff v hwf.left
  | v :: w :: rest, hwf => by
      have hcomma : c ≠ ',' := ne_ascii hc (by decide)
      have hrest := mem_printItems_iff (w :: rest) hwf.right
      rw [printItems, List.mem_append, List.mem_cons, mem_print_iff v hwf.left, hrest]
      simp only [MentionsItems, hcomma, false_or]

theorem mem_printFields_iff :
    (fields : List (String × Json)) -> WfFields fields ->
      (c ∈ printFields fields <-> MentionsFields c fields)
  | [], _ => by simp [printFields, MentionsFields]
  | [(k, v)], hwf => by
      have hcolon : c ≠ ':' := ne_ascii hc (by decide)
      rw [printFields, List.mem_append, List.mem_cons, mem_printString_iff hc,
        mem_print_iff v hwf.left]
      simp only [MentionsFields, hcolon, false_or, or_false]
  | (k, v) :: field :: rest, hwf => by
      have hcolon : c ≠ ':' := ne_ascii hc (by decide)
      have hcomma : c ≠ ',' := ne_ascii hc (by decide)
      have hrest := mem_printFields_iff (field :: rest) hwf.right
      rw [printFields, List.mem_append, List.mem_cons, List.mem_append, List.mem_cons,
        mem_printString_iff hc, mem_print_iff v hwf.left, hrest]
      simp only [MentionsFields, hcolon, hcomma, false_or]

end

end Raw

mutual

theorem le_of_mem_print {c : Char} : (v : Json) -> Wf v -> c ∈ print v -> 32 <= c.toNat
  | null, _, h => by
      simp only [print, List.mem_cons, List.not_mem_nil, or_false] at h
      rcases h with h | h | h | h <;> (rw [h]; decide)
  | bool true, _, h => by
      simp only [print, List.mem_cons, List.not_mem_nil, or_false] at h
      rcases h with h | h | h | h <;> (rw [h]; decide)
  | bool false, _, h => by
      simp only [print, List.mem_cons, List.not_mem_nil, or_false] at h
      rcases h with h | h | h | h | h <;> (rw [h]; decide)
  | int n, _, h => (isNumberChar_range (isNumberChar_of_mem_intText h)).left
  | float text, hwf, h => (isNumberChar_range ((isNumberChar_of_token hwf).right c h)).left
  | str s, _, h => le_of_mem_printString h
  | arr items, hwf, h => by
      simp only [print, List.mem_cons, List.mem_append, List.not_mem_nil, or_false] at h
      rcases h with h | h | h
      · rw [h]; decide
      · exact le_of_mem_printItems items hwf h
      · rw [h]; decide
  | obj fields, hwf, h => by
      simp only [print, List.mem_cons, List.mem_append, List.not_mem_nil, or_false] at h
      rcases h with h | h | h
      · rw [h]; decide
      · exact le_of_mem_printFields fields hwf.right h
      · rw [h]; decide

theorem le_of_mem_printItems {c : Char} :
    (items : List Json) -> WfItems items -> c ∈ printItems items -> 32 <= c.toNat
  | [], _, h => by cases h
  | [v], hwf, h => le_of_mem_print v hwf.left h
  | v :: w :: rest, hwf, h => by
      rw [printItems, List.mem_append, List.mem_cons] at h
      rcases h with h | h | h
      · exact le_of_mem_print v hwf.left h
      · rw [h]; decide
      · exact le_of_mem_printItems (w :: rest) hwf.right h

theorem le_of_mem_printFields {c : Char} :
    (fields : List (String × Json)) -> WfFields fields -> c ∈ printFields fields ->
      32 <= c.toNat
  | [], _, h => by cases h
  | [(k, v)], hwf, h => by
      rw [printFields, List.mem_append, List.mem_cons] at h
      rcases h with h | h | h
      · exact le_of_mem_printString h
      · rw [h]; decide
      · exact le_of_mem_print v hwf.left h
  | (k, v) :: field :: rest, hwf, h => by
      rw [printFields, List.mem_append, List.mem_cons, List.mem_append, List.mem_cons] at h
      rcases h with h | h | h | h | h
      · exact le_of_mem_printString h
      · rw [h]; decide
      · exact le_of_mem_print v hwf.left h
      · rw [h]; decide
      · exact le_of_mem_printFields (field :: rest) hwf.right h

end

end Json

end Foundation
end PanicMonitr
