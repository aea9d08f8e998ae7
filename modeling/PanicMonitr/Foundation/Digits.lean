import Mathlib.Data.List.Basic
import Mathlib.Tactic.Linarith

/-!
# Decimal and hexadecimal digit fields

Fixed-width decimal fields, as date and time texts use them, and the lower-case
hexadecimal text of a byte string together with its reader.
-/

namespace PanicMonitr
namespace Foundation

/-!
## Fixed-width decimal fields
-/

def padDigits : Nat -> Nat -> List Char
  | 0, _ => []
  | width + 1, n => padDigits width (n / 10) ++ [Nat.digitChar (n % 10)]

/-- Read exactly `width` decimal digits off the front of a text. -/
def takeDigits (width : Nat) (cs : List Char) : Option (Nat × List Char) :=
  if (cs.take width).length = width ∧ (cs.take width).all Char.isDigit then
    some (Nat.ofDigitChars 10 (cs.take width) 0, cs.drop width)
  else
    none

@[simp] theorem length_padDigits (width n : Nat) :
    (padDigits width n).length = width := by
  induction width generalizing n with
  | zero => rfl
  | succ width ih => simp [padDigits, ih]

theorem isDigit_of_mem_padDigits {width n : Nat} {c : Char}
    (hc : c ∈ padDigits width n) : c.isDigit = true := by
  induction width generalizing n with
  | zero => cases hc
  | succ width ih =>
      rcases List.mem_append.mp hc with hfront | hlast
      · exact ih hfront
      · rw [List.mem_singleton.mp hlast, Nat.isDigit_digitChar]
        exact decide_eq_true (Nat.mod_lt n (by decide))

theorem ofDigitChars_padDigits {width n : Nat} (hn : n < 10 ^ width) :
    Nat.ofDigitChars 10 (padDigits width n) 0 = n := by
  induction width generalizing n with
  | zero =>
      have hzero : n = 0 := by simpa using hn
      rw [hzero]
      rfl
  | succ width ih =>
      have hdiv : n / 10 < 10 ^ width := by
        rw [Nat.pow_succ] at hn
        omega
      have hmod : n % 10 < 10 := Nat.mod_lt n (by decide)
      rw [padDigits, Nat.ofDigitChars_append, ih hdiv, Nat.ofDigitChars_cons,
        Nat.ofDigitChars_nil, Nat.toNat_digitChar_of_lt_ten hmod]
      have h48 : '0'.toNat = 48 := rfl
      omega

theorem takeDigits_padDigits (width : Nat) {n : Nat} (rest : List Char)
    (hn : n < 10 ^ width) :
    takeDigits width (padDigits width n ++ rest) = some (n, rest) := by
  have htake : (padDigits width n ++ rest).take width = padDigits width n := by
    rw [List.take_append_of_le_length (by simp)]
    exact List.take_of_length_le (by simp)
  have hdrop : (padDigits width n ++ rest).drop width = rest := by
    rw [List.drop_append_of_le_length (by simp)]
    simp
  have hall : (padDigits width n).all Char.isDigit = true :=
    List.all_eq_true.mpr (fun c hc => isDigit_of_mem_padDigits hc)
  rw [takeDigits, htake, hdrop, if_pos ⟨length_padDigits width n, hall⟩,
    ofDigitChars_padDigits hn]

theorem head_toDigits_ne_zero {n : Nat} (hn : 0 < n) :
    (Nat.toDigits 10 n).head? ≠ some '0' := by
  induction n using Nat.strongRecOn with
  | _ n ih =>
      by_cases hsmall : n < 10
      · have hdigit : forall m, m < 10 -> 0 < m -> Nat.digitChar m ≠ '0' := by decide
        rw [Nat.toDigits_of_lt_base hsmall, List.head?_singleton]
        exact fun h => hdigit n hsmall hn (Option.some.inj h)
      · have hfront := ih (n / 10) (by omega) (by omega)
        rw [Nat.toDigits_of_base_le (by decide) (by omega),
          List.head?_append_of_ne_nil _ Nat.toDigits_ne_nil]
        exact hfront

/-!
## Hexadecimal text of bytes
-/

def hexByte (b : UInt8) : List Char :=
  [Nat.digitChar (b.toNat / 16), Nat.digitChar (b.toNat % 16)]

/-- `bytes.hex()` -/
def hex (bs : List UInt8) : String :=
  String.ofList (bs.flatMap hexByte)

def hexVal (c : Char) : Option Nat :=
  if '0' ≤ c ∧ c ≤ '9' then some (c.toNat - 48)
  else if 'a' ≤ c ∧ c ≤ 'f' then some (c.toNat - 87)
  else if 'A' ≤ c ∧ c ≤ 'F' then some (c.toNat - 55)
  else none

/-- ASCII whitespace, which `bytes.fromhex` skips between byte pairs. -/
def isHexBlank (c : Char) : Bool :=
  c = ' ' || ('\t' ≤ c && c ≤ '\r')

def fromhexChars : List Char -> Option (List UInt8)
  | [] => some []
  | [c] => if isHexBlank c then some [] else none
  | c :: d :: rest =>
      if isHexBlank c then fromhexChars (d :: rest)
      else
        match hexVal c, hexVal d with
        | some hi, some lo =>
            (fromhexChars rest).map (UInt8.ofNat (16 * hi + lo) :: ·)
        | _, _ => none

/-- `bytes.fromhex(text)`; `none` stands for its `ValueError`. -/
def fromhex (text : String) : Option (List UInt8) :=
  fromhexChars text.toList

theorem hexVal_digitChar {n : Nat} (hn : n < 16) :
    hexVal (Nat.digitChar n) = some n := by
  have hall : forall m, m < 16 -> hexVal (Nat.digitChar m) = some m := by decide
  exact hall n hn

theorem isHexBlank_digitChar {n : Nat} (hn : n < 16) :
    isHexBlank (Nat.digitChar n) = false := by
  have hall : forall m, m < 16 -> isHexBlank (Nat.digitChar m) = false := by decide
  exact hall n hn

theorem fromhexChars_hexByte_append (b : UInt8) (rest : List Char) :
    fromhexChars (hexByte b ++ rest) = (fromhexChars rest).map (b :: ·) := by
  have hb : b.toNat < 256 := b.toNat_lt
  have hhi : b.toNat / 16 < 16 := by omega
  have hlo : b.toNat % 16 < 16 := by omega
  have hbyte : UInt8.ofNat (16 * (b.toNat / 16) + b.toNat % 16) = b := by
    rw [Nat.div_add_mod]
    exact UInt8.ofNat_toNat
  simp [hexByte, fromhexChars, isHexBlank_digitChar hhi, hexVal_digitChar hhi,
    hexVal_digitChar hlo, hbyte]

theorem fromhex_hex (bs : List UInt8) : fromhex (hex bs) = some bs := by
  rw [fromhex, hex, String.toList_ofList]
  induction bs with
  | nil => rfl
  | cons b bs ih =>
      rw [List.flatMap_cons, fromhexChars_hexByte_append, ih]
      rfl

/-- Hexadecimal text is made of the characters `0-9a-f`. -/
theorem hexVal_isSome_of_mem_hex {bs : List UInt8} {c : Char}
    (hc : c ∈ (hex bs).toList) : (hexVal c).isSome = true := by
  rw [hex, String.toList_ofList] at hc
  rcases List.mem_flatMap.mp hc with ⟨b, _hb, hcb⟩
  have hlt : b.toNat < 256 := b.toNat_lt
  simp only [hexByte, List.mem_cons, List.not_mem_nil, or_false] at hcb
  rcases hcb with hhi | hlo
  · rw [hhi, hexVal_digitChar (by omega)]
    rfl
  · rw [hlo, hexVal_digitChar (by omega)]
    rfl

theorem fromhex_hex_blank {blanks : String} (hblanks : fromhex blanks = some [])
    (bs : List UInt8) : fromhex (hex bs ++ blanks) = some bs := by
  rw [fromhex, hex, String.toList_append, String.toList_ofList]
  induction bs with
  | nil => exact hblanks
  | cons b bs ih =>
      rw [List.flatMap_cons, List.append_assoc, fromhexChars_hexByte_append, ih]
      rfl

theorem hex_injective {bs bs' : List UInt8} (h : hex bs = hex bs') : bs = bs' := by
  have hread := fromhex_hex bs
  rw [h, fromhex_hex] at hread
  exact (Option.some.inj hread).symm

theorem char_of_fromhexChars {cs : List Char} {bs : List UInt8}
    (h : fromhexChars cs = some bs) {c : Char} (hc : c ∈ cs) :
    isHexBlank c = true ∨ (hexVal c).isSome = true := by
  induction cs using fromhexChars.induct generalizing bs with
  | case1 => cases hc
  | case2 d hblank =>
      rw [List.mem_singleton.mp hc]
      exact Or.inl hblank
  | case3 d hblank =>
      rw [fromhexChars, if_neg hblank] at h
      cases h
  | case4 d e rest hblank ih =>
      rw [fromhexChars, if_pos hblank] at h
      rcases List.mem_cons.mp hc with rfl | hrest
      · exact Or.inl hblank
      · exact ih h hrest
  | case5 d e rest hblank hi lo hlo hhi ih =>
      rw [fromhexChars, if_neg hblank] at h
      simp only [hhi, hlo] at h
      rcases Option.map_eq_some_iff.mp h with ⟨more, hmore, _⟩
      rcases List.mem_cons.mp hc with rfl | hrest
      · right
        rw [hhi]
        rfl
      rcases List.mem_cons.mp hrest with rfl | hrest
      · right
        rw [hlo]
        rfl
      · exact ih hmore hrest
  | case6 d e rest hblank hnone =>
      rw [fromhexChars, if_neg hblank] at h
      split at h
      · rename_i hi lo hhi hlo
        exact absurd hlo (hnone hi lo hhi)
      · cases h

end Foundation
end PanicMonitr
