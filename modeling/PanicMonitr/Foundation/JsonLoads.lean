import PanicMonitr.Foundation.JsonDumps
import PanicMonitr.Foundation.JsonParser

/-!
# Reading what `json.dumps` printed

The layout with a blank behind every comma and colon, in ASCII.  A value written in it and
encoded is the value that `json.loads` reads from the decoded bytes.
-/

namespace PanicMonitr
namespace Foundation

/-!
## Decoding
-/

/-- `data.decode("utf-8")`; `none` is the error of bytes that are no UTF-8. -/
def decodeUtf8 (data : List UInt8) : Option (List Char) :=
  data.toByteArray.utf8Decode?.map Array.toList

theorem decodeUtf8_encodeUtf8 (text : List Char) : decodeUtf8 (encodeUtf8 text) = some text := by
  have hbytes : (encodeUtf8 text).toByteArray = text.utf8Encode := rfl
  rw [decodeUtf8, hbytes, List.utf8Decode?_utf8Encode]
  rfl

namespace Json

/-- `json.loads(data.decode("utf-8"))` -/
def loads (data : List UInt8) : Option Json :=
  (decodeUtf8 data).bind parse

/-!
## Escapes
-/

/-- The digits of `hexEscape n`. -/
def hexDigits (n : Nat) : List Char :=
  [Nat.digitChar (n / 4096 % 16), Nat.digitChar (n / 256 % 16), Nat.digitChar (n / 16 % 16),
    Nat.digitChar (n % 16)]

theorem hexEscape_append (n : Nat) (rest : List Char) :
    hexEscape n ++ rest = '\\' :: 'u' :: (hexDigits n ++ rest) := rfl

theorem readChar_unicode (rest : List Char) :
    readChar ('\\' :: 'u' :: rest) = readUnicode rest := rfl

theorem hex4_hexDigits {n : Nat} (hn : n < 65536) (rest : List Char) :
    hex4 (hexDigits n ++ rest) = some (n, rest) := by
  have hdigit : forall m, hexVal (Nat.digitChar (m % 16)) = some (m % 16) :=
    fun m => hexVal_digitChar (Nat.mod_lt m (by decide))
  have hsum : ((n / 4096 % 16 * 16 + n / 256 % 16) * 16 + n / 16 % 16) * 16 + n % 16 = n := by
    omega
  simp only [hexDigits, List.cons_append, List.nil_append, hex4, hdigit, hsum]

theorem readChar_hexEscape {n : Nat} (hn : n < 65536) (hplain : n < 0xD800 ∨ 0xE000 <= n)
    (rest : List Char) : readChar (hexEscape n ++ rest) = some (Char.ofNat n, rest) := by
  rw [hexEscape_append, readChar_unicode, readUnicode, hex4_hexDigits hn]
  simp only
  rw [if_neg (by omega), if_neg (by omega)]

theorem readChar_surrogates {high low : Nat} (hhigh : 0xD800 <= high ∧ high < 0xDC00)
    (hlow : 0xDC00 <= low ∧ low < 0xE000) (rest : List Char) :
    readChar (hexEscape high ++ (hexEscape low ++ rest)) =
      some (Char.ofNat (0x10000 + (high - 0xD800) * 0x400 + (low - 0xDC00)), rest) := by
  rw [hexEscape_append, hexEscape_append, readChar_unicode, readUnicode,
    hex4_hexDigits (by omega)]
  simp only
  rw [if_pos hhigh, hex4_hexDigits (by omega)]
  simp only
  rw [if_pos hlow]

theorem readChar_escapeAscii (c : Char) (rest : List Char) :
    readChar (escapeAscii c ++ rest) = some (c, rest) := by
  have hvalid : c.toNat < 0xD800 ∨ 0xDFFF < c.toNat ∧ c.toNat < 0x110000 := c.valid
  unfold escapeAscii
  split
  · rename_i h
    rw [h]
    rfl
  split
  · rename_i h
    rw [h]
    rfl
  split
  · rename_i h
    rw [h]
    rfl
  split
  · rename_i h
    rw [h]
    rfl
  split
  · rename_i h
    rw [h]
    rfl
  split
  · rename_i h
    rw [h]
    rfl
  split
  · rename_i h
    rw [h]
    rfl
  split
  · rename_i _ hslash _ _ _ _ _ hprintable
    have hnot : ¬ c.toNat < 32 := by omega
    simp [readChar, hslash, hnot]
  split
  · rename_i hbasic
    rw [readChar_hexEscape hbasic (by omega), Char.ofNat_toNat]
  · rename_i hbeyond
    have hsum : 0x10000 + (0xd800 + (c.toNat - 0x10000) / 0x400 - 0xD800) * 0x400 +
        (0xdc00 + (c.toNat - 0x10000) % 0x400 - 0xDC00) = c.toNat := by
      omega
    rw [List.append_assoc, readChar_surrogates (by omega) (by omega), hsum, Char.ofNat_toNat]

theorem head_escapeAscii_ne (c : Char) (rest : List Char) :
    (escapeAscii c ++ rest).head? ≠ some '"' := by
  unfold escapeAscii
  repeat' split
  all_goals first
    | (rename_i hquote _ _ _ _ _ _ _
       simp only [List.singleton_append, List.head?_cons]
       exact fun h => hquote (Option.some.inj h))
    | exact fun h => by cases h

/-!
## The layout of `json.dumps`
-/

/-- The default arguments of `json.dumps`. -/
def standard : Layout where
  escape := escapeAscii
  gap := [' ']
  reads := readChar_escapeAscii
  opens := head_escapeAscii_ne
  blank := fun c hc => by
    rw [List.mem_singleton.mp hc]
    decide

mutual

theorem write_standard : (v : Json) -> standard.write v = dumps v
  | null => rfl
  | bool true => rfl
  | bool false => rfl
  | int _ => rfl
  | float _ => rfl
  | str _ => rfl
  | arr items => by
      rw [Layout.write, dumps, writeItems_standard items]
  | obj fields => by
      rw [Layout.write, dumps, writeFields_standard fields]

theorem writeItems_standard : (items : List Json) -> standard.writeItems items = dumpsItems items
  | [] => rfl
  | [v] => write_standard v
  | v :: w :: rest => by
      rw [Layout.writeItems, dumpsItems, write_standard v, writeItems_standard (w :: rest)]
      rfl

theorem writeFields_standard : (fields : List (String × Json)) ->
    standard.writeFields fields = dumpsFields fields
  | [] => rfl
  | [(k, v)] => by
      rw [Layout.writeFields, dumpsFields, write_standard v]
      rfl
  | (k, v) :: field :: rest => by
      rw [Layout.writeFields, dumpsFields, write_standard v, writeFields_standard (field :: rest)]
      rfl

end

/-- A value that is dumped and encoded is the value that is decoded and loaded. -/
theorem loads_dumps {v : Json} (hwf : Wf v) : loads (encodeUtf8 (dumps v)) = some v := by
  rw [loads, decodeUtf8_encodeUtf8, Option.bind_some, ← write_standard]
  exact standard.parse_write hwf

theorem wf_loads {data : List UInt8} {v : Json} (h : loads data = some v) : Wf v := by
  rcases Option.bind_eq_some_iff.mp h with ⟨text, _, hparse⟩
  exact wf_parse hparse

end Json

end Foundation
end PanicMonitr
