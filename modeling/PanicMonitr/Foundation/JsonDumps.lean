import PanicMonitr.Foundation.Json

/-!
# What `json.dumps` prints, and how long it is

The standard printer with its default arguments: a blank behind every comma and colon,
and everything outside printable ASCII escaped.  The length of the encoded text is a sum
over the characters and marks of the value, computed without printing it.
-/

namespace PanicMonitr
namespace Foundation

/-!
## Bytes of a text
-/

/-- `text.encode("utf-8")` -/
def encodeUtf8 (text : List Char) : List UInt8 :=
  text.flatMap String.utf8EncodeChar

@[simp] theorem encodeUtf8_nil : encodeUtf8 [] = [] := rfl

@[simp] theorem encodeUtf8_cons (c : Char) (text : List Char) :
    encodeUtf8 (c :: text) = String.utf8EncodeChar c ++ encodeUtf8 text := rfl

@[simp] theorem encodeUtf8_append (text text' : List Char) :
    encodeUtf8 (text ++ text') = encodeUtf8 text ++ encodeUtf8 text' :=
  List.flatMap_append

theorem length_encodeUtf8_of_ascii {text : List Char}
    (h : forall c, c ∈ text -> c.toNat < 128) : (encodeUtf8 text).length = text.length := by
  induction text with
  | nil => rfl
  | cons c text ih =>
      have hhead : c.utf8Size = 1 := by
        have hc : c.val.toNat < 128 := h c (List.mem_cons_self ..)
        have hmax : (127 : UInt32).toNat = 127 := rfl
        rw [Char.utf8Size_eq_one_iff, UInt32.le_iff_toNat_le]
        omega
      rw [encodeUtf8_cons, List.length_append, String.length_utf8EncodeChar, hhead,
        ih (fun x hx => h x (List.mem_cons_of_mem c hx)), List.length_cons, Nat.add_comm]

namespace Json

/-!
## The printer
-/

/-- `'\\u{0:04x}'.format(n)` -/
def hexEscape (n : Nat) : List Char :=
  '\\' :: 'u' :: [Nat.digitChar (n / 4096 % 16), Nat.digitChar (n / 256 % 16),
    Nat.digitChar (n / 16 % 16), Nat.digitChar (n % 16)]

/-- `ESCAPE_ASCII`: a character beyond the basic plane is escaped as two surrogates. -/
def escapeAscii (c : Char) : List Char :=
  if c = '"' then ['\\', '"']
  else if c = '\\' then ['\\', '\\']
  else if c = '\n' then ['\\', 'n']
  else if c = '\r' then ['\\', 'r']
  else if c = '\t' then ['\\', 't']
  else if c = '\x0c' then ['\\', 'f']
  else if c = '\x08' then ['\\', 'b']
  else if 32 <= c.toNat ∧ c.toNat < 127 then [c]
  else if c.toNat < 0x10000 then hexEscape c.toNat
  else
    hexEscape (0xd800 + (c.toNat - 0x10000) / 0x400) ++
      hexEscape (0xdc00 + (c.toNat - 0x10000) % 0x400)

def dumpsString (s : String) : List Char :=
  '"' :: (s.toList.flatMap escapeAscii ++ ['"'])

mutual

/-- `json.dumps(value)` -/
def dumps : Json -> List Char
  | null => ['n', 'u', 'l', 'l']
  | bool true => ['t', 'r', 'u', 'e']
  | bool false => ['f', 'a', 'l', 's', 'e']
  | int n => intText n
  | float text => text
  | str s => dumpsString s
  | arr items => '[' :: (dumpsItems items ++ [']'])
  | obj fields => '{' :: (dumpsFields fields ++ ['}'])

def dumpsItems : List Json -> List Char
  | [] => []
  | [v] => dumps v
  | v :: w :: rest => dumps v ++ ',' :: ' ' :: dumpsItems (w :: rest)

def dumpsFields : List (String × Json) -> List Char
  | [] => []
  | [(k, v)] => dumpsString k ++ ':' :: ' ' :: dumps v
  | (k, v) :: field :: rest =>
      dumpsString k ++ ':' :: ' ' :: (dumps v ++ ',' :: ' ' :: dumpsFields (field :: rest))

end

/-!
## Its length in bytes
-/

def charCost (c : Char) : Nat :=
  if c = '"' ∨ c = '\\' ∨ c = '\n' ∨ c = '\r' ∨ c = '\t' ∨ c = '\x0c' ∨ c = '\x08' then 2
  else if 32 <= c.toNat ∧ c.toNat < 127 then 1
  else if c.toNat < 0x10000 then 6
  else 12

def textCost (text : List Char) : Nat :=
  (text.map charCost).sum

theorem textCost_le {text : List Char} {bound : Nat}
    (h : forall c, c ∈ text -> charCost c <= bound) : textCost text <= bound * text.length := by
  induction text with
  | nil => exact Nat.zero_le _
  | cons c text ih =>
      have hhead := h c (List.mem_cons_self ..)
      have hrest := ih (fun x hx => h x (List.mem_cons_of_mem c hx))
      unfold textCost at hrest ⊢
      rw [List.map_cons, List.sum_cons, List.length_cons, Nat.mul_add, Nat.mul_one]
      omega

theorem textCost_replicate (n : Nat) (c : Char) :
    textCost (List.replicate n c) = n * charCost c := by
  induction n with
  | zero =>
      rw [Nat.zero_mul]
      rfl
  | succ n ih =>
      unfold textCost at ih ⊢
      rw [List.replicate_succ, List.map_cons, List.sum_cons, ih, Nat.add_mul, Nat.one_mul,
        Nat.add_comm]

mutual

def size : Json -> Nat
  | null => 4
  | bool true => 4
  | bool false => 5
  | int n => (encodeUtf8 (intText n)).length
  | float text => (encodeUtf8 text).length
  | str s => 2 + textCost s.toList
  | arr items => 2 + itemsSize items
  | obj fields => 2 + fieldsSize fields

def itemsSize : List Json -> Nat
  | [] => 0
  | [v] => size v
  | v :: w :: rest => size v + 2 + itemsSize (w :: rest)

def fieldsSize : List (String × Json) -> Nat
  | [] => 0
  | [(k, v)] => 2 + textCost k.toList + 2 + size v
  | (k, v) :: field :: rest =>
      2 + textCost k.toList + 2 + size v + 2 + fieldsSize (field :: rest)

end

theorem length_hexEscape (n : Nat) : (encodeUtf8 (hexEscape n)).length = 6 := by
  have hdigit : forall m, m < 16 -> (Nat.digitChar m).toNat < 128 := by decide
  have hmod : forall m, m % 16 < 16 := fun m => Nat.mod_lt m (by decide)
  rw [length_encodeUtf8_of_ascii]
  · rfl
  · intro c hc
    unfold hexEscape at hc
    simp only [List.mem_cons, List.not_mem_nil, or_false] at hc
    rcases hc with hc | hc | hc | hc | hc | hc
    · rw [hc]; decide
    · rw [hc]; decide
    · rw [hc]; exact hdigit _ (hmod _)
    · rw [hc]; exact hdigit _ (hmod _)
    · rw [hc]; exact hdigit _ (hmod _)
    · rw [hc]; exact hdigit _ (hmod _)

theorem length_escapeAscii (c : Char) :
    (encodeUtf8 (escapeAscii c)).length = charCost c := by
  unfold escapeAscii charCost
  by_cases hquote : c = '"'
  · simp only [hquote, true_or, if_true]
    rfl
  by_cases hslash : c = '\\'
  · simp only [hslash]
    rfl
  by_cases hnewline : c = '\n'
  · simp only [hnewline]
    rfl
  by_cases hreturn : c = '\r'
  · simp only [hreturn]
    rfl
  by_cases htab : c = '\t'
  · simp only [htab]
    rfl
  by_cases hfeed : c = '\x0c'
  · simp only [hfeed]
    rfl
  by_cases hback : c = '\x08'
  · simp only [hback]
    rfl
  simp only [hquote, hslash, hnewline, hreturn, htab, hfeed, hback, or_self, if_false]
  split
  · rename_i hprintable
    exact length_encodeUtf8_of_ascii (fun x hx => by
      rw [List.mem_singleton.mp hx]
      omega)
  · split
    · exact length_hexEscape c.toNat
    · rw [encodeUtf8_append, List.length_append, length_hexEscape, length_hexEscape]

theorem length_flatMap_escapeAscii (text : List Char) :
    (encodeUtf8 (text.flatMap escapeAscii)).length = textCost text := by
  induction text with
  | nil => rfl
  | cons c text ih =>
      rw [List.flatMap_cons, encodeUtf8_append, List.length_append, length_escapeAscii, ih]
      rfl

theorem length_encodeUtf8_mark {c : Char} (hc : c.toNat < 128) (text : List Char) :
    (encodeUtf8 (c :: text)).length = 1 + (encodeUtf8 text).length := by
  have hone : (encodeUtf8 [c]).length = 1 :=
    length_encodeUtf8_of_ascii (fun x hx => by
      rw [List.mem_singleton.mp hx]
      exact hc)
  have hsplit : encodeUtf8 (c :: text) = encodeUtf8 [c] ++ encodeUtf8 text :=
    encodeUtf8_append [c] text
  rw [hsplit, List.length_append, hone]

theorem length_dumpsString (s : String) :
    (encodeUtf8 (dumpsString s)).length = 2 + textCost s.toList := by
  unfold dumpsString
  rw [length_encodeUtf8_mark (by decide), encodeUtf8_append, List.length_append,
    length_flatMap_escapeAscii, length_encodeUtf8_mark (by decide)]
  simp only [encodeUtf8_nil, List.length_nil]
  omega

mutual

theorem length_dumps : (v : Json) -> (encodeUtf8 (dumps v)).length = size v
  | null => rfl
  | bool true => rfl
  | bool false => rfl
  | int _ => rfl
  | float _ => rfl
  | str s => length_dumpsString s
  | arr items => by
      have hitems := length_dumpsItems items
      unfold dumps size
      rw [length_encodeUtf8_mark (by decide), encodeUtf8_append, List.length_append, hitems,
        length_encodeUtf8_mark (by decide)]
      simp only [encodeUtf8_nil, List.length_nil]
      omega
  | obj fields => by
      have hfields := length_dumpsFields fields
      unfold dumps size
      rw [length_encodeUtf8_mark (by decide), encodeUtf8_append, List.length_append, hfields,
        length_encodeUtf8_mark (by decide)]
      simp only [encodeUtf8_nil, List.length_nil]
      omega

theorem length_dumpsItems : (items : List Json) ->
    (encodeUtf8 (dumpsItems items)).length = itemsSize items
  | [] => rfl
  | [v] => length_dumps v
  | v :: w :: rest => by
      have hhead := length_dumps v
      have hrest := length_dumpsItems (w :: rest)
      unfold dumpsItems itemsSize
      rw [encodeUtf8_append, List.length_append, hhead, length_encodeUtf8_mark (by decide),
        length_encodeUtf8_mark (by decide), hrest]
      omega

theorem length_dumpsFields : (fields : List (String × Json)) ->
    (encodeUtf8 (dumpsFields fields)).length = fieldsSize fields
  | [] => rfl
  | [(k, v)] => by
      have hhead := length_dumps v
      unfold dumpsFields fieldsSize
      rw [encodeUtf8_append, List.length_append, length_dumpsString,
        length_encodeUtf8_mark (by decide), length_encodeUtf8_mark (by decide), hhead]
      omega
  | (k, v) :: field :: rest => by
      have hhead := length_dumps v
      have hrest := length_dumpsFields (field :: rest)
      unfold dumpsFields fieldsSize
      rw [encodeUtf8_append, List.length_append, length_dumpsString,
        length_encodeUtf8_mark (by decide), length_encodeUtf8_mark (by decide),
        encodeUtf8_append, List.length_append, hhead, length_encodeUtf8_mark (by decide),
        length_encodeUtf8_mark (by decide), hrest]
      omega

end

end Json

end Foundation
end PanicMonitr
