import Mathlib.Data.List.DropRight
import Mathlib.Data.List.TakeWhile

/-!
# Request targets and query strings

Percent escapes and query strings as `urllib.parse` reads them, and where a target is split
into path and query.  What a query brings back of a text that was put into it unquoted is
settled at the end.
-/

namespace PanicMonitr
namespace Foundation

/-!
## Octets that may not be UTF-8
-/

/-- A character begun: the octets it still needs, the range of the next, the value so far. -/
structure Owed where
  more : Nat
  low : Nat
  high : Nat
  value : Nat

def replacement : Char := '\ufffd'

/-- An octet that no character is waiting for. -/
def firstOctet (b : Nat) : List Char × Option Owed :=
  if b < 0x80 then ([Char.ofNat b], none)
  else if b < 0xc2 then ([replacement], none)
  else if b < 0xe0 then ([], some ⟨1, 0x80, 0xbf, b - 0xc0⟩)
  else if b < 0xf0 then
    ([], some ⟨2, if b = 0xe0 then 0xa0 else 0x80, if b = 0xed then 0x9f else 0xbf, b - 0xe0⟩)
  else if b < 0xf5 then
    ([], some ⟨3, if b = 0xf0 then 0x90 else 0x80, if b = 0xf4 then 0x8f else 0xbf, b - 0xf0⟩)
  else ([replacement], none)

/-- An octet that does not go on with the character begun replaces it and begins anew. -/
def nextOctet : Option Owed -> Nat -> List Char × Option Owed
  | none, b => firstOctet b
  | some owed, b =>
      if owed.low <= b ∧ b <= owed.high then
        if owed.more = 1 then ([Char.ofNat (owed.value * 64 + (b - 0x80))], none)
        else ([], some ⟨owed.more - 1, 0x80, 0xbf, owed.value * 64 + (b - 0x80)⟩)
      else (replacement :: (firstOctet b).1, (firstOctet b).2)

/-- `decode("utf-8", errors="replace")`, from within a character. -/
def decodeFrom : Option Owed -> List UInt8 -> List Char
  | none, [] => []
  | some _, [] => [replacement]
  | owed, b :: bs => (nextOctet owed b.toNat).1 ++ decodeFrom (nextOctet owed b.toNat).2 bs

def decodeReplace (bs : List UInt8) : List Char :=
  decodeFrom none bs

theorem firstOctet_length (b : Nat) :
    (firstOctet b).1.length + (firstOctet b).2.toList.length <= 1 := by
  unfold firstOctet
  split
  · exact Nat.le_refl _
  · split
    · exact Nat.le_refl _
    · split
      · exact Nat.le_refl _
      · split
        · exact Nat.le_refl _
        · split <;> exact Nat.le_refl _

theorem nextOctet_length (owed : Option Owed) (b : Nat) :
    (nextOctet owed b).1.length + (nextOctet owed b).2.toList.length <=
      1 + owed.toList.length := by
  have hfirst := firstOctet_length b
  cases owed with
  | none => exact Nat.le_trans hfirst (Nat.le_add_right _ _)
  | some owed =>
      unfold nextOctet
      simp only
      split
      · split
        · exact Nat.le_succ _
        · exact Nat.le_succ _
      · show (firstOctet b).1.length + 1 + (firstOctet b).2.toList.length <= 2
        omega

theorem decodeFrom_length (owed : Option Owed) (bs : List UInt8) :
    (decodeFrom owed bs).length <= bs.length + owed.toList.length := by
  induction bs generalizing owed with
  | nil =>
      cases owed with
      | none => exact Nat.le_refl _
      | some owed => exact Nat.le_refl _
  | cons b bs ih =>
      have hnext := nextOctet_length owed b.toNat
      have hlater := ih (nextOctet owed b.toNat).2
      rw [decodeFrom, List.length_append, List.length_cons]
      omega

theorem decodeReplace_length (bs : List UInt8) : (decodeReplace bs).length <= bs.length :=
  decodeFrom_length none bs

def isAscii (c : Char) : Bool :=
  c.toNat < 128

def octetOf (c : Char) : UInt8 :=
  UInt8.ofNat c.toNat

theorem octetOf_toNat {c : Char} (h : isAscii c = true) : (octetOf c).toNat = c.toNat := by
  have hc : c.toNat < 128 := of_decide_eq_true h
  unfold octetOf
  rw [UInt8.toNat_ofNat']
  exact Nat.mod_eq_of_lt (by omega)

theorem decodeReplace_ascii {s : List Char} (h : s.all isAscii = true) :
    decodeReplace (s.map octetOf) = s := by
  unfold decodeReplace
  induction s with
  | nil => rfl
  | cons c s ih =>
      rw [List.all_cons, Bool.and_eq_true] at h
      have hc : c.toNat < 0x80 := of_decide_eq_true h.left
      have hfirst : nextOctet none (octetOf c).toNat = ([c], none) := by
        unfold nextOctet firstOctet
        rw [octetOf_toNat h.left]
        simp only [if_pos hc, Char.ofNat_toNat]
      rw [List.map_cons, decodeFrom, hfirst]
      exact congrArg (c :: ·) (ih h.right)

/-!
## Percent escapes
-/

def hexValue (c : Char) : Option Nat :=
  if '0' <= c ∧ c <= '9' then some (c.toNat - 48)
  else if 'a' <= c ∧ c <= 'f' then some (c.toNat - 87)
  else if 'A' <= c ∧ c <= 'F' then some (c.toNat - 55)
  else none

def hexOctet (a b : Char) : Option UInt8 :=
  match hexValue a, hexValue b with
  | some x, some y => some (UInt8.ofNat (16 * x + y))
  | _, _ => none

/-- `unquote_to_bytes` of ASCII characters; a `%` that escapes nothing stands for itself. -/
def unquoteToBytes : List Char -> List UInt8
  | '%' :: a :: b :: rest =>
      match hexOctet a b with
      | some octet => octet :: unquoteToBytes rest
      | none => octetOf '%' :: unquoteToBytes (a :: b :: rest)
  | c :: rest => octetOf c :: unquoteToBytes rest
  | [] => []

/-- `unquote`: the escapes of each run of ASCII characters are decoded together. -/
def unquoteFrom : List Char -> List Char -> List Char
  | run, [] => decodeReplace (unquoteToBytes run)
  | run, c :: rest =>
      if isAscii c = true then unquoteFrom (run ++ [c]) rest
      else decodeReplace (unquoteToBytes run) ++ c :: unquoteFrom [] rest

def unquote (s : List Char) : List Char :=
  unquoteFrom [] s

/-- Two hexadecimal digits stand behind a `%`. -/
def hasEscape : List Char -> Bool
  | '%' :: a :: b :: rest => (hexOctet a b).isSome || hasEscape (a :: b :: rest)
  | _ :: rest => hasEscape rest
  | [] => false

theorem unquoteFrom_ascii {s : List Char} (h : s.all isAscii = true) (run : List Char) :
    unquoteFrom run s = decodeReplace (unquoteToBytes (run ++ s)) := by
  induction s generalizing run with
  | nil =>
      rw [List.append_nil]
      rfl
  | cons c s ih =>
      rw [List.all_cons, Bool.and_eq_true] at h
      unfold unquoteFrom
      rw [if_pos h.left, ih h.right, List.append_assoc]
      rfl

theorem unquote_ascii {s : List Char} (h : s.all isAscii = true) :
    unquote s = decodeReplace (unquoteToBytes s) :=
  unquoteFrom_ascii h []

theorem hasEscape_plain {c : Char} {rest : List Char}
    (h : forall a b rest', c = '%' -> rest = a :: b :: rest' -> False) :
    hasEscape (c :: rest) = hasEscape rest := by
  rw [hasEscape]
  exact h

theorem unquoteToBytes_length (s : List Char) :
    (unquoteToBytes s).length <= s.length ∧
      (hasEscape s = true -> (unquoteToBytes s).length < s.length) := by
  fun_induction unquoteToBytes s with
  | case1 a b rest octet hoctet ih =>
      have hrest := ih.left
      simp only [List.length_cons]
      constructor
      · omega
      · intro _
        omega
  | case2 a b rest hoctet ih =>
      rcases ih with ⟨hle, hlt⟩
      simp only [List.length_cons] at hle hlt ⊢
      constructor
      · omega
      · intro hescape
        simp only [hasEscape, hoctet, Option.isSome_none, Bool.false_or] at hescape
        have hless := hlt hescape
        omega
  | case3 c rest hno ih =>
      rcases ih with ⟨hle, hlt⟩
      rw [List.length_cons, List.length_cons]
      constructor
      · omega
      · intro hescape
        rw [hasEscape_plain hno] at hescape
        have hless := hlt hescape
        omega
  | case4 => exact ⟨Nat.le_refl _, fun h => by cases h⟩

theorem unquoteToBytes_plain {s : List Char} (h : hasEscape s = false) :
    unquoteToBytes s = s.map octetOf := by
  fun_induction unquoteToBytes s with
  | case1 a b rest octet hoctet ih =>
      simp [hasEscape, hoctet] at h
  | case2 a b rest hoctet ih =>
      simp only [hasEscape, hoctet, Option.isSome_none, Bool.false_or] at h
      rw [ih h]
      rfl
  | case3 c rest hno ih =>
      rw [hasEscape_plain hno] at h
      rw [ih h]
      rfl
  | case4 => rfl

/-!
## Query strings
-/

/-- `replace("+", " ")` -/
def plusToSpace (s : List Char) : List Char :=
  s.map (fun c => if c = '+' then ' ' else c)

/-- `unquote(text.replace("+", " "))` -/
def unquotePlus (s : List Char) : List Char :=
  unquote (plusToSpace s)

/-- `field.split("=", 1)`, when there are two parts. -/
def splitField (field : List Char) : Option (List Char × List Char) :=
  match field.dropWhile (fun c => c ≠ '=') with
  | [] => none
  | _ :: value => some (field.takeWhile (fun c => c ≠ '='), value)

def parseField (field : List Char) : Option (List Char × List Char) :=
  match splitField field with
  | none => none
  | some (name, value) =>
      if value = [] then none else some (unquotePlus name, unquotePlus value)

/-- `parse_qsl(query)` -/
def parseQsl (query : List Char) : List (List Char × List Char) :=
  (query.splitOn '&').filterMap parseField

/-- The first value `parse_qs(query)` has for a name. -/
def queryValue (name query : List Char) : Option (List Char) :=
  ((parseQsl query).find? (fun pair => pair.1 = name)).map Prod.snd

/-- A value that may stand in a query as it is. -/
structure Literal (s : List Char) : Prop where
  nonempty : s ≠ []
  ampersand : '&' ∉ s
  plus : '+' ∉ s
  escape : hasEscape s = false

theorem splitField_cons {name : List Char} (hname : '=' ∉ name) (value : List Char) :
    splitField (name ++ '=' :: value) = some (name, value) := by
  have hpos : forall c, c ∈ name -> decide (c ≠ '=') = true := fun c hc =>
    decide_eq_true (fun h => hname (h ▸ hc))
  unfold splitField
  rw [List.dropWhile_append_of_pos hpos, List.takeWhile_append_of_pos hpos,
    List.dropWhile_cons_of_neg (by decide), List.takeWhile_cons_of_neg (by decide),
    List.append_nil]

theorem splitField_length {field name value : List Char}
    (h : splitField field = some (name, value)) :
    value.length < field.length ∧ forall c, c ∈ value -> c ∈ field := by
  unfold splitField at h
  cases hdrop : field.dropWhile (fun c => c ≠ '=') with
  | nil =>
      rw [hdrop] at h
      cases h
  | cons c rest =>
      rw [hdrop] at h
      cases h
      have hsuffix : c :: value <:+ field := hdrop ▸ List.dropWhile_suffix _
      exact ⟨hsuffix.length_le, fun x hx => hsuffix.mem (List.mem_cons_of_mem c hx)⟩

theorem plusToSpace_ascii {s : List Char} (h : s.all isAscii = true) :
    (plusToSpace s).all isAscii = true := by
  rw [List.all_eq_true] at h ⊢
  intro c hc
  rcases List.mem_map.mp hc with ⟨d, hd, rfl⟩
  split
  · decide
  · exact h d hd

theorem plusToSpace_length (s : List Char) : (plusToSpace s).length = s.length :=
  List.length_map _

theorem plusToSpace_eq_self_iff {s : List Char} : plusToSpace s = s <-> '+' ∉ s := by
  constructor
  · intro hself hplus
    rw [<- hself] at hplus
    rcases List.mem_map.mp hplus with ⟨c, _, hc⟩
    split at hc
    · cases hc
    · rename_i hne
      exact hne hc
  · intro habsent
    unfold plusToSpace
    have hsame : forall c, c ∈ s -> (if c = '+' then ' ' else c) = id c := fun c hc =>
      if_neg (fun hplus : c = '+' => habsent (hplus ▸ hc))
    rw [List.map_congr_left hsame, List.map_id]

theorem unquotePlus_ascii {s : List Char} (h : s.all isAscii = true) :
    unquotePlus s = decodeReplace (unquoteToBytes (plusToSpace s)) :=
  unquote_ascii (plusToSpace_ascii h)

theorem unquotePlus_length {s : List Char} (h : s.all isAscii = true) :
    (unquotePlus s).length <= s.length := by
  rw [unquotePlus_ascii h, <- plusToSpace_length s]
  exact Nat.le_trans (decodeReplace_length _) (unquoteToBytes_length _).left

theorem unquotePlus_eq_self_iff {s : List Char} (h : s.all isAscii = true) :
    unquotePlus s = s <-> '+' ∉ s ∧ hasEscape s = false := by
  rw [unquotePlus_ascii h]
  constructor
  · intro hself
    have hescape : hasEscape (plusToSpace s) = false := by
      -- an escape would make the result shorter
      by_contra htrue
      have hless := (unquoteToBytes_length (plusToSpace s)).right (Bool.not_eq_false _ ▸ htrue)
      have hdecoded := decodeReplace_length (unquoteToBytes (plusToSpace s))
      rw [hself] at hdecoded
      rw [plusToSpace_length] at hless
      omega
    rw [unquoteToBytes_plain hescape, decodeReplace_ascii (plusToSpace_ascii h)] at hself
    rw [hself] at hescape
    exact ⟨plusToSpace_eq_self_iff.mp hself, hescape⟩
  · intro hplain
    rw [plusToSpace_eq_self_iff.mpr hplain.left, unquoteToBytes_plain hplain.right,
      decodeReplace_ascii h]

theorem parseField_length {field name value : List Char} (hascii : field.all isAscii = true)
    (h : parseField field = some (name, value)) : value.length < field.length := by
  unfold parseField at h
  cases hsplit : splitField field with
  | none =>
      rw [hsplit] at h
      cases h
  | some pair =>
      rcases pair with ⟨name', raw⟩
      rw [hsplit] at h
      simp only at h
      split at h
      · cases h
      · cases h
        rcases splitField_length hsplit with ⟨hless, hmem⟩
        have hraw : raw.all isAscii = true :=
          List.all_eq_true.mpr (fun c hc => List.all_eq_true.mp hascii c (hmem c hc))
        exact Nat.lt_of_le_of_lt (unquotePlus_length hraw) hless

theorem infix_of_mem_splitOn {sep : Char} {s part : List Char} (h : part ∈ s.splitOn sep) :
    part <:+: s := by
  induction hlength : s.length using Nat.strong_induction_on generalizing s with
  | h n ih =>
      by_cases hsep : sep ∈ s
      · rcases List.eq_append_cons_of_mem hsep with ⟨front, back, rfl, hfront⟩
        rw [List.splitOn_append_cons_self_of_not_mem hfront] at h
        rw [List.length_append, List.length_cons] at hlength
        rcases List.mem_cons.mp h with rfl | hpart
        · exact (List.prefix_append part _).isInfix
        · have hback := ih back.length (by omega) hpart rfl
          exact hback.trans ⟨front ++ [sep], [], by simp⟩
      · rw [List.splitOn_eq_singleton hsep] at h
        cases List.mem_singleton.mp h
        exact List.infix_refl part

section Value

variable {name value : List Char}

theorem unquotePlus_of_literal (hascii : name.all isAscii = true) (h : Literal name) :
    unquotePlus name = name :=
  (unquotePlus_eq_self_iff hascii).mpr ⟨h.plus, h.escape⟩

theorem parseField_cons (hascii : name.all isAscii = true) (hname : Literal name)
    (hequals : '=' ∉ name) :
    parseField (name ++ '=' :: value) =
      if value = [] then none else some (name, unquotePlus value) := by
  unfold parseField
  rw [splitField_cons hequals]
  simp only [unquotePlus_of_literal hascii hname]

/-- The field with the name stands in front; when it is blank, later fields count. -/
theorem queryValue_front (hascii : name.all isAscii = true) (hname : Literal name)
    (hequals : '=' ∉ name) {query : List Char} {fields : List (List Char)}
    (hfields : query.splitOn '&' = (name ++ '=' :: value) :: fields) :
    queryValue name query =
      if value = [] then
        ((fields.filterMap parseField).find? (fun pair => pair.1 = name)).map Prod.snd
      else some (unquotePlus value) := by
  unfold queryValue parseQsl
  rw [hfields]
  have hparse : parseField (name ++ '=' :: value) =
      if value = [] then none else some (name, unquotePlus value) :=
    parseField_cons hascii hname hequals
  by_cases hempty : value = []
  · rw [if_pos hempty] at hparse ⊢
    rw [List.filterMap_cons_none hparse]
  · rw [if_neg hempty] at hparse ⊢
    rw [List.filterMap_cons_some hparse, List.find?_cons_of_pos (by simp)]
    rfl

theorem splitOn_front (hname : Literal name) (hvalue : '&' ∉ value) (rest : List Char) :
    (name ++ '=' :: (value ++ '&' :: rest)).splitOn '&' =
      (name ++ '=' :: value) :: rest.splitOn '&' := by
  have hfront : '&' ∉ name ++ '=' :: value := by
    simp [hname.ampersand, hvalue]
  rw [<- List.splitOn_append_cons_self_of_not_mem hfront, List.append_assoc]
  rfl

theorem splitOn_whole (hname : Literal name) (hvalue : '&' ∉ value) :
    (name ++ '=' :: value).splitOn '&' = [name ++ '=' :: value] := by
  apply List.splitOn_eq_singleton
  simp [hname.ampersand, hvalue]

theorem all_isAscii_of_part {s part : List Char} (h : part <:+: s) (hs : s.all isAscii = true) :
    part.all isAscii = true :=
  List.all_eq_true.mpr (fun c hc => List.all_eq_true.mp hs c (h.mem hc))

theorem fields_length {rest v : List Char} (hascii : rest.all isAscii = true)
    (h : (((rest.splitOn '&').filterMap parseField).find? (fun pair => pair.1 = name)).map
      Prod.snd = some v) : v.length < rest.length + 1 := by
  rcases Option.map_eq_some_iff.mp h with ⟨pair, hpair, rfl⟩
  rcases List.mem_filterMap.mp (List.mem_of_find?_eq_some hpair) with ⟨field, hfield, hparse⟩
  have hpart := infix_of_mem_splitOn hfield
  have hless := parseField_length (all_isAscii_of_part hpart hascii) hparse
  have hle := hpart.length_le
  omega

/-- A value is not read as something longer, and as something shorter behind a separator. -/
theorem queryValue_length (hascii : name.all isAscii = true) (hname : Literal name)
    (hequals : '=' ∉ name) (hvalue : value.all isAscii = true) {v : List Char}
    (h : queryValue name (name ++ '=' :: value) = some v) :
    v.length <= value.length ∧ ('&' ∈ value -> v.length < value.length) := by
  by_cases hsep : '&' ∈ value
  · rcases List.eq_append_cons_of_mem hsep with ⟨front, back, rfl, hfront⟩
    have hsplit := splitOn_front hname hfront back
    rw [queryValue_front hascii hname hequals hsplit] at h
    have hless : v.length < (front ++ '&' :: back).length := by
      rw [List.length_append, List.length_cons]
      split at h
      · have hback := fields_length
          (all_isAscii_of_part ⟨front ++ ['&'], [], by simp⟩ hvalue) h
        omega
      · cases h
        have hread := unquotePlus_length
          (all_isAscii_of_part (List.prefix_append front _).isInfix hvalue)
        omega
    exact ⟨Nat.le_of_lt hless, fun _ => hless⟩
  · rw [queryValue_front hascii hname hequals (splitOn_whole hname hsep)] at h
    split at h
    · cases h
    · cases h
      exact ⟨unquotePlus_length hvalue, fun hmem => absurd hmem hsep⟩

/-- What is put into a query unquoted comes back exactly when it is literal. -/
theorem queryValue_eq_iff (hascii : name.all isAscii = true) (hname : Literal name)
    (hequals : '=' ∉ name) (hvalue : value.all isAscii = true) :
    queryValue name (name ++ '=' :: value) = some value <-> Literal value := by
  constructor
  · intro h
    have hsep : '&' ∉ value := fun hmem =>
      Nat.lt_irrefl _ ((queryValue_length hascii hname hequals hvalue h).right hmem)
    rw [queryValue_front hascii hname hequals (splitOn_whole hname hsep)] at h
    split at h
    · cases h
    · rename_i hne
      have hread := (unquotePlus_eq_self_iff hvalue).mp (Option.some.inj h)
      exact ⟨hne, hsep, hread.left, hread.right⟩
  · intro h
    rw [queryValue_front hascii hname hequals (splitOn_whole hname h.ampersand),
      if_neg h.nonempty, unquotePlus_of_literal hvalue h]

end Value

/-!
## Request targets
-/

def stripParams (path : List Char) : List Char :=
  path.rdropWhile (fun c => c ≠ '/') ++
    (path.rtakeWhile (fun c => c ≠ '/')).takeWhile (fun c => c ≠ ';')

/-- `urlparse(target).path`, of a target that begins with one `/`. -/
def urlPath (target : List Char) : List Char :=
  stripParams ((target.takeWhile (fun c => c ≠ '#')).takeWhile (fun c => c ≠ '?'))

/-- `urlparse(target).query` -/
def urlQuery (target : List Char) : List Char :=
  ((target.takeWhile (fun c => c ≠ '#')).dropWhile (fun c => c ≠ '?')).drop 1

theorem stripParams_of_not_mem {path : List Char} (h : ';' ∉ path) : stripParams path = path := by
  unfold stripParams
  have hall : (path.rtakeWhile (fun c => c ≠ '/')).takeWhile (fun c => c ≠ ';') =
      path.rtakeWhile (fun c => c ≠ '/') := by
    rw [List.takeWhile_eq_self_iff]
    intro c hc
    have hpath : c ∈ path := (List.rtakeWhile_suffix _ path).mem hc
    exact decide_eq_true (fun hsemi : c = ';' => h (hsemi ▸ hpath))
  rw [hall]
  exact List.rdropWhile_append_rtakeWhile

section Target

variable {path rest : List Char}

theorem takeWhile_fragment (hpath : '#' ∉ path) :
    (path ++ '?' :: rest).takeWhile (fun c => c ≠ '#') =
      path ++ '?' :: rest.takeWhile (fun c => c ≠ '#') := by
  have hpos : forall c, c ∈ path -> decide (c ≠ '#') = true := fun c hc =>
    decide_eq_true (fun h : c = '#' => hpath (h ▸ hc))
  rw [List.takeWhile_append_of_pos hpos, List.takeWhile_cons_of_pos (by decide)]

theorem urlPath_query (hfragment : '#' ∉ path) (hquery : '?' ∉ path) (hparams : ';' ∉ path) :
    urlPath (path ++ '?' :: rest) = path := by
  have hpos : forall c, c ∈ path -> decide (c ≠ '?') = true := fun c hc =>
    decide_eq_true (fun h : c = '?' => hquery (h ▸ hc))
  unfold urlPath
  rw [takeWhile_fragment hfragment, List.takeWhile_append_of_pos hpos,
    List.takeWhile_cons_of_neg (by decide), List.append_nil, stripParams_of_not_mem hparams]

theorem urlQuery_query (hfragment : '#' ∉ path) (hquery : '?' ∉ path) :
    urlQuery (path ++ '?' :: rest) = rest.takeWhile (fun c => c ≠ '#') := by
  have hpos : forall c, c ∈ path -> decide (c ≠ '?') = true := fun c hc =>
    decide_eq_true (fun h : c = '?' => hquery (h ▸ hc))
  unfold urlQuery
  rw [takeWhile_fragment hfragment, List.dropWhile_append_of_pos hpos,
    List.dropWhile_cons_of_neg (by decide)]
  rfl

end Target

end Foundation
end PanicMonitr
