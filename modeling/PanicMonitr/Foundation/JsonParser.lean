import PanicMonitr.Foundation.Json

/-!
# Reading JSON

A reader for the JSON grammar with blanks, all escapes, surrogate pairs and repeated
keys (the last one wins), on fuel that the length of the text always covers.  It reads
back what the printer wrote.
-/

namespace PanicMonitr
namespace Foundation
namespace Json

def isJsonBlank (c : Char) : Bool :=
  c = ' ' || c = '\t' || c = '\n' || c = '\r'

def skipBlanks (s : List Char) : List Char :=
  s.dropWhile isJsonBlank

/-!
## Characters of a string
-/

def hex4 : List Char -> Option (Nat × List Char)
  | a :: b :: c :: d :: rest =>
      match hexVal a, hexVal b, hexVal c, hexVal d with
      | some a, some b, some c, some d =>
          some (((a * 16 + b) * 16 + c) * 16 + d, rest)
      | _, _, _, _ => none
  | _ => none

/-- The rest of a `\u` escape; a high surrogate takes the low one that follows. -/
def readUnicode (s : List Char) : Option (Char × List Char) :=
  match hex4 s with
  | none => none
  | some (n, rest) =>
      if 0xD800 <= n ∧ n < 0xDC00 then
        match rest with
        | '\\' :: 'u' :: rest =>
            match hex4 rest with
            | none => none
            | some (m, rest) =>
                if 0xDC00 <= m ∧ m < 0xE000 then
                  some (Char.ofNat (0x10000 + (n - 0xD800) * 0x400 + (m - 0xDC00)), rest)
                else none
        | _ => none
      else if 0xDC00 <= n ∧ n < 0xE000 then none
      else some (Char.ofNat n, rest)

def readEscape (e : Char) (rest : List Char) : Option (Char × List Char) :=
  if e = '"' then some ('"', rest)
  else if e = '\\' then some ('\\', rest)
  else if e = '/' then some ('/', rest)
  else if e = 'b' then some ('\x08', rest)
  else if e = 'f' then some ('\x0c', rest)
  else if e = 'n' then some ('\n', rest)
  else if e = 'r' then some ('\r', rest)
  else if e = 't' then some ('\t', rest)
  else if e = 'u' then readUnicode rest
  else none

def readChar : List Char -> Option (Char × List Char)
  | [] => none
  | c :: rest =>
      if c = '\\' then
        match rest with
        | [] => none
        | e :: rest => readEscape e rest
      else if c.toNat < 32 then none
      else some (c, rest)

def parseChars : Nat -> List Char -> Option (List Char × List Char)
  | 0, _ => none
  | fuel + 1, s =>
      if s.head? = some '"' then some ([], s.tail)
      else
        match readChar s with
        | none => none
        | some (c, rest) => (parseChars fuel rest).map (fun r => (c :: r.1, r.2))

/-!
## Values
-/

def nullWord : List Char := ['n', 'u', 'l', 'l']
def trueWord : List Char := ['t', 'r', 'u', 'e']
def falseWord : List Char := ['f', 'a', 'l', 's', 'e']

/-- `null`, `true`, `false` or a number. -/
def parseScalar (s : List Char) : Option (Json × List Char) :=
  if nullWord.isPrefixOf s then some (null, s.drop 4)
  else if trueWord.isPrefixOf s then some (bool true, s.drop 4)
  else if falseWord.isPrefixOf s then some (bool false, s.drop 5)
  else (ofNumberToken (s.takeWhile isNumberChar)).map
    (fun v => (v, s.dropWhile isNumberChar))

def ofFields (fields : List (String × Json)) : Json :=
  obj (fields.foldl (fun d e => Assoc.set e.1 e.2 d) [])

mutual

def parseValue : Nat -> List Char -> Option (Json × List Char)
  | 0, _ => none
  | fuel + 1, s =>
      match skipBlanks s with
      | [] => none
      | c :: rest =>
          if c = '"' then
            (parseChars fuel rest).map (fun r => (str (String.ofList r.1), r.2))
          else if c = '[' then
            if (skipBlanks rest).head? = some ']' then
              some (arr [], (skipBlanks rest).tail)
            else (parseItems fuel rest).map (fun r => (arr r.1, r.2))
          else if c = '{' then
            if (skipBlanks rest).head? = some '}' then
              some (obj [], (skipBlanks rest).tail)
            else (parseFields fuel rest).map (fun r => (ofFields r.1, r.2))
          else parseScalar (c :: rest)

def parseItems : Nat -> List Char -> Option (List Json × List Char)
  | 0, _ => none
  | fuel + 1, s =>
      match parseValue fuel s with
      | none => none
      | some (v, rest) =>
          match skipBlanks rest with
          | ',' :: rest => (parseItems fuel rest).map (fun r => (v :: r.1, r.2))
          | ']' :: rest => some ([v], rest)
          | _ => none

def parseFields : Nat -> List Char -> Option (List (String × Json) × List Char)
  | 0, _ => none
  | fuel + 1, s =>
      match skipBlanks s with
      | '"' :: rest =>
          match parseChars fuel rest with
          | none => none
          | some (k, rest) =>
              match skipBlanks rest with
              | ':' :: rest =>
                  match parseValue fuel rest with
                  | none => none
                  | some (v, rest) =>
                      match skipBlanks rest with
                      | ',' :: rest =>
                          (parseFields fuel rest).map
                            (fun r => ((String.ofList k, v) :: r.1, r.2))
                      | '}' :: rest => some ([(String.ofList k, v)], rest)
                      | _ => none
              | _ => none
      | _ => none

end

def parse (s : List Char) : Option Json :=
  match parseValue (s.length + 1) s with
  | some (v, rest) => if skipBlanks rest = [] then some v else none
  | none => none

/-!
## Reading a printed string
-/

theorem hexVal_zero : hexVal '0' = some 0 := by
  decide

theorem readChar_escapeChar (c : Char) (rest : List Char) :
    readChar (escapeChar c ++ rest) = some (c, rest) := by
  unfold escapeChar
  split
  · rename_i h
    rw [h]
    rfl
  split
  · rename_i h
    rw [h]
    rfl
  split
  · rename_i h
    rw [h]
    rfl
  split
  · rename_i h
    rw [h]
    rfl
  split
  · rename_i h
    rw [h]
    rfl
  split
  · rename_i h
    rw [h]
    rfl
  split
  · rename_i h
    rw [h]
    rfl
  split
  · rename_i hlow
    have hhi := hexVal_digitChar (n := c.toNat / 16) (by omega)
    have hlo := hexVal_digitChar (n := c.toNat % 16) (by omega)
    have hsum : ((0 * 16 + 0) * 16 + c.toNat / 16) * 16 + c.toNat % 16 = c.toNat := by
      omega
    show readUnicode ('0' :: '0' :: Nat.digitChar (c.toNat / 16) ::
      Nat.digitChar (c.toNat % 16) :: rest) = _
    unfold readUnicode
    simp only [hex4, hexVal_zero, hhi, hlo, hsum]
    rw [if_neg (by omega), if_neg (by omega), Char.ofNat_toNat]
  · rename_i hquote hslash _ _ _ _ _ hlow
    simp [readChar, hslash, hlow]

theorem head_escapeChar_ne (c : Char) (rest : List Char) :
    (escapeChar c ++ rest).head? ≠ some '"' := by
  unfold escapeChar
  repeat' split
  all_goals first
    | (rename_i hquote _ _ _ _ _ _ _
       simp only [List.singleton_append, List.head?_cons]
       exact fun h => hquote (Option.some.inj h))
    | exact fun h => by cases h

/-!
## Layouts

A printer is known by how it escapes a character and by the blanks it leaves behind a
comma or a colon.  What matters is that an escape reads back as its character and is not
taken for a closing quote.
-/

structure Layout where
  escape : Char -> List Char
  gap : List Char
  reads : forall c rest, readChar (escape c ++ rest) = some (c, rest)
  opens : forall c rest, (escape c ++ rest).head? ≠ some '"'
  blank : forall c, c ∈ gap -> isJsonBlank c = true

namespace Layout

variable (lay : Layout)

def writeString (s : String) : List Char :=
  '"' :: (s.toList.flatMap lay.escape ++ ['"'])

mutual

def write : Json -> List Char
  | null => ['n', 'u', 'l', 'l']
  | bool true => ['t', 'r', 'u', 'e']
  | bool false => ['f', 'a', 'l', 's', 'e']
  | int n => intText n
  | float text => text
  | str s => lay.writeString s
  | arr items => '[' :: (writeItems items ++ [']'])
  | obj fields => '{' :: (writeFields fields ++ ['}'])

def writeItems : List Json -> List Char
  | [] => []
  | [v] => write v
  | v :: w :: rest => write v ++ ',' :: (lay.gap ++ writeItems (w :: rest))

def writeFields : List (String × Json) -> List Char
  | [] => []
  | [(k, v)] => lay.writeString k ++ ':' :: (lay.gap ++ write v)
  | (k, v) :: field :: rest =>
      lay.writeString k ++ ':' :: (lay.gap ++ (write v ++
        ',' :: (lay.gap ++ writeFields (field :: rest))))

end

theorem length_escape_pos (c : Char) : 1 <= (lay.escape c).length := by
  cases hescape : lay.escape c with
  | nil =>
      have hread := lay.reads c []
      rw [hescape] at hread
      cases hread
  | cons => exact Nat.succ_le_succ (Nat.zero_le _)

theorem parseChars_escaped {fuel : Nat} (cs rest : List Char)
    (hfuel : (cs.flatMap lay.escape).length + 1 <= fuel) :
    parseChars fuel (cs.flatMap lay.escape ++ '"' :: rest) = some (cs, rest) := by
  induction cs generalizing fuel with
  | nil =>
      cases fuel with
      | zero => omega
      | succ fuel => rfl
  | cons c cs ih =>
      cases fuel with
      | zero => omega
      | succ fuel =>
          have hpos := lay.length_escape_pos c
          rw [List.flatMap_cons, List.length_append] at hfuel
          rw [List.flatMap_cons, List.append_assoc, parseChars,
            if_neg (lay.opens c _), lay.reads]
          simp only
          rw [ih (by omega)]
          rfl

theorem parseChars_writeString (fuel : Nat) (s : String) (rest : List Char)
    (hfuel : (lay.writeString s).length <= fuel + 1) :
    exists body, lay.writeString s ++ rest = '"' :: body ∧
      parseChars fuel body = some (s.toList, rest) := by
  refine ⟨s.toList.flatMap lay.escape ++ '"' :: rest, ?_, ?_⟩
  · simp [writeString]
  · apply lay.parseChars_escaped
    simp only [writeString, List.length_cons, List.length_append, List.length_nil] at hfuel
    omega

end Layout

/-!
## Reading a printed value
-/

/-- What follows a number ends it. -/
def Closed (rest : List Char) : Prop :=
  forall c, rest.head? = some c -> isNumberChar c = false

theorem closed_cons {c : Char} (hc : isNumberChar c = false) (rest : List Char) :
    Closed (c :: rest) := by
  intro c' h
  rw [← Option.some.inj h]
  exact hc

theorem takeWhile_closed {token rest : List Char}
    (htoken : forall c, c ∈ token -> isNumberChar c = true) (hrest : Closed rest) :
    (token ++ rest).takeWhile isNumberChar = token ∧
      (token ++ rest).dropWhile isNumberChar = rest := by
  have hstop : rest.takeWhile isNumberChar = [] ∧ rest.dropWhile isNumberChar = rest := by
    cases rest with
    | nil => exact ⟨rfl, rfl⟩
    | cons c rest =>
        have hc := hrest c rfl
        simp [hc]
  constructor
  · rw [List.takeWhile_append_of_pos htoken, hstop.left, List.append_nil]
  · rw [List.dropWhile_append_of_pos htoken, hstop.right]

theorem skipBlanks_cons {c : Char} (hc : isJsonBlank c = false) (rest : List Char) :
    skipBlanks (c :: rest) = c :: rest := by
  simp [skipBlanks, hc]

theorem skipBlanks_append {gap : List Char} (h : forall c, c ∈ gap -> isJsonBlank c = true)
    (s : List Char) : skipBlanks (gap ++ s) = skipBlanks s :=
  List.dropWhile_append_of_pos h

theorem parseValue_append {gap : List Char} (h : forall c, c ∈ gap -> isJsonBlank c = true)
    (fuel : Nat) (s : List Char) : parseValue fuel (gap ++ s) = parseValue fuel s := by
  cases fuel with
  | zero => rfl
  | succ fuel => rw [parseValue, parseValue, skipBlanks_append h]

theorem parseItems_append {gap : List Char} (h : forall c, c ∈ gap -> isJsonBlank c = true)
    (fuel : Nat) (s : List Char) : parseItems fuel (gap ++ s) = parseItems fuel s := by
  cases fuel with
  | zero => rfl
  | succ fuel => rw [parseItems, parseItems, parseValue_append h]

theorem parseFields_append {gap : List Char} (h : forall c, c ∈ gap -> isJsonBlank c = true)
    (fuel : Nat) (s : List Char) : parseFields fuel (gap ++ s) = parseFields fuel s := by
  cases fuel with
  | zero => rfl
  | succ fuel => rw [parseFields, parseFields, skipBlanks_append h]

theorem isNumberChar_start {c : Char} (hc : isNumberChar c = true) :
    isJsonBlank c = false ∧ c ≠ '"' ∧ c ≠ '[' ∧ c ≠ '{' ∧ c ≠ ']' ∧
      c ≠ 'n' ∧ c ≠ 't' ∧ c ≠ 'f' := by
  have hne : forall a : Char, isNumberChar a = false -> c ≠ a := by
    intro a ha heq
    rw [heq, ha] at hc
    cases hc
  have hblank : isJsonBlank c = false := by
    simp [isJsonBlank, hne ' ' (by decide), hne '\t' (by decide), hne '\n' (by decide),
      hne '\r' (by decide)]
  exact ⟨hblank, hne _ (by decide), hne _ (by decide), hne _ (by decide),
    hne _ (by decide), hne _ (by decide), hne _ (by decide), hne _ (by decide)⟩

theorem parseScalar_number {token rest : List Char} {v : Json}
    (hread : ofNumberToken token = some v) (hrest : Closed rest) :
    parseScalar (token ++ rest) = some (v, rest) := by
  rcases isNumberChar_of_token hread with ⟨hne, hall⟩
  rcases takeWhile_closed hall hrest with ⟨htake, hdrop⟩
  cases token with
  | nil => exact absurd rfl hne
  | cons c cs =>
      rcases isNumberChar_start (hall c (List.mem_cons_self ..)) with
        ⟨_, _, _, _, _, hn, ht, hf⟩
      rw [List.cons_append] at htake hdrop ⊢
      have hwords : nullWord.isPrefixOf (c :: (cs ++ rest)) = false ∧
          trueWord.isPrefixOf (c :: (cs ++ rest)) = false ∧
          falseWord.isPrefixOf (c :: (cs ++ rest)) = false := by
        simp [nullWord, trueWord, falseWord, List.isPrefixOf, hn.symm, ht.symm, hf.symm]
      rw [parseScalar, hwords.left, hwords.right.left, hwords.right.right, htake, hdrop,
        hread]
      rfl

theorem parseValue_number {fuel : Nat} {token rest : List Char} {v : Json}
    (hread : ofNumberToken token = some v) (hrest : Closed rest) :
    parseValue (fuel + 1) (token ++ rest) = some (v, rest) := by
  have hscalar := parseScalar_number hread hrest
  rcases isNumberChar_of_token hread with ⟨hne, hall⟩
  cases token with
  | nil => exact absurd rfl hne
  | cons c cs =>
      rcases isNumberChar_start (hall c (List.mem_cons_self ..)) with
        ⟨hblank, hquote, hbracket, hbrace, _⟩
      rw [List.cons_append] at hscalar ⊢
      rw [parseValue, skipBlanks_cons hblank]
      simp only
      rw [if_neg hquote, if_neg hbracket, if_neg hbrace, hscalar]

theorem ofNumberToken_intText (n : Int) : ofNumberToken (intText n) = some (int n) := by
  have htoken : forall m, isNatToken (Nat.toDigits 10 m) = true := by
    intro m
    have hall : (Nat.toDigits 10 m).all Char.isDigit = true :=
      List.all_eq_true.mpr (fun c hc => isDigit_of_mem_toDigits hc)
    have hzero : (Nat.toDigits 10 m).length = 1 ∨
        (Nat.toDigits 10 m).head? ≠ some '0' := by
      by_cases hm : m < 10
      · rw [Nat.toDigits_of_lt_base hm]
        exact Or.inl rfl
      · right
        exact head_toDigits_ne_zero (by omega)
    simp only [isNatToken, hall, Bool.and_true, Bool.and_eq_true, decide_eq_true_eq,
      Bool.or_eq_true]
    exact ⟨Nat.toDigits_ne_nil, hzero⟩
  have hunsigned : forall m, (Nat.toDigits 10 m).head? ≠ some '-' := by
    intro m hhead
    have hin : '-' ∈ Nat.toDigits 10 m := List.mem_of_mem_head? hhead
    have hdigit := isDigit_of_mem_toDigits hin
    revert hdigit
    decide
  cases n with
  | ofNat m =>
      have hsame : unsigned (Nat.toDigits 10 m) = Nat.toDigits 10 m := by
        rw [unsigned, if_neg (hunsigned m)]
      rw [intText, ofNumberToken, hsame, if_pos (htoken m), natOfToken,
        Nat.ofDigitChars_ten_toDigits, signed, if_neg (hunsigned m)]
      rfl
  | negSucc m =>
      have hsame : unsigned ('-' :: Nat.toDigits 10 (m + 1)) = Nat.toDigits 10 (m + 1) := rfl
      rw [intText, ofNumberToken, hsame, if_pos (htoken (m + 1)), natOfToken,
        Nat.ofDigitChars_ten_toDigits]
      rfl

namespace Layout

variable (lay : Layout)

/-- A value starts with a character that is neither blank nor a closing bracket. -/
theorem write_cons : (v : Json) -> Wf v ->
    exists c cs, lay.write v = c :: cs ∧ isJsonBlank c = false ∧ c ≠ ']' := by
  have hnumber : forall token v, ofNumberToken token = some v ->
      exists c cs, token = c :: cs ∧ isJsonBlank c = false ∧ c ≠ ']' := by
    intro token v hread
    rcases isNumberChar_of_token hread with ⟨hne, hall⟩
    cases token with
    | nil => exact absurd rfl hne
    | cons c cs =>
        rcases isNumberChar_start (hall c (List.mem_cons_self ..)) with
          ⟨hblank, _, _, _, hclose, _⟩
        exact ⟨c, cs, rfl, hblank, hclose⟩
  intro v hwf
  cases v with
  | null => exact ⟨'n', _, rfl, by decide, by decide⟩
  | bool b =>
      cases b with
      | false => exact ⟨'f', _, rfl, by decide, by decide⟩
      | true => exact ⟨'t', _, rfl, by decide, by decide⟩
  | int n => exact hnumber (intText n) (int n) (ofNumberToken_intText n)
  | float text => exact hnumber text (float text) hwf
  | str s => exact ⟨'"', _, rfl, by decide, by decide⟩
  | arr items => exact ⟨'[', _, rfl, by decide, by decide⟩
  | obj fields => exact ⟨'{', _, rfl, by decide, by decide⟩

theorem length_write_pos (v : Json) (hwf : Wf v) : 1 <= (lay.write v).length := by
  rcases lay.write_cons v hwf with ⟨c, cs, hwrite, _⟩
  rw [hwrite, List.length_cons]
  omega

theorem writeItems_cons {v : Json} (items : List Json) (hwf : Wf v) :
    exists c cs, lay.writeItems (v :: items) = c :: cs ∧ isJsonBlank c = false ∧ c ≠ ']' := by
  rcases lay.write_cons v hwf with ⟨c, cs, hwrite, hblank, hclose⟩
  cases items with
  | nil => exact ⟨c, cs, hwrite, hblank, hclose⟩
  | cons w rest =>
      refine ⟨c, cs ++ ',' :: (lay.gap ++ lay.writeItems (w :: rest)), ?_, hblank, hclose⟩
      rw [writeItems, hwrite]
      rfl

theorem writeFields_cons (field : String × Json) (fields : List (String × Json)) :
    exists cs, lay.writeFields (field :: fields) = '"' :: cs := by
  cases fields with
  | nil => exact ⟨_, rfl⟩
  | cons => exact ⟨_, rfl⟩

mutual

/-- A well-formed value is read back from its text, whatever closed text follows. -/
theorem parseValue_write :
    (v : Json) -> Wf v -> (fuel : Nat) -> (lay.write v).length <= fuel ->
      (rest : List Char) -> Closed rest ->
        parseValue fuel (lay.write v ++ rest) = some (v, rest)
  | v, hwf, 0, hfuel, rest, _ => by
      have hpos := lay.length_write_pos v hwf
      omega
  | null, _, fuel + 1, _, rest, _ => by
      rw [parseValue, show lay.write null ++ rest = 'n' :: 'u' :: 'l' :: 'l' :: rest from rfl,
        skipBlanks_cons (by decide)]
      rfl
  | bool true, _, fuel + 1, _, rest, _ => by
      rw [parseValue, show lay.write (bool true) ++ rest = 't' :: 'r' :: 'u' :: 'e' :: rest
        from rfl, skipBlanks_cons (by decide)]
      rfl
  | bool false, _, fuel + 1, _, rest, _ => by
      rw [parseValue, show lay.write (bool false) ++ rest =
        'f' :: 'a' :: 'l' :: 's' :: 'e' :: rest from rfl, skipBlanks_cons (by decide)]
      rfl
  | int n, _, fuel + 1, _, rest, hrest =>
      parseValue_number (ofNumberToken_intText n) hrest
  | float text, hwf, fuel + 1, _, rest, hrest => parseValue_number hwf hrest
  | str s, _, fuel + 1, hfuel, rest, _ => by
      rcases lay.parseChars_writeString fuel s rest hfuel with ⟨body, hbody, hchars⟩
      rw [parseValue, write, hbody, skipBlanks_cons (by decide)]
      simp only [if_true, hchars, Option.map_some, String.ofList_toList]
  | arr [], _, fuel + 1, _, rest, _ => by
      rw [parseValue, show lay.write (arr []) ++ rest = '[' :: ']' :: rest from rfl,
        skipBlanks_cons (by decide)]
      rfl
  | arr (v :: items), hwf, fuel + 1, hfuel, rest, _ => by
      have hitems := parseItems_write v items hwf fuel
        (by simp only [write, List.length_cons, List.length_append, List.length_nil] at hfuel
            omega) rest
      rcases lay.writeItems_cons items hwf.left with ⟨c, cs, hwrite, hblank, hclose⟩
      have htext : lay.write (arr (v :: items)) ++ rest =
          '[' :: (lay.writeItems (v :: items) ++ ']' :: rest) := by
        simp [write]
      rw [parseValue, htext, skipBlanks_cons (by decide)]
      simp only [show ('[' : Char) ≠ '"' by decide, if_false, if_true]
      rw [hitems, hwrite, List.cons_append, skipBlanks_cons hblank, List.head?_cons,
        if_neg (fun h => hclose (Option.some.inj h))]
      rfl
  | obj [], _, fuel + 1, _, rest, _ => by
      rw [parseValue, show lay.write (obj []) ++ rest = '{' :: '}' :: rest from rfl,
        skipBlanks_cons (by decide)]
      rfl
  | obj (field :: fields), hwf, fuel + 1, hfuel, rest, _ => by
      have hfields := parseFields_write field fields hwf.right fuel
        (by simp only [write, List.length_cons, List.length_append, List.length_nil] at hfuel
            omega) rest
      rcases lay.writeFields_cons field fields with ⟨cs, hwrite⟩
      have htext : lay.write (obj (field :: fields)) ++ rest =
          '{' :: (lay.writeFields (field :: fields) ++ '}' :: rest) := by
        simp [write]
      have hdict : ofFields (field :: fields) = obj (field :: fields) := by
        rw [ofFields, Assoc.foldl_set_eq_append (by simpa using hwf.left)]
        rfl
      rw [parseValue, htext, skipBlanks_cons (by decide)]
      simp only [show ('{' : Char) ≠ '"' by decide, show ('{' : Char) ≠ '[' by decide,
        if_false, if_true]
      rw [hfields, hwrite, List.cons_append, skipBlanks_cons (by decide), List.head?_cons,
        if_neg (by decide)]
      simp only [Option.map_some, hdict]

theorem parseItems_write :
    (v : Json) -> (items : List Json) -> WfItems (v :: items) -> (fuel : Nat) ->
      (lay.writeItems (v :: items)).length + 1 <= fuel -> (rest : List Char) ->
        parseItems fuel (lay.writeItems (v :: items) ++ ']' :: rest) = some (v :: items, rest)
  | _, _, _, 0, hfuel, _ => by omega
  | v, [], hwf, fuel + 1, hfuel, rest => by
      have hvalue := parseValue_write v hwf.left fuel
        (by simp only [writeItems] at hfuel
            omega) (']' :: rest) (closed_cons (by decide) rest)
      rw [parseItems, writeItems, hvalue]
      simp only
      rw [skipBlanks_cons (by decide)]
      rfl
  | v, w :: items, hwf, fuel + 1, hfuel, rest => by
      rw [writeItems, List.length_append, List.length_cons, List.length_append] at hfuel
      have hpos := lay.length_write_pos v hwf.left
      have hvalue := parseValue_write v hwf.left fuel (by omega)
        (',' :: (lay.gap ++ (lay.writeItems (w :: items) ++ ']' :: rest)))
        (closed_cons (by decide) _)
      have hrest := parseItems_write w items hwf.right fuel (by omega) rest
      rw [parseItems, writeItems, List.append_assoc, List.cons_append, List.append_assoc,
        hvalue]
      simp only
      rw [skipBlanks_cons (by decide)]
      simp only
      rw [parseItems_append lay.blank, hrest]
      rfl

theorem parseFields_write :
    (field : String × Json) -> (fields : List (String × Json)) ->
      WfFields (field :: fields) -> (fuel : Nat) ->
      (lay.writeFields (field :: fields)).length + 1 <= fuel -> (rest : List Char) ->
        parseFields fuel (lay.writeFields (field :: fields) ++ '}' :: rest) =
          some (field :: fields, rest)
  | _, _, _, 0, hfuel, _ => by omega
  | (k, v), [], hwf, fuel + 1, hfuel, rest => by
      rw [writeFields, List.length_append, List.length_cons, List.length_append] at hfuel
      rcases lay.parseChars_writeString fuel k (':' :: (lay.gap ++ (lay.write v ++ '}' :: rest)))
        (by omega) with ⟨body, hbody, hchars⟩
      have hvalue := parseValue_write v hwf.left fuel (by omega) ('}' :: rest)
        (closed_cons (by decide) rest)
      rw [parseFields, writeFields, List.append_assoc, List.cons_append, List.append_assoc,
        hbody, skipBlanks_cons (by decide)]
      simp only [hchars]
      rw [skipBlanks_cons (by decide)]
      simp only [parseValue_append lay.blank, hvalue]
      rw [skipBlanks_cons (by decide)]
      simp only [String.ofList_toList]
  | (k, v), field :: fields, hwf, fuel + 1, hfuel, rest => by
      rw [writeFields, List.length_append, List.length_cons, List.length_append,
        List.length_append, List.length_cons, List.length_append] at hfuel
      have hpos := lay.length_write_pos v hwf.left
      rcases lay.parseChars_writeString fuel k
        (':' :: (lay.gap ++ (lay.write v ++
          ',' :: (lay.gap ++ (lay.writeFields (field :: fields) ++ '}' :: rest)))))
        (by omega) with ⟨body, hbody, hchars⟩
      have hvalue := parseValue_write v hwf.left fuel (by omega)
        (',' :: (lay.gap ++ (lay.writeFields (field :: fields) ++ '}' :: rest)))
        (closed_cons (by decide) _)
      have hrest := parseFields_write field fields hwf.right fuel (by omega) rest
      rw [parseFields, writeFields, List.append_assoc, List.cons_append, List.append_assoc,
        List.append_assoc, List.cons_append, List.append_assoc, hbody,
        skipBlanks_cons (by decide)]
      simp only [hchars]
      rw [skipBlanks_cons (by decide)]
      simp only [parseValue_append lay.blank, hvalue]
      rw [skipBlanks_cons (by decide)]
      simp only [parseFields_append lay.blank, hrest, Option.map_some, String.ofList_toList]

end

theorem parse_write {v : Json} (hwf : Wf v) : parse (lay.write v) = some v := by
  have hread := lay.parseValue_write v hwf ((lay.write v).length + 1) (by omega) []
    (fun c h => by cases h)
  rw [List.append_nil] at hread
  rw [parse, hread]
  rfl

end Layout

/-!
## The compact layout
-/

/-- `ensure_ascii=False, separators=(",", ":")` -/
def compact : Layout where
  escape := escapeChar
  gap := []
  reads := readChar_escapeChar
  opens := head_escapeChar_ne
  blank := fun c h => by cases h

mutual

theorem write_compact : (v : Json) -> compact.write v = print v
  | null => rfl
  | bool true => rfl
  | bool false => rfl
  | int _ => rfl
  | float _ => rfl
  | str _ => rfl
  | arr items => by
      rw [Layout.write, print, writeItems_compact items]
  | obj fields => by
      rw [Layout.write, print, writeFields_compact fields]

theorem writeItems_compact : (items : List Json) -> compact.writeItems items = printItems items
  | [] => rfl
  | [v] => write_compact v
  | v :: w :: rest => by
      rw [Layout.writeItems, printItems, write_compact v, writeItems_compact (w :: rest)]
      rfl

theorem writeFields_compact : (fields : List (String × Json)) ->
    compact.writeFields fields = printFields fields
  | [] => rfl
  | [(k, v)] => by
      rw [Layout.writeFields, printFields, write_compact v]
      rfl
  | (k, v) :: field :: rest => by
      rw [Layout.writeFields, printFields, write_compact v, writeFields_compact (field :: rest)]
      rfl

end

theorem parseValue_print (v : Json) (hwf : Wf v) (fuel : Nat) (hfuel : (print v).length <= fuel)
    (rest : List Char) (hrest : Closed rest) :
    parseValue fuel (print v ++ rest) = some (v, rest) := by
  rw [← write_compact] at hfuel ⊢
  exact compact.parseValue_write v hwf fuel hfuel rest hrest

theorem parseFields_print (field : String × Json) (fields : List (String × Json))
    (hwf : WfFields (field :: fields)) (fuel : Nat)
    (hfuel : (printFields (field :: fields)).length + 1 <= fuel) (rest : List Char) :
    parseFields fuel (printFields (field :: fields) ++ '}' :: rest) =
      some (field :: fields, rest) := by
  rw [← writeFields_compact] at hfuel ⊢
  exact compact.parseFields_write field fields hwf fuel hfuel rest

theorem parse_print {v : Json} (hwf : Wf v) : parse (print v) = some v := by
  rw [← write_compact]
  exact compact.parse_write hwf

theorem print_injective {v w : Json} (hv : Wf v) (hw : Wf w) (h : print v = print w) :
    v = w := by
  have hread := parse_print hv
  rw [h, parse_print hw] at hread
  exact (Option.some.inj hread).symm

/-!
## What the reader accepts

The values that are read are well formed: a dict filled field by field has every key once,
and a token that is no integer is kept as it stood.
-/

theorem wf_ofNumberToken {token : List Char} {v : Json} (h : ofNumberToken token = some v) :
    Wf v := by
  have htoken := h
  unfold ofNumberToken at h
  split at h
  · cases h
    trivial
  split at h
  · cases h
    exact htoken
  · cases h

theorem wf_parseScalar {s : List Char} {r : Json × List Char} (h : parseScalar s = some r) :
    Wf r.1 := by
  unfold parseScalar at h
  split at h
  · cases h
    trivial
  split at h
  · cases h
    trivial
  split at h
  · cases h
    trivial
  · rcases Option.map_eq_some_iff.mp h with ⟨v, hv, rfl⟩
    exact wf_ofNumberToken hv

theorem wf_ofFields {fields : List (String × Json)} (h : WfFields fields) :
    Wf (ofFields fields) := by
  have hfold : forall acc : List (String × Json), (Assoc.keys acc).Nodup -> WfFields acc ->
      Wf (obj (fields.foldl (fun d e => Assoc.set e.1 e.2 d) acc)) := by
    induction fields with
    | nil => exact fun acc hkeys hacc => ⟨hkeys, hacc⟩
    | cons field fields ih =>
        intro acc hkeys hacc
        apply ih h.right (Assoc.set field.1 field.2 acc) (Assoc.nodup_keys_set hkeys)
        rw [wfFields_iff] at hacc ⊢
        intro f hf
        rcases Assoc.mem_set hf with ⟨_, hvalue⟩ | hold
        · rw [hvalue]
          exact h.left
        · exact hacc f hold
  exact hfold [] List.nodup_nil trivial

mutual

theorem wf_parseValue : (fuel : Nat) -> {s : List Char} -> {r : Json × List Char} ->
    parseValue fuel s = some r -> Wf r.1
  | 0, _, _, h => by cases h
  | fuel + 1, s, r, h => by
      unfold parseValue at h
      split at h
      · cases h
      split at h
      · rcases Option.map_eq_some_iff.mp h with ⟨_, _, rfl⟩
        trivial
      split at h
      · split at h
        · cases h
          trivial
        · rcases Option.map_eq_some_iff.mp h with ⟨items, hitems, rfl⟩
          exact wf_parseItems fuel hitems
      split at h
      · split at h
        · cases h
          exact ⟨List.nodup_nil, trivial⟩
        · rcases Option.map_eq_some_iff.mp h with ⟨fields, hfields, rfl⟩
          exact wf_ofFields (wf_parseFields fuel hfields)
      · exact wf_parseScalar h

theorem wf_parseItems : (fuel : Nat) -> {s : List Char} -> {r : List Json × List Char} ->
    parseItems fuel s = some r -> WfItems r.1
  | 0, _, _, h => by cases h
  | fuel + 1, s, r, h => by
      unfold parseItems at h
      split at h
      · cases h
      rename_i v rest hvalue
      have hv : Wf v := wf_parseValue fuel hvalue
      split at h
      · rcases Option.map_eq_some_iff.mp h with ⟨more, hmore, rfl⟩
        exact ⟨hv, wf_parseItems fuel hmore⟩
      · cases h
        exact ⟨hv, trivial⟩
      · cases h

theorem wf_parseFields : (fuel : Nat) -> {s : List Char} ->
    {r : List (String × Json) × List Char} -> parseFields fuel s = some r -> WfFields r.1
  | 0, _, _, h => by cases h
  | fuel + 1, s, r, h => by
      unfold parseFields at h
      split at h
      · split at h
        · cases h
        split at h
        · split at h
          · cases h
          rename_i v rest hvalue
          have hv : Wf v := wf_parseValue fuel hvalue
          split at h
          · rcases Option.map_eq_some_iff.mp h with ⟨more, hmore, rfl⟩
            exact ⟨hv, wf_parseFields fuel hmore⟩
          · cases h
            exact ⟨hv, trivial⟩
          · cases h
        · cases h
      · cases h

end

theorem wf_parse {s : List Char} {v : Json} (h : parse s = some v) : Wf v := by
  unfold parse at h
  split at h
  · rename_i w rest hvalue
    split at h
    · cases h
      exact wf_parseValue _ hvalue
    · cases h
  · cases h

end Json
end Foundation
end PanicMonitr
