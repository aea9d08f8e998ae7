import PanicMonitr.Foundation.Digits

/-!
# Dates and times and their ISO 8601 text

Python's `datetime` with microsecond resolution: naive when there is no UTC
offset, aware otherwise.  `isoformat` prints it and `fromisoformat` reads any of
the formats the interpreter accepts (extended and basic calendar dates, week
dates, any separator character, fractions of a second, offsets).
-/

namespace PanicMonitr
namespace Foundation

/-- Microseconds since the Unix epoch. -/
abbrev Instant := Int

def microsPerSecond : Int := 1000000

def isLeap (year : Nat) : Bool :=
  year % 4 = 0 && (year % 100 ≠ 0 || year % 400 = 0)

def daysInMonth (year month : Nat) : Nat :=
  match month with
  | 2 => if isLeap year then 29 else 28
  | 4 | 6 | 9 | 11 => 30
  | _ => 31

/-- Days from 0001-01-01 to the first day of a year. -/
def daysBeforeYear (year : Nat) : Nat :=
  let y := year - 1
  y * 365 + y / 4 - y / 100 + y / 400

def daysBeforeMonth (year : Nat) : Nat -> Nat
  | 0 => 0
  | 1 => 0
  | month + 1 => daysBeforeMonth year month + daysInMonth year month

/-- `date.toordinal`: 0001-01-01 is day 1. -/
def ymdToOrdinal (year month day : Nat) : Nat :=
  daysBeforeYear year + daysBeforeMonth year month + day

structure Datetime where
  year : Nat
  month : Nat
  day : Nat
  hour : Nat
  minute : Nat
  second : Nat
  microsecond : Nat
  utcoffset : Option Int
  hyear : 1 <= year ∧ year <= 9999
  hmonth : 1 <= month ∧ month <= 12
  hday : 1 <= day ∧ day <= daysInMonth year month
  htime : hour < 24 ∧ minute < 60 ∧ second < 60 ∧ microsecond < 1000000
  hoffset : forall off, off ∈ utcoffset -> off.natAbs < 86400 * 1000000
  deriving DecidableEq

theorem offset_some {off : Int} (h : off.natAbs < 86400 * 1000000) :
    forall off', off' ∈ some off -> off'.natAbs < 86400 * 1000000 := by
  intro off' hoff
  rw [← Option.some.inj hoff]
  exact h

/-- The offset of `IST`. -/
theorem offset_ist : forall off, off ∈ some (19800000000 : Int) ->
    off.natAbs < 86400 * 1000000 :=
  offset_some (by decide)

namespace Datetime

def isAware (d : Datetime) : Bool :=
  d.utcoffset.isSome

/-- The clock fields as microseconds since 1970-01-01T00:00:00 on that clock. -/
def localMicros (d : Datetime) : Int :=
  ((((ymdToOrdinal d.year d.month d.day : Int) - 719163) * 24 + d.hour) * 60
    + d.minute) * 60 * 1000000 + d.second * 1000000 + d.microsecond

/-- The instant an aware value denotes; a naive one has none. -/
def instant? (d : Datetime) : Option Instant :=
  d.utcoffset.map (fun off => d.localMicros - off)

/--
The order comparisons of Python.  `none` stands for the `TypeError` of comparing a
naive with an aware value.
-/
def le? (d e : Datetime) : Option Bool :=
  match d.instant?, e.instant? with
  | some i, some j => some (decide (i <= j))
  | none, none => some (decide (d.localMicros <= e.localMicros))
  | _, _ => none

end Datetime

/-!
## Printing
-/

def fractionText (micros : Nat) : List Char :=
  if micros = 0 then [] else '.' :: padDigits 6 micros

/-- The magnitude of a UTC offset: `HH:MM[:SS[.ffffff]]`. -/
def offsetBody (a : Nat) : List Char :=
  padDigits 2 (a / 3600000000) ++ ':' :: (padDigits 2 (a / 60000000 % 60) ++
    (if a / 1000000 % 60 = 0 ∧ a % 1000000 = 0 then []
     else ':' :: (padDigits 2 (a / 1000000 % 60) ++ fractionText (a % 1000000))))

def offsetText (off : Int) : List Char :=
  (if off < 0 then '-' else '+') :: offsetBody off.natAbs

def timeText (d : Datetime) : List Char :=
  padDigits 2 d.hour ++ ':' :: (padDigits 2 d.minute ++ ':' ::
    (padDigits 2 d.second ++ fractionText d.microsecond))

def dateText (d : Datetime) : List Char :=
  padDigits 4 d.year ++ '-' :: (padDigits 2 d.month ++ '-' :: padDigits 2 d.day)

def offsetTextOf : Option Int -> List Char
  | none => []
  | some off => offsetText off

def isoformatChars (d : Datetime) : List Char :=
  dateText d ++ 'T' :: (timeText d ++ offsetTextOf d.utcoffset)

/-- `datetime.isoformat()` -/
def isoformat (d : Datetime) : String :=
  String.ofList (isoformatChars d)

/-!
## Reading
-/

def splitAtChar (c : Char) : List Char -> Option (List Char × List Char)
  | [] => none
  | x :: xs =>
      if x = c then some ([], xs)
      else (splitAtChar c xs).map (fun p => (x :: p.1, p.2))

/-- `HH[:?MM[:?SS[{.,}fff[fff]]]]` -/
def parseHhMmSsFf (s : List Char) : Option (Nat × Nat × Nat × Nat) := do
  let (h, r) <- takeDigits 2 s
  if r = [] then
    return (h, 0, 0, 0)
  let hasSep := r.head? = some ':'
  let r := if hasSep then r.tail else r
  let (m, r) <- takeDigits 2 r
  if r = [] then
    return (h, m, 0, 0)
  if hasSep ∧ r.head? ≠ some ':' then
    none
  let r := if hasSep then r.tail else r
  let (sec, r) <- takeDigits 2 r
  match r with
  | [] => return (h, m, sec, 0)
  | c :: frac =>
      if c ≠ '.' ∧ c ≠ ',' then
        none
      let width := min 6 frac.length
      if width = 0 then
        none
      let (us, rest) <- takeDigits width frac
      if rest.all Char.isDigit then
        return (h, m, sec, us * 10 ^ (6 - width))
      else
        none

/-- The zone part after its leading `-`, `+` or `Z`, as an offset in microseconds. -/
def parseTzOffset (sign : Char) (s : List Char) : Option Int :=
  if sign = 'Z' ∧ s = [] then
    some 0
  else if s.length = 0 ∨ s.length = 1 ∨ s.length = 3 then
    none
  else
    (parseHhMmSsFf s).map (fun (h, m, sec, us) =>
      let a : Int := ((h * 60 + m) * 60 + sec) * 1000000 + us
      if sign = '-' then -a else a)

/-- The zone starts at the first `-`, else at the first `+`, else at the first `Z`. -/
def findTz (s : List Char) : List Char × Option (Char × List Char) :=
  match splitAtChar '-' s with
  | some (time, zone) => (time, some ('-', zone))
  | none =>
      match splitAtChar '+' s with
      | some (time, zone) => (time, some ('+', zone))
      | none =>
          match splitAtChar 'Z' s with
          | some (time, zone) => (time, some ('Z', zone))
          | none => (s, none)

def parseIsoformatTime (s : List Char) :
    Option ((Nat × Nat × Nat × Nat) × Option Int) :=
  if s.length < 2 then
    none
  else
    match findTz s with
    | (time, none) => (parseHhMmSsFf time).map (fun comps => (comps, none))
    | (time, some (sign, zone)) =>
        match parseHhMmSsFf time, parseTzOffset sign zone with
        | some comps, some off => some (comps, some off)
        | _, _ => none

/-- The proleptic ordinal of the Monday of ISO week 1. -/
def isoweek1monday (year : Nat) : Nat :=
  let firstday := ymdToOrdinal year 1 1
  let firstWeekday := (firstday + 6) % 7
  let week1monday := firstday - firstWeekday
  if firstWeekday > 3 then week1monday + 7 else week1monday

/-- Month and day of a day of the year, counted from 1. -/
def monthDayOf (year : Nat) : Nat -> Nat -> Nat -> Nat × Nat
  | 0, month, day => (month, day)
  | fuel + 1, month, day =>
      if day <= daysInMonth year month then (month, day)
      else monthDayOf year fuel (month + 1) (day - daysInMonth year month)

def isoweekToGregorian (year week day : Nat) : Option (Nat × Nat × Nat) :=
  let firstWeekday := ymdToOrdinal year 1 1 % 7
  let longYear := firstWeekday = 4 ∨ (firstWeekday = 3 ∧ isLeap year)
  if year < 1 ∨ 9999 < year then none
  else if ¬ (0 < week ∧ week < 53) ∧ ¬ (week = 53 ∧ longYear) then none
  else if ¬ (0 < day ∧ day < 8) then none
  else
    let ord := isoweek1monday year + (week - 1) * 7 + (day - 1)
    let y :=
      if ord <= daysBeforeYear year then year - 1
      else if ord <= daysBeforeYear (year + 1) then year
      else year + 1
    let (month, dom) := monthDayOf y 12 1 (ord - daysBeforeYear y)
    some (y, month, dom)

/-- The date part: `YYYY-?MM-?DD` or `YYYY-?Www[-?D]`. -/
def parseIsoformatDate (s : List Char) : Option (Nat × Nat × Nat) := do
  let (year, r) <- takeDigits 4 s
  let hasSep := r.head? = some '-'
  let r := if hasSep then r.tail else r
  if r.head? = some 'W' then
    let (week, r) <- takeDigits 2 r.tail
    if r = [] then
      isoweekToGregorian year week 1
    else if ¬ (r.head? = some '-' ↔ hasSep) then
      none
    else
      let (day, _) <- takeDigits 1 (if hasSep then r.tail else r)
      isoweekToGregorian year week day
  else
    let (month, r) <- takeDigits 2 r
    if ¬ (r.head? = some '-' ↔ hasSep) then
      none
    let (day, r) <- takeDigits 2 (if hasSep then r.tail else r)
    if r = [] then
      return (year, month, day)
    else
      none

/-- Where the date part ends; the character there is the separator. -/
def findSeparator (s : List Char) : Option Nat :=
  let isDigitAt (i : Nat) : Bool := (s[i]?).any Char.isDigit
  if s.length = 7 then some 7
  else if s[4]? = some '-' then
    if s[5]? = some 'W' then
      if s.length < 8 then none
      else if s.length > 8 ∧ s[8]? = some '-' then
        if s.length = 9 then none
        else if s.length > 10 ∧ isDigitAt 10 then some 8
        else some 10
      else some 8
    else some 10
  else if s[4]? = some 'W' then
    let idx := 7 + ((s.drop 7).takeWhile Char.isDigit).length
    if idx < 9 then some idx
    else if idx % 2 = 0 then some 7
    else some 8
  else some 8

/-- The constructor's range checks; `none` stands for its `ValueError`. -/
def mkDatetime (date : Nat × Nat × Nat) (time : Nat × Nat × Nat × Nat)
    (utcoffset : Option Int) : Option Datetime :=
  if hvalid : (1 <= date.1 ∧ date.1 <= 9999) ∧ (1 <= date.2.1 ∧ date.2.1 <= 12) ∧
      (1 <= date.2.2 ∧ date.2.2 <= daysInMonth date.1 date.2.1) ∧
      (time.1 < 24 ∧ time.2.1 < 60 ∧ time.2.2.1 < 60 ∧ time.2.2.2 < 1000000) ∧
      (forall off, off ∈ utcoffset -> off.natAbs < 86400 * 1000000) then
    some
      { year := date.1, month := date.2.1, day := date.2.2, hour := time.1,
        minute := time.2.1, second := time.2.2.1, microsecond := time.2.2.2,
        utcoffset := utcoffset, hyear := hvalid.1, hmonth := hvalid.2.1,
        hday := hvalid.2.2.1, htime := hvalid.2.2.2.1, hoffset := hvalid.2.2.2.2 }
  else
    none

def fromisoformatChars (s : List Char) : Option Datetime := do
  if s.length < 7 then
    none
  let sep <- findSeparator s
  let date <- parseIsoformatDate (s.take sep)
  if s.length <= sep then
    mkDatetime date (0, 0, 0, 0) none
  else
    let (time, off) <- parseIsoformatTime (s.drop (sep + 1))
    mkDatetime date time off

/--
`datetime.fromisoformat(text)`; `none` stands for its `ValueError`.  As the documentation has it,
fractions belong to seconds only; the parser in C takes them after hours and minutes as well.
-/
def fromisoformat (text : String) : Option Datetime :=
  fromisoformatChars text.toList

/-!
## Round trip

Every value read back from its own `isoformat` text is the value itself: the
reader takes the extended calendar branch, and the sign of the zone is the first
`-` or `+` after the separator because fields hold digits, colons and a point only.
-/

theorem splitAtChar_eq_none {c : Char} {cs : List Char} (hc : c ∉ cs) :
    splitAtChar c cs = none := by
  induction cs with
  | nil => rfl
  | cons x xs ih =>
      rcases not_or.mp (fun h => hc (List.mem_cons.mpr h)) with ⟨hx, hxs⟩
      rw [splitAtChar, if_neg (Ne.symm hx), ih hxs]
      rfl

theorem splitAtChar_append {c : Char} {front back : List Char}
    (hc : c ∉ front) :
    splitAtChar c (front ++ c :: back) = some (front, back) := by
  induction front with
  | nil => simp [splitAtChar]
  | cons x xs ih =>
      rcases not_or.mp (fun h => hc (List.mem_cons.mpr h)) with ⟨hx, hxs⟩
      rw [List.cons_append, splitAtChar, if_neg (Ne.symm hx), ih hxs]
      rfl

def IsClockChar (c : Char) : Prop :=
  c.isDigit = true ∨ c = ':' ∨ c = '.'

theorem isClockChar_of_mem_fractionText {micros : Nat} {c : Char}
    (hc : c ∈ fractionText micros) : IsClockChar c := by
  unfold fractionText at hc
  split at hc
  · cases hc
  · rcases List.mem_cons.mp hc with hpoint | hdigit
    · exact Or.inr (Or.inr hpoint)
    · exact Or.inl (isDigit_of_mem_padDigits hdigit)

theorem isClockChar_of_mem_timeText {d : Datetime} {c : Char}
    (hc : c ∈ timeText d) : IsClockChar c := by
  simp only [timeText, List.mem_append, List.mem_cons] at hc
  rcases hc with hh | hcolon | hm | hcolon | hs | hfrac
  · exact Or.inl (isDigit_of_mem_padDigits hh)
  · exact Or.inr (Or.inl hcolon)
  · exact Or.inl (isDigit_of_mem_padDigits hm)
  · exact Or.inr (Or.inl hcolon)
  · exact Or.inl (isDigit_of_mem_padDigits hs)
  · exact isClockChar_of_mem_fractionText hfrac

theorem isClockChar_of_mem_offsetBody {a : Nat} {c : Char}
    (hc : c ∈ offsetBody a) : IsClockChar c := by
  simp only [offsetBody, List.mem_append, List.mem_cons] at hc
  rcases hc with hh | hcolon | hm | hrest
  · exact Or.inl (isDigit_of_mem_padDigits hh)
  · exact Or.inr (Or.inl hcolon)
  · exact Or.inl (isDigit_of_mem_padDigits hm)
  · split at hrest
    · cases hrest
    · simp only [List.mem_append, List.mem_cons] at hrest
      rcases hrest with hcolon | hs | hfrac
      · exact Or.inr (Or.inl hcolon)
      · exact Or.inl (isDigit_of_mem_padDigits hs)
      · exact isClockChar_of_mem_fractionText hfrac

theorem not_mem_of_isClockChar {c : Char} {cs : List Char}
    (hcs : forall x, x ∈ cs -> IsClockChar x) (hc : ¬ IsClockChar c) : c ∉ cs :=
  fun hmem => hc (hcs c hmem)

theorem not_isClockChar_signs :
    ¬ IsClockChar '-' ∧ ¬ IsClockChar '+' ∧ ¬ IsClockChar 'Z' := by
  unfold IsClockChar
  decide

/-- A two-digit field never starts with the `W` of a week date. -/
theorem digitChar_ne_week (n : Nat) : Nat.digitChar (n % 10) ≠ 'W' := by
  intro hW
  have hdigit := Nat.isDigit_digitChar (n := n % 10)
  rw [hW, decide_eq_true (Nat.mod_lt n (by decide))] at hdigit
  exact absurd hdigit (by decide)

theorem parseHhMmSsFf_minutes {h m : Nat} (hh : h < 100) (hm : m < 100) :
    parseHhMmSsFf (padDigits 2 h ++ ':' :: padDigits 2 m) = some (h, m, 0, 0) := by
  have htake := takeDigits_padDigits 2 (':' :: padDigits 2 m)
    (n := h) (by omega)
  have htake2 := takeDigits_padDigits 2 [] (n := m) (by omega)
  rw [List.append_nil] at htake2
  simp [parseHhMmSsFf, htake, htake2]

theorem parseHhMmSsFf_seconds {h m sec us : Nat} (hh : h < 100) (hm : m < 100)
    (hsec : sec < 100) (hus : us < 1000000) :
    parseHhMmSsFf (padDigits 2 h ++ ':' :: (padDigits 2 m ++ ':' ::
      (padDigits 2 sec ++ fractionText us))) = some (h, m, sec, us) := by
  have htake := takeDigits_padDigits 2
    (':' :: (padDigits 2 m ++ ':' :: (padDigits 2 sec ++ fractionText us)))
    (n := h) (by omega)
  have htake2 := takeDigits_padDigits 2
    (':' :: (padDigits 2 sec ++ fractionText us)) (n := m) (by omega)
  have htake3 := takeDigits_padDigits 2 (fractionText us)
    (n := sec) (by omega)
  by_cases hzero : us = 0
  · have hfrac : fractionText us = [] := by rw [fractionText, if_pos hzero]
    rw [hfrac] at htake htake2 htake3 ⊢
    simp only [List.append_nil] at htake htake2 htake3 ⊢
    rw [parseHhMmSsFf]
    simp only [htake, htake2, htake3, List.head?_cons, List.tail_cons,
      Option.bind_eq_bind, Option.bind_some, reduceCtorEq, if_false, if_true, ne_eq,
      not_true_eq_false, and_false, hzero]
    rfl
  · have hfrac : fractionText us = '.' :: padDigits 6 us := by
      rw [fractionText, if_neg hzero]
    have htake4 := takeDigits_padDigits 6 [] (n := us) (by omega)
    rw [List.append_nil] at htake4
    rw [hfrac] at htake htake2 htake3 ⊢
    have hwidth : min 6 (padDigits 6 us).length = 6 := by
      rw [length_padDigits]
      rfl
    rw [parseHhMmSsFf]
    simp only [htake, htake2, htake3, htake4, hwidth, List.head?_cons, List.tail_cons,
      Option.bind_eq_bind, Option.bind_some, reduceCtorEq, if_false, if_true, ne_eq,
      not_true_eq_false, and_false, false_and]
    rw [if_pos List.all_nil, Nat.sub_self, pow_zero, Nat.mul_one]
    rfl

theorem parseHhMmSsFf_timeText (d : Datetime) :
    parseHhMmSsFf (timeText d) =
      some (d.hour, d.minute, d.second, d.microsecond) := by
  rcases d.htime with ⟨hh, hm, hs, hus⟩
  exact parseHhMmSsFf_seconds (by omega) (by omega) (by omega) hus

theorem parseHhMmSsFf_offsetBody {a : Nat} (ha : a < 86400 * 1000000) :
    parseHhMmSsFf (offsetBody a) =
      some (a / 3600000000, a / 60000000 % 60, a / 1000000 % 60, a % 1000000) := by
  by_cases hzero : a / 1000000 % 60 = 0 ∧ a % 1000000 = 0
  · rw [offsetBody, if_pos hzero, List.append_nil,
      parseHhMmSsFf_minutes (by omega) (by omega), hzero.left, hzero.right]
  · rw [offsetBody, if_neg hzero]
    exact parseHhMmSsFf_seconds (by omega) (by omega) (by omega) (by omega)

theorem length_offsetBody (a : Nat) : 5 <= (offsetBody a).length := by
  simp only [offsetBody, List.length_append, List.length_cons, length_padDigits]
  omega

theorem parseTzOffset_offsetBody {off : Int} (hoff : off.natAbs < 86400 * 1000000) :
    parseTzOffset (if off < 0 then '-' else '+') (offsetBody off.natAbs) =
      some off := by
  have hlen := length_offsetBody off.natAbs
  have hsign : ¬ ((if off < 0 then '-' else '+') = 'Z' ∧
      offsetBody off.natAbs = []) := by
    intro h
    rw [h.right] at hlen
    simp at hlen
  have hshort : ¬ ((offsetBody off.natAbs).length = 0 ∨
      (offsetBody off.natAbs).length = 1 ∨ (offsetBody off.natAbs).length = 3) := by
    omega
  rw [parseTzOffset, if_neg hsign, if_neg hshort, parseHhMmSsFf_offsetBody hoff]
  by_cases hneg : off < 0
  · simp only [hneg, if_true, Option.map_some, Option.some.injEq]
    omega
  · have hplus : ¬ ('+' = '-') := by decide
    simp only [hneg, if_false, hplus, Option.map_some, Option.some.injEq]
    omega

theorem findTz_timeText (d : Datetime) :
    findTz (timeText d) = (timeText d, none) := by
  rcases not_isClockChar_signs with ⟨hminus, hplus, hzulu⟩
  have hall : forall x, x ∈ timeText d -> IsClockChar x :=
    fun _ hx => isClockChar_of_mem_timeText hx
  simp [findTz, splitAtChar_eq_none (not_mem_of_isClockChar hall hminus),
    splitAtChar_eq_none (not_mem_of_isClockChar hall hplus),
    splitAtChar_eq_none (not_mem_of_isClockChar hall hzulu)]

theorem findTz_timeText_offset (d : Datetime) (off : Int) :
    findTz (timeText d ++ offsetText off) =
      (timeText d, some (if off < 0 then '-' else '+', offsetBody off.natAbs)) := by
  rcases not_isClockChar_signs with ⟨hminus, hplus, _hzulu⟩
  have htime : forall x, x ∈ timeText d -> IsClockChar x :=
    fun _ hx => isClockChar_of_mem_timeText hx
  have hbody : forall x, x ∈ offsetBody off.natAbs -> IsClockChar x :=
    fun _ hx => isClockChar_of_mem_offsetBody hx
  by_cases hneg : off < 0
  · rw [offsetText, if_pos hneg, findTz,
      splitAtChar_append (not_mem_of_isClockChar htime hminus)]
  · have hnone : '-' ∉ timeText d ++ '+' :: offsetBody off.natAbs := by
      simp only [List.mem_append, List.mem_cons, not_or]
      exact ⟨not_mem_of_isClockChar htime hminus, by decide,
        not_mem_of_isClockChar hbody hminus⟩
    rw [offsetText, if_neg hneg, findTz, splitAtChar_eq_none hnone,
      splitAtChar_append (not_mem_of_isClockChar htime hplus)]

theorem length_timeText (d : Datetime) : 8 <= (timeText d).length := by
  simp only [timeText, List.length_append, List.length_cons, length_padDigits]
  omega

theorem parseIsoformatTime_text (d : Datetime) :
    parseIsoformatTime (timeText d ++ offsetTextOf d.utcoffset) =
      some ((d.hour, d.minute, d.second, d.microsecond), d.utcoffset) := by
  have hlen : ¬ (timeText d ++ offsetTextOf d.utcoffset).length < 2 := by
    have htime := length_timeText d
    simp only [List.length_append]
    omega
  rw [parseIsoformatTime, if_neg hlen]
  cases hoff : d.utcoffset with
  | none =>
      rw [offsetTextOf, List.append_nil, findTz_timeText]
      simp [parseHhMmSsFf_timeText]
  | some off =>
      have hbound : off.natAbs < 86400 * 1000000 := d.hoffset off hoff
      rw [offsetTextOf, findTz_timeText_offset]
      simp [parseHhMmSsFf_timeText, parseTzOffset_offsetBody hbound]

theorem length_dateText (d : Datetime) : (dateText d).length = 10 := by
  simp [dateText]

theorem parseIsoformatDate_dateText (d : Datetime) :
    parseIsoformatDate (dateText d) = some (d.year, d.month, d.day) := by
  have hyear := d.hyear
  have hmonth := d.hmonth
  have hday : d.day < 100 := by
    have hle : daysInMonth d.year d.month <= 31 := by
      unfold daysInMonth
      split
      · split <;> omega
      all_goals omega
    have hd := d.hday
    omega
  have htake := takeDigits_padDigits 4
    ('-' :: (padDigits 2 d.month ++ '-' :: padDigits 2 d.day))
    (n := d.year) (by omega)
  have htake2 := takeDigits_padDigits 2
    ('-' :: padDigits 2 d.day) (n := d.month) (by omega)
  have htake3 := takeDigits_padDigits 2 [] (n := d.day) (by omega)
  rw [List.append_nil] at htake3
  have hnotW : ¬ (padDigits 2 d.month).head?.getD '-' = 'W' :=
    digitChar_ne_week (d.month / 10)
  simp [parseIsoformatDate, dateText, htake, htake2, htake3, hnotW]

theorem findSeparator_isoformatChars (d : Datetime) :
    findSeparator (isoformatChars d) = some 10 := by
  have hlen : ¬ (isoformatChars d).length = 7 := by
    simp only [isoformatChars, List.length_append, List.length_cons, length_dateText]
    omega
  have hdash : (isoformatChars d)[4]? = some '-' := by
    simp [isoformatChars, dateText, padDigits]
  have hdigit : (isoformatChars d)[5]? =
      some (Nat.digitChar (d.month / 10 % 10)) := by
    simp [isoformatChars, dateText, padDigits]
  have hnotW : ¬ (isoformatChars d)[5]? = some 'W' := by
    rw [hdigit, Option.some.injEq]
    exact digitChar_ne_week (d.month / 10)
  rw [findSeparator]
  simp only [hlen, if_false, hdash, if_true, hnotW]

theorem mkDatetime_self (d : Datetime) :
    mkDatetime (d.year, d.month, d.day) (d.hour, d.minute, d.second, d.microsecond)
      d.utcoffset = some d := by
  rw [mkDatetime, dif_pos ⟨d.hyear, d.hmonth, d.hday, d.htime, d.hoffset⟩]

theorem fromisoformat_isoformat (d : Datetime) :
    fromisoformat (isoformat d) = some d := by
  have hlength : 19 <= (isoformatChars d).length := by
    have htime := length_timeText d
    simp only [isoformatChars, List.length_append, List.length_cons, length_dateText]
    omega
  have hshort : ¬ (isoformatChars d).length < 7 := by omega
  have hrest : ¬ (isoformatChars d).length <= 10 := by omega
  have htake : (isoformatChars d).take 10 = dateText d := by
    rw [isoformatChars, List.take_append_of_le_length (by simp [length_dateText])]
    exact List.take_of_length_le (by simp [length_dateText])
  have hdrop : (isoformatChars d).drop 11 =
      timeText d ++ offsetTextOf d.utcoffset := by
    rw [isoformatChars, show (11 : Nat) = (dateText d).length + 1 by
      rw [length_dateText], List.drop_append]
    simp
  rw [fromisoformat, isoformat, String.toList_ofList, fromisoformatChars]
  simp [hshort, hrest, findSeparator_isoformatChars, htake,
    parseIsoformatDate_dateText, hdrop, parseIsoformatTime_text, mkDatetime_self]

theorem isoformat_ne_empty (d : Datetime) : isoformat d ≠ "" := by
  intro h
  have hsome := fromisoformat_isoformat d
  have hnone : fromisoformat "" = none := by decide
  rw [h, hnone] at hsome
  cases hsome

/-- An `isoformat` text holds digits and the characters `-`, `T`, `:`, `.` and `+`. -/
theorem isoformatChars_ascii {d : Datetime} {c : Char}
    (hc : c ∈ isoformatChars d) :
    IsClockChar c ∨ c = '-' ∨ c = 'T' ∨ c = '+' := by
  simp only [isoformatChars, dateText, List.mem_append, List.mem_cons] at hc
  rcases hc with (hy | hdash | hm | hdash | hd) | hT | htime | hoff
  · exact Or.inl (Or.inl (isDigit_of_mem_padDigits hy))
  · exact Or.inr (Or.inl hdash)
  · exact Or.inl (Or.inl (isDigit_of_mem_padDigits hm))
  · exact Or.inr (Or.inl hdash)
  · exact Or.inl (Or.inl (isDigit_of_mem_padDigits hd))
  · exact Or.inr (Or.inr (Or.inl hT))
  · exact Or.inl (isClockChar_of_mem_timeText htime)
  · cases hutc : d.utcoffset with
    | none =>
        rw [hutc] at hoff
        cases hoff
    | some off =>
        rw [hutc, offsetTextOf, offsetText] at hoff
        rcases List.mem_cons.mp hoff with hsign | hbody
        · by_cases hneg : off < 0
          · rw [if_pos hneg] at hsign
            exact Or.inr (Or.inl hsign)
          · rw [if_neg hneg] at hsign
            exact Or.inr (Or.inr (Or.inr hsign))
        · exact Or.inl (isClockChar_of_mem_offsetBody hbody)

end Foundation
end PanicMonitr
