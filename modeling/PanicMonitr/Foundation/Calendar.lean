import PanicMonitr.Foundation.Datetime

/-!
# Dates of instants

The way back from an ordinal to its date, and `datetime.fromtimestamp` for a fixed offset.
-/

namespace PanicMonitr
namespace Foundation

/-!
## Dates of ordinals
-/

/-- The year after cycles of 400, 100, 4 and 1 years; some end in a leap day. -/
def yearOfCycles (n400 n100 n4 n1 n : Nat) : Nat × Nat :=
  let year := n400 * 400 + n100 * 100 + n4 * 4 + n1 + 1
  if n1 = 4 ∨ n100 = 4 then (year - 1, 365) else (year, n)

/-- The year of a day, and the days of that year before it. -/
def yearOfOrdinal (ordinal : Nat) : Nat × Nat :=
  let n := ordinal - 1
  let n400 := n / 146097
  let n := n % 146097
  let n100 := n / 36524
  let n := n % 36524
  let n4 := n / 1461
  let n := n % 1461
  yearOfCycles n400 n100 n4 (n / 365) (n % 365)

/-- `date.fromordinal` -/
def ordinalToYmd (ordinal : Nat) : Nat × Nat × Nat :=
  let year := (yearOfOrdinal ordinal).1
  (year, monthDayOf year 12 1 ((yearOfOrdinal ordinal).2 + 1))

theorem isLeap_iff (year : Nat) :
    isLeap year = true <-> year % 4 = 0 ∧ (year % 100 ≠ 0 ∨ year % 400 = 0) := by
  simp [isLeap]

/-- Days before a year, from its place in cycles of 400, 100 and 4 years. -/
theorem daysBeforeYear_cycles (a : Nat) {b c d : Nat} (hb : b <= 3) (hc : c <= 24)
    (hd : d <= 3) :
    daysBeforeYear (a * 400 + b * 100 + c * 4 + d + 1) =
      a * 146097 + b * 36524 + c * 1461 + d * 365 := by
  have hfour : (a * 400 + b * 100 + c * 4 + d) / 4 = a * 100 + b * 25 + c := by omega
  have hhundred : (a * 400 + b * 100 + c * 4 + d) / 100 = a * 4 + b := by omega
  have hcycle : (a * 400 + b * 100 + c * 4 + d) / 400 = a := by omega
  unfold daysBeforeYear
  simp only [Nat.add_sub_cancel, hfour, hhundred, hcycle]
  omega

theorem yearOfCycles_spec (a : Nat) {b c d n : Nat}
    (hcycles : b * 36524 + c * 1461 + d * 365 + n < 146097)
    (hcentury : c * 1461 + d * 365 + n < 36524) (hfour : d * 365 + n < 1461) (hn : n < 365) :
    1 <= (yearOfCycles a b c d n).1 ∧
      daysBeforeYear (yearOfCycles a b c d n).1 + (yearOfCycles a b c d n).2 =
        a * 146097 + b * 36524 + c * 1461 + d * 365 + n ∧
        (yearOfCycles a b c d n).2 + 1 <=
          if isLeap (yearOfCycles a b c d n).1 then 366 else 365 := by
  unfold yearOfCycles
  simp only
  split
  · -- the last day of a leap year
    rename_i hend
    have hleap : isLeap (a * 400 + b * 100 + c * 4 + d + 1 - 1) = true := by
      rw [isLeap_iff]
      omega
    simp only
    rw [if_pos hleap]
    rcases hend with hday | hcentury
    · have hdays := daysBeforeYear_cycles a (b := b) (c := c) (d := 3) (by omega) (by omega)
        (Nat.le_refl 3)
      have hyear : a * 400 + b * 100 + c * 4 + d + 1 - 1 = a * 400 + b * 100 + c * 4 + 3 + 1 := by
        omega
      rw [hyear, hdays]
      omega
    · have hdays := daysBeforeYear_cycles a (b := 3) (c := 24) (d := 3) (Nat.le_refl 3)
        (Nat.le_refl 24) (Nat.le_refl 3)
      have hyear : a * 400 + b * 100 + c * 4 + d + 1 - 1 =
          a * 400 + 3 * 100 + 24 * 4 + 3 + 1 := by
        omega
      rw [hyear, hdays]
      omega
  · have hdays := daysBeforeYear_cycles a (b := b) (c := c) (d := d) (by omega) (by omega)
      (by omega)
    simp only
    rw [hdays]
    refine ⟨by omega, by omega, ?_⟩
    split <;> omega

theorem yearOfOrdinal_spec {ordinal : Nat} (hordinal : 1 <= ordinal) :
    1 <= (yearOfOrdinal ordinal).1 ∧
      daysBeforeYear (yearOfOrdinal ordinal).1 + (yearOfOrdinal ordinal).2 + 1 = ordinal ∧
        (yearOfOrdinal ordinal).2 + 1 <= if isLeap (yearOfOrdinal ordinal).1 then 366 else 365 := by
  rcases yearOfCycles_spec ((ordinal - 1) / 146097) (b := (ordinal - 1) % 146097 / 36524)
    (c := (ordinal - 1) % 146097 % 36524 / 1461)
    (d := (ordinal - 1) % 146097 % 36524 % 1461 / 365)
    (n := (ordinal - 1) % 146097 % 36524 % 1461 % 365)
    (by omega) (by omega) (by omega) (by omega) with ⟨hyear, hdays, hlast⟩
  refine ⟨hyear, ?_, hlast⟩
  unfold yearOfOrdinal
  simp only
  rw [hdays]
  omega

theorem daysBeforeMonth_succ (year : Nat) {month : Nat} (hmonth : 1 <= month) :
    daysBeforeMonth year (month + 1) = daysBeforeMonth year month + daysInMonth year month := by
  cases month with
  | zero => cases hmonth
  | succ month => rfl

theorem daysBeforeMonth_last (year : Nat) :
    daysBeforeMonth year 13 = if isLeap year then 366 else 365 := by
  simp only [daysBeforeMonth, daysInMonth]
  split <;> rfl

theorem monthDayOf_spec {year fuel month day : Nat} (hfuel : month + fuel = 13)
    (hmonth : 1 <= month) (hday : 1 <= day)
    (hlast : daysBeforeMonth year month + day <= daysBeforeMonth year 13) :
    (1 <= (monthDayOf year fuel month day).1 ∧ (monthDayOf year fuel month day).1 <= 12) ∧
      (1 <= (monthDayOf year fuel month day).2 ∧
        (monthDayOf year fuel month day).2 <=
          daysInMonth year (monthDayOf year fuel month day).1) ∧
        daysBeforeMonth year (monthDayOf year fuel month day).1 +
            (monthDayOf year fuel month day).2 =
          daysBeforeMonth year month + day := by
  induction fuel generalizing month day with
  | zero =>
      have hend : month = 13 := hfuel
      rw [hend] at hlast
      omega
  | succ fuel ih =>
      unfold monthDayOf
      split
      · rename_i hin
        exact ⟨⟨hmonth, by omega⟩, ⟨hday, hin⟩, rfl⟩
      · have hsucc := daysBeforeMonth_succ year hmonth
        have hnext : daysBeforeMonth year (month + 1) + (day - daysInMonth year month) <=
            daysBeforeMonth year 13 := by
          omega
        have hrest := ih (by omega) (by omega) (by omega) hnext
        refine ⟨hrest.left, hrest.right.left, ?_⟩
        rw [hrest.right.right]
        omega

theorem ymdToOrdinal_ordinalToYmd {ordinal : Nat} (hordinal : 1 <= ordinal) :
    ymdToOrdinal (ordinalToYmd ordinal).1 (ordinalToYmd ordinal).2.1 (ordinalToYmd ordinal).2.2 =
      ordinal := by
  rcases yearOfOrdinal_spec hordinal with ⟨_, hdays, hlast⟩
  have hfirst : daysBeforeMonth (yearOfOrdinal ordinal).1 1 = 0 := rfl
  have hyear : daysBeforeMonth (yearOfOrdinal ordinal).1 1 + ((yearOfOrdinal ordinal).2 + 1) <=
      daysBeforeMonth (yearOfOrdinal ordinal).1 13 := by
    rw [hfirst, daysBeforeMonth_last, Nat.zero_add]
    exact hlast
  have hfuel : 1 + 12 = 13 := rfl
  have hmonth := monthDayOf_spec hfuel (Nat.le_refl 1) (Nat.le_add_left 1 _) hyear
  have hsum := hmonth.right.right
  unfold ymdToOrdinal ordinalToYmd
  simp only
  omega

/-!
## Instants
-/

def dayMicros : Int := 86400 * microsPerSecond

def ordinalOf (micros : Int) : Int :=
  micros / dayMicros + 719163

/--
`datetime.fromtimestamp(t, tz)` to the microsecond; `none` is the error when the year is out
of range in UTC or in the zone.
-/
def fromtimestamp (t : Instant) (offset : Int) : Option Datetime :=
  let micros := ((t + offset) % dayMicros).toNat
  if ordinalOf t < 1 ∨ 3652059 < ordinalOf t ∨ ordinalOf (t + offset) < 1 then none
  else
    mkDatetime (ordinalToYmd (ordinalOf (t + offset)).toNat)
      (micros / 3600000000, micros / 60000000 % 60, micros / 1000000 % 60, micros % 1000000)
      (some offset)

theorem mkDatetime_fields {date : Nat × Nat × Nat} {time : Nat × Nat × Nat × Nat}
    {utcoffset : Option Int} {d : Datetime} (h : mkDatetime date time utcoffset = some d) :
    (d.year = date.1 ∧ d.month = date.2.1 ∧ d.day = date.2.2) ∧
      (d.hour = time.1 ∧ d.minute = time.2.1 ∧ d.second = time.2.2.1 ∧
        d.microsecond = time.2.2.2) ∧ d.utcoffset = utcoffset := by
  unfold mkDatetime at h
  split at h
  · cases h
    exact ⟨⟨rfl, rfl, rfl⟩, ⟨rfl, rfl, rfl, rfl⟩, rfl⟩
  · cases h

theorem fromtimestamp_spec {t : Instant} {offset : Int} {d : Datetime}
    (h : fromtimestamp t offset = some d) :
    d.localMicros = t + offset ∧ d.utcoffset = some offset := by
  unfold fromtimestamp at h
  simp only at h
  split at h
  · cases h
  · rename_i hrange
    rcases mkDatetime_fields h with ⟨⟨hyear, hmonth, hday⟩, ⟨hhour, hminute, hsecond, hmicros⟩, hoff⟩
    have hordinal : 1 <= (ordinalOf (t + offset)).toNat := by omega
    have hdate := ymdToOrdinal_ordinalToYmd hordinal
    refine ⟨?_, hoff⟩
    unfold Datetime.localMicros
    rw [hyear, hmonth, hday, hdate, hhour, hminute, hsecond, hmicros]
    unfold ordinalOf dayMicros microsPerSecond at *
    generalize t + offset = clock at *
    simp only
    omega

theorem fromtimestamp_instant {t : Instant} {offset : Int} {d : Datetime}
    (h : fromtimestamp t offset = some d) : d.instant? = some t := by
  rcases fromtimestamp_spec h with ⟨hlocal, hoff⟩
  rw [Datetime.instant?, hoff, Option.map_some, hlocal, Int.add_sub_cancel]

end Foundation
end PanicMonitr
