import Mathlib.Algebra.Order.Field.Power
import Mathlib.Algebra.Order.Floor.Ring
import Mathlib.Data.Int.Log
import Mathlib.Data.Rat.Floor
import Mathlib.Tactic.Linarith
import Mathlib.Tactic.Positivity
import Mathlib.Tactic.Ring

/-!
# Doubles

Rationals rounded to the 53 binary digits of a double. The exponent has no bounds here, so
nothing overflows, and nothing is subnormal.
-/

namespace PanicMonitr
namespace Foundation

/-!
## Rounding to an integer
-/

/-- The nearest integer; of two that are as near, the even one. -/
def roundEven (x : Rat) : Int :=
  if Int.fract x < 1 / 2 ∨ (Int.fract x = 1 / 2 ∧ ⌊x⌋ % 2 = 0) then ⌊x⌋ else ⌊x⌋ + 1

theorem floor_le_roundEven (x : Rat) : ⌊x⌋ <= roundEven x := by
  unfold roundEven
  split
  · exact le_refl _
  · omega

theorem roundEven_le_floor_add_one (x : Rat) : roundEven x <= ⌊x⌋ + 1 := by
  unfold roundEven
  split
  · omega
  · exact le_refl _

theorem roundEven_intCast (n : Int) : roundEven n = n := by
  unfold roundEven
  rw [Int.fract_intCast, Int.floor_intCast, if_pos (Or.inl (by norm_num))]

theorem roundEven_mono {x y : Rat} (hxy : x <= y) : roundEven x <= roundEven y := by
  rcases lt_or_eq_of_le (Int.floor_le_floor hxy) with hlt | heq
  · calc roundEven x <= ⌊x⌋ + 1 := roundEven_le_floor_add_one x
      _ <= ⌊y⌋ := hlt
      _ <= roundEven y := floor_le_roundEven y
  · have hfract : Int.fract x <= Int.fract y := by
      unfold Int.fract
      rw [heq]
      linarith
    unfold roundEven
    rw [heq]
    by_cases hdown : Int.fract y < 1 / 2 ∨ (Int.fract y = 1 / 2 ∧ ⌊y⌋ % 2 = 0)
    · have hdown' : Int.fract x < 1 / 2 ∨ (Int.fract x = 1 / 2 ∧ ⌊y⌋ % 2 = 0) := by
        rcases hdown with hless | ⟨htie, heven⟩
        · exact Or.inl (lt_of_le_of_lt hfract hless)
        · rw [htie] at hfract
          rcases lt_or_eq_of_le hfract with hless | htie'
          · exact Or.inl hless
          · exact Or.inr ⟨htie', heven⟩
      rw [if_pos hdown, if_pos hdown']
    · rw [if_neg hdown]
      split
      · omega
      · exact le_refl _

theorem abs_roundEven_sub_le (x : Rat) : |(roundEven x : Rat) - x| <= 1 / 2 := by
  have hsplit : (⌊x⌋ : Rat) + Int.fract x = x := Int.floor_add_fract x
  have hnonneg := Int.fract_nonneg x
  have hlt := Int.fract_lt_one x
  unfold roundEven
  rw [abs_le]
  split
  · rename_i hdown
    have hhalf : Int.fract x <= 1 / 2 := by
      rcases hdown with hless | ⟨htie, _⟩
      · exact hless.le
      · exact htie.le
    constructor <;> linarith
  · rename_i hup
    have hhalf : 1 / 2 <= Int.fract x := not_lt.mp (fun h => hup (Or.inl h))
    rw [Int.cast_add, Int.cast_one]
    constructor <;> linarith

/-!
## Rounding to a double
-/

/-- How far apart the doubles about a number are. -/
def spacing (x : Rat) : Rat :=
  2 ^ (Int.log 2 |x| - 52)

/-- The double nearest to a number; of two that are as near, the one that ends in a zero. -/
def toDouble (x : Rat) : Rat :=
  roundEven (x / spacing x) * spacing x

theorem spacing_pos (x : Rat) : 0 < spacing x := by
  unfold spacing
  positivity

theorem toDouble_zero : toDouble 0 = 0 := by
  unfold toDouble
  rw [zero_div, ← Int.cast_zero, roundEven_intCast, Int.cast_zero, zero_mul]

theorem abs_toDouble_sub_le_spacing (x : Rat) : |toDouble x - x| <= spacing x / 2 := by
  have hpos := spacing_pos x
  have hscaled : toDouble x - x = (roundEven (x / spacing x) - x / spacing x) * spacing x := by
    unfold toDouble
    rw [sub_mul, div_mul_cancel₀ x hpos.ne']
  rw [hscaled, abs_mul, abs_of_pos hpos]
  calc |(roundEven (x / spacing x) : Rat) - x / spacing x| * spacing x
      <= 1 / 2 * spacing x := mul_le_mul_of_nonneg_right (abs_roundEven_sub_le _) hpos.le
    _ = spacing x / 2 := by ring

theorem spacing_le {x : Rat} (hx : x ≠ 0) : spacing x <= |x| / 2 ^ 52 := by
  have hlog : (2 : Rat) ^ Int.log 2 |x| <= |x| :=
    Int.zpow_log_le_self (by decide) (abs_pos.mpr hx)
  unfold spacing
  rw [zpow_sub₀ (by norm_num)]
  exact div_le_div_of_nonneg_right hlog (by positivity)

theorem abs_toDouble_sub_le (x : Rat) : |toDouble x - x| <= |x| / 2 ^ 53 := by
  by_cases hx : x = 0
  · rw [hx, toDouble_zero, sub_zero, abs_zero, zero_div]
  · calc |toDouble x - x| <= spacing x / 2 := abs_toDouble_sub_le_spacing x
      _ <= |x| / 2 ^ 52 / 2 := div_le_div_of_nonneg_right (spacing_le hx) (by norm_num)
      _ = |x| / 2 ^ 53 := by ring

theorem toDouble_nonneg {x : Rat} (hx : 0 <= x) : 0 <= toDouble x := by
  have hpos := spacing_pos x
  have hround : roundEven ((0 : Int) : Rat) <= roundEven (x / spacing x) := by
    apply roundEven_mono
    rw [Int.cast_zero]
    exact div_nonneg hx hpos.le
  rw [roundEven_intCast] at hround
  exact mul_nonneg (Int.cast_nonneg hround) hpos.le

/-- Below `2 ^ 53` an integer is a whole number of spacings. -/
theorem exists_natCast_eq_mul_spacing {x : Rat} (hx : 0 < x) (hsmall : x < 2 ^ 53) (n : Nat) :
    exists k : Int, (n : Rat) = k * spacing x := by
  have hlog : Int.log 2 |x| < 53 := by
    rw [abs_of_pos hx, ← Int.lt_zpow_iff_log_lt (by decide) hx]
    exact_mod_cast hsmall
  rcases Int.eq_ofNat_of_zero_le (show 0 <= 52 - Int.log 2 |x| by omega) with ⟨m, hm⟩
  refine ⟨n * 2 ^ m, ?_⟩
  have hexp : Int.log 2 |x| - 52 = -(m : Int) := by omega
  unfold spacing
  rw [hexp, zpow_neg, zpow_natCast, Int.cast_mul, Int.cast_pow, Int.cast_ofNat, mul_assoc,
    mul_inv_cancel₀ (by positivity), mul_one, Int.cast_natCast]

theorem toDouble_le_natCast {x : Rat} {n : Nat} (hx : 0 <= x) (hxn : x <= n) (hn : n < 2 ^ 53) :
    toDouble x <= n := by
  rcases eq_or_lt_of_le hx with rfl | hpos
  · rw [toDouble_zero]
    exact hxn
  · have hsmall : x < 2 ^ 53 := lt_of_le_of_lt hxn (by exact_mod_cast hn)
    rcases exists_natCast_eq_mul_spacing hpos hsmall n with ⟨k, hk⟩
    have hround : roundEven (x / spacing x) <= roundEven (k : Rat) := by
      apply roundEven_mono
      rw [div_le_iff₀ (spacing_pos x), ← hk]
      exact hxn
    rw [roundEven_intCast] at hround
    rw [hk]
    exact mul_le_mul_of_nonneg_right (Int.cast_le.mpr hround) (spacing_pos x).le

end Foundation
end PanicMonitr
