import CamDriver.Lib.Rounding
import Mathlib

/-!
# CamDriver.Lib.Binary64

Rounding to binary64: the nearest of the numbers with 53 significant bits, and the even one
of two.

The numbers around `q` are `step q` apart.  Rounding is off by half a step at most
(`abs_nearest_sub_le`), and leaves the integers of up to 53 bits, and these over a power of
two, alone (`nearest_dyadic`).  From `limit` on it overflows.

A quotient of two integers can be rounded to an integer through the nearest number: where the
two have some bits to spare, this is the integer the quotient itself rounds to
(`roundHalfEven_nearest_div`).

Nothing here depends on what the numbers stand for.
-/

namespace Binary64

/-- The least magnitude that overflows: half a step above the largest number. -/
def limit : ℚ := 2 ^ 1024 - 2 ^ 970

/-- The step from one number to the next one around `q`. -/
def step (q : ℚ) : ℚ := 2 ^ max (Int.log 2 |q| - 52) (-1074)

/-- The nearest number, where none overflows. -/
def nearest (q : ℚ) : ℚ := CamDriver.roundHalfEven (q / step q) * step q

/-- The rounded number; `none`: it overflows. -/
def round (q : ℚ) : Option ℚ := if |q| < limit then some (nearest q) else none

theorem round_eq_some {q : ℚ} (h : |q| < limit) : round q = some (nearest q) := if_pos h

theorem round_eq_none {q : ℚ} (h : ¬ |q| < limit) : round q = none := if_neg h

-- nothing is to compute with the numerals of `limit`
attribute [irreducible] limit round

theorem lt_limit : 2 ^ 53 < limit := by
  have split : limit = 2 ^ 970 * (2 ^ 54 - 1) := by
    rw [limit, mul_sub, ← pow_add, mul_one]
  rw [split]
  have one : (1 : ℚ) ≤ 2 ^ 970 := one_le_pow₀ (by norm_num)
  calc (2 : ℚ) ^ 53
      < 1 * (2 ^ 54 - 1) := by norm_num
    _ ≤ 2 ^ 970 * (2 ^ 54 - 1) := mul_le_mul_of_nonneg_right one (by norm_num)

theorem step_pos (q : ℚ) : 0 < step q := zpow_pos (by norm_num) _

theorem step_le (q : ℚ) : step q ≤ |q| + 1 := by
  rw [step]
  obtain hmax | hmax := max_choice (Int.log 2 |q| - 52) (-1074)
  · rw [hmax]
    obtain rfl | hq := eq_or_ne q 0
    · norm_num
    · calc (2 : ℚ) ^ (Int.log 2 |q| - 52)
          ≤ 2 ^ Int.log 2 |q| := zpow_le_zpow_right₀ (by norm_num) (by omega)
        _ ≤ |q| := Int.zpow_log_le_self (by norm_num) (abs_pos.2 hq)
        _ ≤ |q| + 1 := by linarith
  · rw [hmax]
    calc (2 : ℚ) ^ (-1074 : ℤ)
        ≤ 2 ^ (0 : ℤ) := zpow_le_zpow_right₀ (by norm_num) (by norm_num)
      _ ≤ |q| + 1 := by linarith [abs_nonneg q, zpow_zero (2 : ℚ)]

/-- Away from zero the step has 52 bits less than the number. -/
theorem step_le_div {q : ℚ} (h : 2 ^ (-1022 : ℤ) ≤ |q|) : step q ≤ |q| / 2 ^ 52 := by
  have pos : 0 < |q| := lt_of_lt_of_le (zpow_pos (by norm_num) _) h
  have normal : -1022 ≤ Int.log 2 |q| := (Int.zpow_le_iff_le_log (by norm_num) pos).1 h
  rw [step, max_eq_left (by omega), zpow_sub₀ (by norm_num)]
  exact div_le_div_of_nonneg_right (Int.zpow_log_le_self (by norm_num) pos) (by norm_num)

theorem abs_nearest_sub_le (q : ℚ) : |nearest q - q| ≤ step q / 2 := by
  have hstep := step_pos q
  have scaled : nearest q - q = (CamDriver.roundHalfEven (q / step q) - q / step q) * step q := by
    rw [nearest, sub_mul, div_mul_cancel₀ _ hstep.ne']
  rw [scaled, abs_mul, abs_of_pos hstep]
  have off := CamDriver.abs_roundHalfEven_sub_le (q / step q)
  nlinarith

/-- Rounding at most doubles a number, but for one. -/
theorem abs_nearest_le (q : ℚ) : |nearest q| ≤ 2 * |q| + 1 := by
  have off := abs_nearest_sub_le q
  have small := step_le q
  have triangle := abs_sub_abs_le_abs_sub (nearest q) q
  have := abs_nonneg q
  linarith

theorem nearest_zero : nearest 0 = 0 := by simp [nearest, CamDriver.roundHalfEven]

/-- A fraction of up to 53 bits over a power of two is a number. -/
theorem nearest_dyadic {n : ℤ} {e : ℕ} (h : |n| < 2 ^ 53) (he : e ≤ 1074) :
    nearest (n / 2 ^ e) = n / 2 ^ e := by
  obtain rfl | hn := eq_or_ne n 0
  · simpa using nearest_zero
  have pos : (0 : ℚ) < |(n : ℚ) / 2 ^ e| :=
    abs_pos.2 (div_ne_zero (Int.cast_ne_zero.2 hn) (by positivity))
  have low : (2 : ℚ) ^ Int.log 2 |(n : ℚ) / 2 ^ e| < 2 ^ (53 - e : ℤ) :=
    calc (2 : ℚ) ^ Int.log 2 |(n : ℚ) / 2 ^ e|
        ≤ |(n : ℚ) / 2 ^ e| := Int.zpow_log_le_self (by norm_num) pos
      _ = |(n : ℚ)| / 2 ^ e := by rw [abs_div, abs_of_pos (by positivity : (0 : ℚ) < 2 ^ e)]
      _ < 2 ^ 53 / 2 ^ e :=
          div_lt_div_of_pos_right (by exact_mod_cast h) (by positivity)
      _ = 2 ^ (53 - e : ℤ) := by
          rw [zpow_sub₀ (by norm_num), zpow_natCast]
          norm_num
  have exponent : Int.log 2 |(n : ℚ) / 2 ^ e| < 53 - e :=
    (zpow_lt_zpow_iff_right₀ (by norm_num)).1 low
  obtain ⟨m, hm⟩ : ∃ m : ℕ, max (Int.log 2 |(n : ℚ) / 2 ^ e| - 52) (-1074) = -((e + m : ℕ) : ℤ) :=
    ⟨(-max (Int.log 2 |(n : ℚ) / 2 ^ e| - 52) (-1074)).toNat - e, by omega⟩
  have steps : (n : ℚ) / 2 ^ e / step (n / 2 ^ e) = ((n * 2 ^ m : ℤ) : ℚ) := by
    rw [step, hm, zpow_neg, zpow_natCast, div_inv_eq_mul, pow_add]
    push_cast
    field_simp
  rw [nearest, steps, CamDriver.roundHalfEven_int, ← steps, div_mul_cancel₀ _ (step_pos _).ne']

/-- An integer of up to 53 bits is a number. -/
theorem nearest_int {n : ℤ} (h : |n| < 2 ^ 53) : nearest n = n := by
  simpa using nearest_dyadic (e := 0) h (by norm_num)

/-! ## Quotients -/

/-- A fraction next to an integer is halfway to another one, or off the half by one part of
twice its denominator. -/
theorem half_or_apart {num den r : ℤ} (hden : den ≠ 0) (h : |(num : ℚ) / den - r| ≤ 1 / 2) :
    (∃ m : ℤ, (num : ℚ) / den = m / 2) ∨
      |(num : ℚ) / den - r| + 1 / (2 * |(den : ℚ)|) ≤ 1 / 2 := by
  have cast : (den : ℚ) ≠ 0 := Int.cast_ne_zero.2 hden
  have pos : 0 < |(den : ℚ)| := abs_pos.2 cast
  rcases h.eq_or_lt with half | apart
  · left
    obtain up | down := eq_or_eq_neg_of_abs_eq half
    · exact ⟨2 * r + 1, by push_cast; linarith⟩
    · exact ⟨2 * r - 1, by push_cast; linarith⟩
  · right
    have off : |(num : ℚ) / den - r| = |(num : ℚ) - r * den| / |(den : ℚ)| := by
      rw [← abs_div, sub_div, mul_div_cancel_right₀ _ cast]
    rw [off, div_lt_iff₀ pos] at apart
    have parts : 2 * |num - r * den| + 1 ≤ |den| := by
      have : 2 * |(num : ℚ) - r * den| < |(den : ℚ)| := by linarith
      exact_mod_cast this
    have parts' : 2 * |(num : ℚ) - r * den| + 1 ≤ |(den : ℚ)| := by exact_mod_cast parts
    calc |(num : ℚ) / den - r| + 1 / (2 * |(den : ℚ)|)
        = (2 * |(num : ℚ) - r * den| + 1) / (2 * |(den : ℚ)|) := by
          rw [off]
          field_simp
      _ ≤ |(den : ℚ)| / (2 * |(den : ℚ)|) := div_le_div_of_nonneg_right parts' (by positivity)
      _ = 1 / 2 := by field_simp

/-- A quotient of two integers of up to 51 bits rounds to the integer the exact one does. -/
theorem roundHalfEven_nearest_div {num den : ℤ} (hnum : |num| < 2 ^ 51) (hden0 : den ≠ 0)
    (hden : |den| < 2 ^ 51) :
    CamDriver.roundHalfEven (nearest (num / den)) = CamDriver.roundHalfEven (num / den) := by
  obtain rfl | hn := eq_or_ne num 0
  · simp [nearest_zero]
  have dpos : (0 : ℚ) < |(den : ℚ)| := abs_pos.2 (Int.cast_ne_zero.2 hden0)
  have one_le_num : (1 : ℚ) ≤ |(num : ℚ)| := by exact_mod_cast Int.one_le_abs hn
  have one_le_den : (1 : ℚ) ≤ |(den : ℚ)| := by exact_mod_cast Int.one_le_abs hden0
  have num_lt : |(num : ℚ)| < 2 ^ 51 := by exact_mod_cast hnum
  have den_lt : |(den : ℚ)| < 2 ^ 51 := by exact_mod_cast hden
  have size : |(num : ℚ) / den| = |(num : ℚ)| / |(den : ℚ)| := abs_div _ _
  have near := CamDriver.abs_roundHalfEven_sub_le ((num : ℚ) / den)
  rw [abs_sub_comm] at near
  obtain ⟨m, hm⟩ | apart := half_or_apart hden0 near
  · have small : |m| < 2 ^ 53 := by
      have : |(m : ℚ)| < 2 ^ 53 :=
        calc |(m : ℚ)| = 2 * (|(num : ℚ)| / |(den : ℚ)|) := by
              rw [← size, hm, abs_div, abs_two]
              ring
          _ ≤ 2 * |(num : ℚ)| :=
              mul_le_mul_of_nonneg_left (div_le_self (abs_nonneg _) one_le_den) (by norm_num)
          _ < 2 ^ 53 := by linarith
      exact_mod_cast this
    have exact : nearest ((m : ℚ) / 2) = m / 2 := by
      simpa using nearest_dyadic (e := 1) small (by norm_num)
    rw [hm, exact]
  · have normal : (2 : ℚ) ^ (-1022 : ℤ) ≤ |(num : ℚ) / den| :=
      calc (2 : ℚ) ^ (-1022 : ℤ)
          ≤ 2 ^ (-51 : ℤ) := zpow_le_zpow_right₀ (by norm_num) (by norm_num)
        _ = 1 / 2 ^ 51 := by norm_num
        _ ≤ |(num : ℚ)| / |(den : ℚ)| := div_le_div₀ (by positivity) one_le_num dpos den_lt.le
        _ = |(num : ℚ) / den| := size.symm
    have fine : step ((num : ℚ) / den) < 1 / |(den : ℚ)| :=
      calc step ((num : ℚ) / den)
          ≤ |(num : ℚ) / den| / 2 ^ 52 := step_le_div normal
        _ = |(num : ℚ)| / 2 ^ 52 / |(den : ℚ)| := by rw [size, div_right_comm]
        _ < 1 / |(den : ℚ)| :=
            div_lt_div_of_pos_right ((div_lt_one (by norm_num)).2 (by linarith)) dpos
    refine CamDriver.roundHalfEven_eq_of_abs_lt ?_
    have half : 1 / (2 * |(den : ℚ)|) = 1 / |(den : ℚ)| / 2 := by rw [div_div, mul_comm]
    have off := abs_nearest_sub_le ((num : ℚ) / den)
    have triangle := abs_sub_le (nearest ((num : ℚ) / den)) (num / den)
      (CamDriver.roundHalfEven (num / den))
    linarith

end Binary64
