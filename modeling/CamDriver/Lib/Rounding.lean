import Mathlib.Data.Rat.Floor
import Mathlib.Tactic.Linarith

/-!
# CamDriver.Lib.Rounding

`round`: the nearest integer of a rational, and the even one of two.
-/

namespace CamDriver

/-- The nearest integer, and the even one of two. -/
def roundHalfEven (x : ℚ) : Int :=
  if x - ⌊x⌋ < 1 / 2 ∨ x - ⌊x⌋ = 1 / 2 ∧ Even ⌊x⌋ then ⌊x⌋ else ⌊x⌋ + 1

/-- An integer is its own rounding. -/
theorem roundHalfEven_int (n : Int) : roundHalfEven n = n := by
  simp [roundHalfEven]

/-- A rounding is off by a half at most. -/
theorem abs_roundHalfEven_sub_le (x : ℚ) : |roundHalfEven x - x| ≤ 1 / 2 := by
  have hfloor := Int.floor_le x
  have hfloor' := Int.lt_floor_add_one x
  rw [abs_le, roundHalfEven]
  split
  · next hdown =>
      have hhalf : x - ⌊x⌋ ≤ 1 / 2 := hdown.elim le_of_lt fun h => h.1.le
      constructor <;> linarith
  · next hup =>
      have hhalf : 1 / 2 ≤ x - ⌊x⌋ := not_lt.mp fun h => hup (.inl h)
      push_cast
      constructor <;> linarith

/-- An integer nearer than a half is the rounding. -/
theorem roundHalfEven_eq_of_abs_lt {x : ℚ} {n : Int} (h : |x - n| < 1 / 2) :
    roundHalfEven x = n := by
  have off := abs_le.mp (abs_roundHalfEven_sub_le x)
  have near := abs_lt.mp h
  have above : roundHalfEven x < n + 1 := by
    have : (roundHalfEven x : ℚ) < n + 1 := by linarith
    exact_mod_cast this
  have below : n < roundHalfEven x + 1 := by
    have : (n : ℚ) < roundHalfEven x + 1 := by linarith
    exact_mod_cast this
  omega

/-- Rounding is monotone. -/
theorem roundHalfEven_le {x y : ℚ} (hxy : x ≤ y) : roundHalfEven x ≤ roundHalfEven y := by
  by_contra hnot
  have hstep : ((roundHalfEven y + 1 : Int) : ℚ) ≤ roundHalfEven x :=
    Int.cast_le.mpr (not_le.mp hnot)
  push_cast at hstep
  have hx := abs_le.mp (abs_roundHalfEven_sub_le x)
  have hy := abs_le.mp (abs_roundHalfEven_sub_le y)
  obtain rfl : x = y := by linarith
  exact hnot le_rfl

end CamDriver
