import Mathlib.Data.Int.Log
import Pets.Library.Printed

set_option autoImplicit false

namespace Pets.Binary64

-- The weight of the last of the 53 bits of the significand, or of the last bit there is.
def unit (q : ℚ) : ℚ := 2 ^ max (Int.log 2 |q| - 52) (-1074)

-- The Double nearest to the number, of two the one with the even significand.
def round (q : ℚ) : Extended :=
  let rounded := Printed.nearest (q / unit q) * unit q
  if |rounded| < 2 ^ 1024 then .finite rounded else .infinity (decide (q < 0))

example : round (99999999999999999 / 100000000000000000) = .finite 1 := by decide +kernel

example : round (10 ^ 400) = .infinity false := by decide +kernel

-- A unit of at least one divides nothing but integers out, and a smaller one divides every integer.
theorem rounded_int (n : ℤ) : ∃ m : ℤ, Printed.nearest (n / unit n) * unit n = m := by
  rcases le_total 0 (max (Int.log 2 |(n : ℚ)| - 52) (-1074)) with large | small
  · obtain ⟨k, power⟩ := Int.eq_ofNat_of_zero_le large
    have size : unit n = ((2 ^ k : ℤ) : ℚ) := by
      rw [unit, power]
      push_cast
      exact zpow_natCast 2 k
    exact ⟨Printed.nearest (n / unit n) * 2 ^ k, by rw [size]; push_cast; rfl⟩
  · obtain ⟨k, power⟩ := Int.eq_ofNat_of_zero_le (Int.neg_nonneg_of_nonpos small)
    have size : unit n = ((2 ^ k : ℤ) : ℚ)⁻¹ := by
      rw [unit, ← neg_neg (max _ _), power, zpow_neg]
      push_cast
      exact congrArg Inv.inv (zpow_natCast 2 k)
    have whole : (n : ℚ) / unit n = ((n * 2 ^ k : ℤ) : ℚ) := by
      rw [size, div_inv_eq_mul]
      push_cast
      rfl
    refine ⟨n, ?_⟩
    rw [whole, Printed.nearest_int, ← whole, div_mul_cancel₀]
    exact (zpow_pos (by norm_num) _).ne'

theorem round_int_whole (n : ℤ) : (round n).floor.equal (round n) = true := by
  obtain ⟨m, same⟩ := rounded_int n
  simp only [round, same]
  split
  · exact (Extended.equal_floor_finite m).mpr (by rw [Int.floor_intCast])
  · exact Extended.equal_floor_infinity _

end Pets.Binary64
