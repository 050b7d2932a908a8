import Pets.BMICalculator.CalculatorBrain

set_option autoImplicit false

namespace Pets.BMICalculator

open Pets.Printed

def StatusReadOff (weight height weight' height' : ℚ) : Prop :=
  getBMIValue (calculateBMI weight height) = getBMIValue (calculateBMI weight' height') →
    getBMIStatus (calculateBMI weight height) = getBMIStatus (calculateBMI weight' height')

-- The quotient is less than a twentieth away from the limit, on either side.
def Near (limit : ℤ) (weight height : ℚ) : Prop :=
  (limit - 1 / 2) * height ^ 2 < 10 * weight ∧ 10 * weight < (limit + 1 / 2) * height ^ 2

theorem limits_odd : ∀ limit ∈ limits, Odd limit := by decide

theorem limits_positive : ∀ limit ∈ limits, 0 < limit := by decide

theorem near_iff (limit : ℤ) (odd : Odd limit) (weight height : ℚ) (tall : 0 < height) :
    Near limit weight height ↔ nearest (weight / height ^ 2 * 10 ^ 1) = limit := by
  have square : 0 < height ^ 2 := by positivity
  rw [nearest_odd_iff _ limit odd, Near, pow_one, div_mul_eq_mul_div, lt_div_iff₀ square, div_lt_iff₀ square,
    mul_comm weight]

theorem below_iff (limit : ℤ) (weight height : ℚ) (tall : 0 < height) :
    Below limit weight height ↔ weight / height ^ 2 * 10 ^ 1 < limit := by
  have square : 0 < height ^ 2 := by positivity
  rw [Below, pow_one, div_mul_eq_mul_div, div_lt_iff₀ square, mul_comm weight]

theorem status_read_off_iff (weight height weight' height' : ℚ) (heavy : 0 < weight) (tall : 0 < height)
    (heavy' : 0 < weight') (tall' : 0 < height') :
    StatusReadOff weight height weight' height' ↔
      ∀ limit ∈ limits, Near limit weight height → Near limit weight' height' →
        (Below limit weight height ↔ Below limit weight' height') := by
  have tells := rounded_tells_sides_iff limits (weight / height ^ 2 * 10 ^ 1) (weight' / height' ^ 2 * 10 ^ 1)
  rw [StatusReadOff, tall_value_same_iff _ _ _ _ heavy.le tall heavy'.le tall', status_same_iff _ _ _ _ heavy.le heavy'.le]
  simp only [below_iff _ _ _ tall, below_iff _ _ _ tall']
  rw [tells]
  refine forall₂_congr ?_
  intro limit member
  rw [near_iff limit (limits_odd limit member) weight height tall, near_iff limit (limits_odd limit member) weight' height' tall']

theorem seventy_four_read_off_iff :
    StatusReadOff 74 2 80 2 ↔ ∀ limit ∈ limits, Near limit 74 2 → Near limit 80 2 → (Below limit 74 2 ↔ Below limit 80 2) :=
  status_read_off_iff 74 2 80 2 (by norm_num) (by norm_num) (by norm_num) (by norm_num)

-- At two metres, 73 and seven eighths of a kilogram read 18.5 like 74.
theorem two_statuses_of_one_number :
    ¬ StatusReadOff (591 / 8) 2 74 2 ∧
      (getBMIValue (calculateBMI (591 / 8) 2), getBMIStatus (calculateBMI (591 / 8) 2)) = ("18.5", "UNDERWEIGHT") ∧
      (getBMIValue (calculateBMI 74 2), getBMIStatus (calculateBMI 74 2)) = ("18.5", "NORMAL") := by
  have low : (getBMIValue (calculateBMI (591 / 8) 2), getBMIStatus (calculateBMI (591 / 8) 2)) = ("18.5", "UNDERWEIGHT") := by
    decide +kernel
  have high : (getBMIValue (calculateBMI 74 2), getBMIStatus (calculateBMI 74 2)) = ("18.5", "NORMAL") := by
    decide +kernel
  refine ⟨?_, low, high⟩
  intro readOff
  obtain ⟨lowValue, lowStatus⟩ := Prod.mk.inj low
  obtain ⟨highValue, highStatus⟩ := Prod.mk.inj high
  have same := readOff (lowValue.trans highValue.symm)
  rw [lowStatus, highStatus] at same
  exact absurd same (by decide)

end Pets.BMICalculator
