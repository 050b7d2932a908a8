import Mathlib.Tactic.FieldSimp
import Pets.Library.Printed

set_option autoImplicit false

namespace Pets.BMICalculator

open Pets.Printed

inductive Color where
  | systemMint
  | systemGreen
  | yellow
  | orange
  | red
  | label
deriving DecidableEq

structure BMI where
  value : Extended
  status : String
  color : Color
deriving DecidableEq

structure CalculatorBrain where
  bmi : Option BMI
deriving DecidableEq

def calculateBMI (weight height : ℚ) : CalculatorBrain :=
  let bmiValue := Extended.finite weight / .finite (height ^ 2)
  if bmiValue.less (.finite (185 / 10)) then ⟨some ⟨bmiValue, "UNDERWEIGHT", .systemMint⟩⟩
  else if bmiValue.less (.finite (249 / 10)) then ⟨some ⟨bmiValue, "NORMAL", .systemGreen⟩⟩
  else if bmiValue.less (.finite (299 / 10)) then ⟨some ⟨bmiValue, "OVERWEIGHT", .yellow⟩⟩
  else if bmiValue.less (.finite (349 / 10)) then ⟨some ⟨bmiValue, "OBESE", .orange⟩⟩
  else ⟨some ⟨bmiValue, "EXTREMELY OBESE", .red⟩⟩

def getBMIValue (brain : CalculatorBrain) : String := String.ofList (formatted 1 ((brain.bmi.map BMI.value).getD 0))

def getBMIStatus (brain : CalculatorBrain) : String := (brain.bmi.map BMI.status).getD "UNKNOWN"

def getBMIColor (brain : CalculatorBrain) : Color := (brain.bmi.map BMI.color).getD .label

-- The band limits in tenths.
def limits : List ℤ := [185, 249, 299, 349]

-- The comparisons that calculateBMI makes, without its division.
def Below (limit : ℤ) (weight height : ℚ) : Prop := 10 * weight < limit * height ^ 2

instance (limit : ℤ) (weight height : ℚ) : Decidable (Below limit weight height) :=
  inferInstanceAs (Decidable (_ < _))

theorem less_iff (limit : ℤ) (weight height : ℚ) (nonneg : 0 ≤ weight) :
    (Extended.finite weight / .finite (height ^ 2)).less (.finite (limit / 10)) = true ↔ Below limit weight height := by
  rw [Below]
  by_cases flat : height = 0
  · subst flat
    by_cases none : weight = 0
    · subst none
      simp [Extended.less]
    · rw [zero_pow two_ne_zero, Extended.finite_div_zero weight none, decide_eq_false (not_lt.mpr nonneg)]
      refine iff_of_false (by simp [Extended.less]) ?_
      rw [mul_zero, not_lt]
      positivity
  · have square : 0 < height ^ 2 := by positivity
    rw [Extended.finite_div weight _ square.ne', Extended.less, decide_eq_true_iff, div_lt_iff₀ square]
    refine ⟨fun less => by linarith, fun less => by linarith⟩

theorem below_mono (limit later : ℤ) (weight height : ℚ) (ordered : limit ≤ later) (below : Below limit weight height) :
    Below later weight height := by
  have cast : (limit : ℚ) ≤ later := by exact_mod_cast ordered
  exact lt_of_lt_of_le below (mul_le_mul_of_nonneg_right cast (sq_nonneg height))

theorem status_eq (weight height : ℚ) (nonneg : 0 ≤ weight) :
    getBMIStatus (calculateBMI weight height) =
      if Below 185 weight height then "UNDERWEIGHT"
      else if Below 249 weight height then "NORMAL"
      else if Below 299 weight height then "OVERWEIGHT"
      else if Below 349 weight height then "OBESE" else "EXTREMELY OBESE" := by
  have under := less_iff 185 weight height nonneg
  have normal := less_iff 249 weight height nonneg
  have heavy := less_iff 299 weight height nonneg
  have obese := less_iff 349 weight height nonneg
  simp only [Int.cast_ofNat] at under normal heavy obese
  simp only [calculateBMI, under, normal, heavy, obese]
  split_ifs <;> rfl

theorem below_status (weight height : ℚ) (nonneg : 0 ≤ weight) :
    (Below 185 weight height ↔ getBMIStatus (calculateBMI weight height) ∈ ["UNDERWEIGHT"]) ∧
    (Below 249 weight height ↔ getBMIStatus (calculateBMI weight height) ∈ ["UNDERWEIGHT", "NORMAL"]) ∧
    (Below 299 weight height ↔ getBMIStatus (calculateBMI weight height) ∈ ["UNDERWEIGHT", "NORMAL", "OVERWEIGHT"]) ∧
    (Below 349 weight height ↔
      getBMIStatus (calculateBMI weight height) ∈ ["UNDERWEIGHT", "NORMAL", "OVERWEIGHT", "OBESE"]) := by
  have first := below_mono 185 249 weight height (by decide)
  have second := below_mono 249 299 weight height (by decide)
  have third := below_mono 299 349 weight height (by decide)
  rw [status_eq weight height nonneg]
  split_ifs <;> simp_all

theorem status_same_iff (weight height weight' height' : ℚ) (nonneg : 0 ≤ weight) (nonneg' : 0 ≤ weight') :
    getBMIStatus (calculateBMI weight height) = getBMIStatus (calculateBMI weight' height') ↔
      ∀ limit ∈ limits, Below limit weight height ↔ Below limit weight' height' := by
  simp only [limits, List.forall_mem_cons, List.not_mem_nil, false_imp_iff, implies_true, and_true]
  refine ⟨?_, ?_⟩
  · intro same
    obtain ⟨under, normal, heavy, obese⟩ := below_status weight height nonneg
    rw [under, normal, heavy, obese, same]
    obtain ⟨under, normal, heavy, obese⟩ := below_status weight' height' nonneg'
    exact ⟨under.symm, normal.symm, heavy.symm, obese.symm⟩
  · intro ⟨under, normal, heavy, obese⟩
    rw [status_eq weight height nonneg, status_eq weight' height' nonneg']
    simp only [under, normal, heavy, obese]

def RoundsTo (k : ℤ) (weight height : ℚ) : Prop :=
  10 * weight < (k + 1 / 2) * height ^ 2 ∨ (10 * weight = (k + 1 / 2) * height ^ 2 ∧ Even k)

theorem value_stored (weight height : ℚ) :
    (calculateBMI weight height).bmi.map BMI.value = some (.finite weight / .finite (height ^ 2)) := by
  simp only [calculateBMI]
  split_ifs <;> rfl

theorem value_eq (weight height : ℚ) :
    getBMIValue (calculateBMI weight height) =
      String.ofList (formatted 1 (.finite weight / .finite (height ^ 2))) := by
  rw [getBMIValue, value_stored]
  rfl

theorem quotient_positive (weight height : ℚ) (nonneg : 0 ≤ weight) (tall : height ≠ 0) :
    ∃ q, 0 ≤ q ∧ .finite weight / .finite (height ^ 2) = Extended.finite q ∧ q = weight / height ^ 2 ∧
      ∀ k, RoundsTo k weight height ↔ nearest (q * 10 ^ 1) ≤ k := by
  have square : 0 < height ^ 2 := by positivity
  refine ⟨weight / height ^ 2, by positivity, Extended.finite_div weight _ square.ne', rfl, ?_⟩
  intro k
  rw [nearest_le_iff, RoundsTo, pow_one, div_mul_eq_mul_div, div_lt_iff₀ square, div_eq_iff square.ne', mul_comm weight]

-- The three kinds of quotient, each with its own pattern of roundings.
theorem quotient_cases (weight height : ℚ) (nonneg : 0 ≤ weight) :
    (.finite weight / .finite (height ^ 2) = Extended.nan ∧ ∀ k, RoundsTo k weight height ↔ Even k) ∨
      (.finite weight / .finite (height ^ 2) = Extended.infinity false ∧ ∀ k, ¬ RoundsTo k weight height) ∨
      ∃ q, 0 ≤ q ∧ .finite weight / .finite (height ^ 2) = Extended.finite q ∧
        ∀ k, RoundsTo k weight height ↔ nearest (q * 10 ^ 1) ≤ k := by
  by_cases flat : height = 0
  · subst flat
    by_cases none : weight = 0
    · subst none
      refine Or.inl ⟨by rw [zero_pow two_ne_zero, Extended.zero_div_zero], ?_⟩
      intro k
      simp [RoundsTo]
    · refine Or.inr (Or.inl ⟨?_, ?_⟩)
      · rw [zero_pow two_ne_zero, Extended.finite_div_zero weight none, decide_eq_false (not_lt.mpr nonneg)]
      · intro k
        simp [RoundsTo, none, nonneg]
  · obtain ⟨q, positive, quotient, _, rounds⟩ := quotient_positive weight height nonneg flat
    exact Or.inr (Or.inr ⟨q, positive, quotient, rounds⟩)

theorem tall_value_same_iff (weight height weight' height' : ℚ) (nonneg : 0 ≤ weight) (tall : 0 < height)
    (nonneg' : 0 ≤ weight') (tall' : 0 < height') :
    getBMIValue (calculateBMI weight height) = getBMIValue (calculateBMI weight' height') ↔
      nearest (weight / height ^ 2 * 10 ^ 1) = nearest (weight' / height' ^ 2 * 10 ^ 1) := by
  obtain ⟨q, positive, kind, rfl, _⟩ := quotient_positive weight height nonneg tall.ne'
  obtain ⟨r, positive', kind', rfl, _⟩ := quotient_positive weight' height' nonneg' tall'.ne'
  rw [value_eq, value_eq, String.ofList_inj, kind, kind', formatted_same_iff 1 _ _ positive positive']

end Pets.BMICalculator
