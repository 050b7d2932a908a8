import Pets.BMICalculator.CalculateViewController

set_option autoImplicit false

namespace Pets.BMICalculator

def bands : List String := ["UNDERWEIGHT", "NORMAL", "OVERWEIGHT", "OBESE", "EXTREMELY OBESE"]

def band (weight height : ℚ) : ℕ := bands.idxOf (getBMIStatus (calculateBMI weight height))

def WellDefined (weight height : ℚ) : Prop :=
  height ^ 2 ≠ 0 ∧ ∃ q, (calculateBMI weight height).bmi.map BMI.value = some (.finite q)

def NeverLighter (weight : Weight) (height : Height) : Prop :=
  ∀ (heavier : Weight) (shorter : Height), weight.val ≤ heavier.val → shorter.val ≤ height.val →
    band weight height ≤ band heavier shorter

theorem below_antitone (limit : ℤ) (weight heavier height shorter : ℚ) (positive : 0 ≤ limit) (heavy : weight ≤ heavier)
    (nonneg : 0 ≤ shorter) (short : shorter ≤ height) (below : Below limit heavier shorter) : Below limit weight height := by
  have cast : (0 : ℚ) ≤ limit := by exact_mod_cast positive
  have squares : shorter ^ 2 ≤ height ^ 2 := pow_le_pow_left₀ nonneg short 2
  calc 10 * weight ≤ 10 * heavier := by linarith
    _ < limit * shorter ^ 2 := below
    _ ≤ limit * height ^ 2 := mul_le_mul_of_nonneg_left squares cast

-- The band counts the limits that the quotient has reached.
theorem band_eq (weight height : ℚ) (nonneg : 0 ≤ weight) :
    band weight height = limits.countP fun limit => decide (¬ Below limit weight height) := by
  have first := below_mono 185 249 weight height (by decide)
  have second := below_mono 249 299 weight height (by decide)
  have third := below_mono 299 349 weight height (by decide)
  rw [band, status_eq weight height nonneg]
  simp only [limits, List.countP_cons, List.countP_nil, decide_eq_true_eq]
  split_ifs <;> first | rfl | tauto

theorem band_lt (weight height : ℚ) (nonneg : 0 ≤ weight) : band weight height < bands.length := by
  rw [band_eq weight height nonneg]
  exact Nat.lt_succ_of_le List.countP_le_length

theorem never_lighter (weight : Weight) (height : Height) : NeverLighter weight height := by
  intro heavier shorter heavy short
  rw [band_eq _ _ weight.property.1, band_eq _ _ heavier.property.1]
  apply List.countP_mono_left
  intro limit member reached
  have positive : 0 ≤ limit := (by decide : ∀ limit ∈ limits, 0 ≤ limit) limit member
  have stays := below_antitone limit weight heavier height shorter positive heavy shorter.property.1 short
  exact decide_eq_true (mt stays (of_decide_eq_true reached))

theorem well_defined_iff (weight height : ℚ) : WellDefined weight height ↔ height ≠ 0 := by
  refine ⟨fun defined flat => defined.1 (by rw [flat, zero_pow two_ne_zero]), ?_⟩
  intro tall
  have square : height ^ 2 ≠ 0 := pow_ne_zero 2 tall
  exact ⟨square, weight / height ^ 2, by rw [value_stored, Extended.finite_div _ _ square]⟩

theorem defined_and_ordered_iff (weight : Weight) (height : Height) :
    WellDefined weight height ∧ NeverLighter weight height ↔ height.val ≠ 0 := by
  rw [well_defined_iff, and_iff_left (never_lighter weight height)]

theorem slider_starts : ((0 : ℚ) ≤ 0 ∧ (0 : ℚ) ≤ 200) ∧ (0 : ℚ) ≤ 0 ∧ (0 : ℚ) ≤ 3 := by norm_num

def lightest : Weight := ⟨0, slider_starts.1⟩

def flattest : Height := ⟨0, slider_starts.2⟩

theorem flat_not_defined :
    ¬ WellDefined lightest flattest ∧ ¬ WellDefined launched.weightSlider flattest ∧
      prepare (calculatePressed (heightHasChanged (weightHasChanged launched lightest) flattest)) =
        ⟨"nan", "EXTREMELY OBESE", .red⟩ ∧
      prepare (calculatePressed (heightHasChanged launched flattest)) = ⟨"inf", "EXTREMELY OBESE", .red⟩ := by
  refine ⟨?_, ?_, by decide +kernel, by decide +kernel⟩
  · exact fun defined => defined.1 (zero_pow two_ne_zero)
  · exact fun defined => defined.1 (zero_pow two_ne_zero)

end Pets.BMICalculator
