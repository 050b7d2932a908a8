import Mathlib.Tactic.NormNum
import Pets.BMICalculator.CalculateViewController

set_option autoImplicit false

namespace Pets.BMICalculator

open Pets.Printed

def SameLabels (left right : CalculateViewController) : Prop :=
  left.weightLabel = right.weightLabel ∧ left.heightLabel = right.heightLabel

def SameResult (left right : CalculateViewController) : Prop :=
  (result left).bmiValue = (result right).bmiValue ∧ (result left).bmiStatus = (result right).bmiStatus

def setting (weight : Weight) (height : Height) : CalculateViewController :=
  heightHasChanged (weightHasChanged launched weight) height

theorem setting_labels_iff (weight weight' : Weight) (height height' : Height) :
    SameLabels (setting weight height) (setting weight' height') ↔
      nearest (weight * 10 ^ 0) = nearest (weight' * 10 ^ 0) ∧ nearest (height * 10 ^ 2) = nearest (height' * 10 ^ 2) := by
  rw [← weight_text_same_iff, ← height_text_same_iff]
  rfl

def Undecided (weight : Weight) (height : Height) : Prop :=
  ∃ weight' height', SameLabels (setting weight height) (setting weight' height') ∧
    (result (setting weight height)).bmiValue ≠ (result (setting weight' height')).bmiValue

theorem undecided_of_two (weight first second : Weight) (height low high : Height)
    (firstLabels : SameLabels (setting weight height) (setting first low))
    (secondLabels : SameLabels (setting weight height) (setting second high))
    (differ : (result (setting first low)).bmiValue ≠ (result (setting second high)).bmiValue) :
    Undecided weight height := by
  by_cases same : (result (setting weight height)).bmiValue = (result (setting first low)).bmiValue
  · exact ⟨second, high, secondLabels, fun alike => differ (same.symm.trans alike)⟩
  · exact ⟨first, low, firstLabels, same⟩

theorem tall_results_differ (first second : Weight) (low high : Height) (lowTall : 0 < low.val) (highTall : 0 < high.val)
    (less : nearest (first / low ^ 2 * 10 ^ 1) < nearest (second / high ^ 2 * 10 ^ 1)) :
    (result (setting first low)).bmiValue ≠ (result (setting second high)).bmiValue := by
  intro same
  have rounded := (tall_value_same_iff _ _ _ _ first.property.1 lowTall second.property.1 highTall).mp same
  omega

theorem flat_result_differs (weight weight' : Weight) (low high : Height) (flat : low.val = 0) (tall : 0 < high.val) :
    (result (setting weight low)).bmiValue ≠ (result (setting weight' high)).bmiValue := by
  intro same
  obtain ⟨q, positive, kind, _⟩ := quotient_positive weight' high weight'.property.1 tall.ne'
  have text : formatted 1 (.finite weight / .finite (low ^ 2)) = formatted 1 (.finite q) := by
    rw [← kind, ← String.ofList_inj, ← value_eq, ← value_eq]
    exact same
  rcases quotient_cases weight low weight.property.1 with ⟨nan, _⟩ | ⟨infinite, _⟩ | ⟨_, _, finite, rounds⟩
  · rw [nan] at text
    exact letter_text_ne 1 .nan q positive (by decide) text
  · rw [infinite] at text
    exact letter_text_ne 1 (.infinity false) q positive (by decide) text
  · rw [flat, zero_pow two_ne_zero] at finite
    by_cases none : (weight : ℚ) = 0
    · rw [none, Extended.zero_div_zero] at finite
      cases finite
    · rw [Extended.finite_div_zero _ none] at finite
      cases finite

theorem height_square (height : Height) : (height : ℚ) ^ 2 ≤ 9 := by
  obtain ⟨nonneg, bound⟩ := height.property
  nlinarith

theorem undecided_flat (weight : Weight) (height : Height) (label : nearest (height * 10 ^ 2) = 0) :
    Undecided weight height := by
  by_cases flat : height.val = 0
  · refine ⟨weight, ⟨1 / 1000, by norm_num⟩, ?_, flat_result_differs weight weight height _ flat (by norm_num)⟩
    rw [setting_labels_iff]
    refine ⟨rfl, label.trans (nearest_near _ 0 (by norm_num) (by norm_num)).symm⟩
  · have tall : 0 < height.val := lt_of_le_of_ne height.property.1 (Ne.symm flat)
    refine ⟨weight, ⟨0, by norm_num⟩, ?_, (flat_result_differs weight weight ⟨0, by norm_num⟩ height rfl tall).symm⟩
    rw [setting_labels_iff]
    refine ⟨rfl, label.trans ?_⟩
    rw [zero_mul, nearest_zero]

theorem undecided_light (weight : Weight) (height : Height) (tall : 0 < height.val)
    (label : nearest (weight * 10 ^ 0) = 0) : Undecided weight height := by
  have square : (0 : ℚ) < height ^ 2 := by positivity
  have bound := height_square height
  apply undecided_of_two weight ⟨0, by norm_num⟩ ⟨49 / 100, by norm_num⟩ height height height
  · rw [setting_labels_iff]
    refine ⟨label.trans ?_, rfl⟩
    rw [zero_mul, nearest_zero]
  · rw [setting_labels_iff]
    exact ⟨label.trans (nearest_near _ 0 (by norm_num) (by norm_num)).symm, rfl⟩
  · apply tall_results_differ _ _ _ _ tall tall
    rw [zero_div, zero_mul, nearest_zero, ← not_le, nearest_le_iff, Int.cast_zero, zero_add]
    have more : 1 / 2 < (49 / 100 : ℚ) / height ^ 2 * 10 ^ 1 := by
      rw [pow_one, div_mul_eq_mul_div, lt_div_iff₀ square]
      linarith
    refine not_or.mpr ⟨more.le.not_gt, fun tie => more.ne' tie.1⟩

theorem undecided_middle (weight : Weight) (height : Height) (tall : 0 < height.val) (label : ℤ)
    (reads : nearest (weight * 10 ^ 0) = label) (one : 1 ≤ label) (most : label ≤ 199) : Undecided weight height := by
  have square : (0 : ℚ) < height ^ 2 := by positivity
  have bound := height_square height
  have low : (1 : ℚ) ≤ label := by exact_mod_cast one
  have high : (label : ℚ) ≤ 199 := by exact_mod_cast most
  apply undecided_of_two weight ⟨label - 49 / 100, by constructor <;> linarith⟩ ⟨label + 49 / 100, by constructor <;> linarith⟩
    height height height
  · rw [setting_labels_iff, reads]
    exact ⟨(nearest_near _ label (by linarith) (by linarith)).symm, rfl⟩
  · rw [setting_labels_iff, reads]
    exact ⟨(nearest_near _ label (by linarith) (by linarith)).symm, rfl⟩
  · apply tall_results_differ _ _ _ _ tall tall
    apply nearest_far
    rw [pow_one, div_mul_eq_mul_div, div_mul_eq_mul_div, div_add_one square.ne', div_lt_div_iff_of_pos_right square]
    linarith

theorem heavy_squares (low high : ℚ) (positive : 0 < low) (apart : low + 1 / 250 ≤ high) (some : 1 / 100 ≤ high)
    (most : high ≤ 3) : (1996 + high ^ 2) * low ^ 2 < 2000 * high ^ 2 := by
  have squares : low ^ 2 ≤ (high - 1 / 250) ^ 2 := by
    apply pow_le_pow_left₀ positive.le
    linarith
  have worst : (1996 + high ^ 2) * (high - 1 / 250) ^ 2 < 2000 * high ^ 2 := by
    have between := mul_nonneg (sub_nonneg.mpr some) (sub_nonneg.mpr most)
    have cubic := mul_nonneg (sq_nonneg high) (sub_nonneg.mpr most)
    nlinarith
  exact lt_of_le_of_lt (mul_le_mul_of_nonneg_left squares (by positivity)) worst

theorem heavy_far (low high : ℚ) (positive : 0 < low) (apart : low + 1 / 250 ≤ high) (some : 1 / 100 ≤ high)
    (most : high ≤ 3) : 1996 / 10 / high ^ 2 * 10 ^ 1 + 1 < 200 / low ^ 2 * 10 ^ 1 := by
  have tall : 0 < high := by linarith
  have left : 1996 / 10 / high ^ 2 * 10 ^ 1 + 1 = (1996 + high ^ 2) / high ^ 2 := by
    field_simp
  have right : 200 / low ^ 2 * 10 ^ 1 = 2000 / low ^ 2 := by ring
  rw [left, right, div_lt_div_iff₀ (by positivity) (by positivity)]
  exact heavy_squares low high positive apart some most

-- At the end of the weight slider the heights under one label have to help.
theorem undecided_heavy (weight : Weight) (height : Height) (label : ℤ) (heavy : nearest (weight * 10 ^ 0) = 200)
    (reads : nearest (height * 10 ^ 2) = label) (one : 1 ≤ label) (most : label ≤ 300) : Undecided weight height := by
  have least : (1 : ℚ) ≤ label := by exact_mod_cast one
  have last : (label : ℚ) ≤ 300 := by exact_mod_cast most
  obtain ⟨high, above, below, bound⟩ : ∃ high : ℚ, label / 100 ≤ high ∧ high ≤ (label + 4 / 10) / 100 ∧ high ≤ 3 := by
    refine ⟨min 3 ((label + 4 / 10) / 100), le_min ?_ ?_, min_le_right _ _, min_le_left _ _⟩
    · linarith
    · linarith
  apply undecided_of_two weight ⟨1996 / 10, by norm_num⟩ ⟨200, by norm_num⟩ height ⟨high, by linarith, bound⟩
    ⟨(label - 4 / 10) / 100, by linarith, by linarith⟩
  · rw [setting_labels_iff, heavy, reads]
    exact ⟨(nearest_near _ 200 (by norm_num) (by norm_num)).symm,
      (nearest_near _ label (by linarith) (by linarith)).symm⟩
  · rw [setting_labels_iff, heavy, reads]
    exact ⟨(nearest_near _ 200 (by norm_num) (by norm_num)).symm,
      (nearest_near _ label (by linarith) (by linarith)).symm⟩
  · apply tall_results_differ
    · exact lt_of_lt_of_le (by linarith) above
    · change (0 : ℚ) < (label - 4 / 10) / 100
      linarith
    · apply nearest_far
      exact heavy_far _ high (by linarith) (by linarith) (by linarith) bound

theorem weight_label_range (weight : Weight) : 0 ≤ nearest (weight * 10 ^ 0) ∧ nearest (weight * 10 ^ 0) ≤ 200 := by
  refine ⟨nearest_nonneg _ (mul_nonneg weight.property.1 (by positivity)), ?_⟩
  have mono := nearest_mono (weight * 10 ^ 0) (200 : ℤ) (by have bound := weight.property.2; push_cast; linarith)
  rwa [nearest_int] at mono

theorem height_label_range (height : Height) : 0 ≤ nearest (height * 10 ^ 2) ∧ nearest (height * 10 ^ 2) ≤ 300 := by
  refine ⟨nearest_nonneg _ (mul_nonneg height.property.1 (by positivity)), ?_⟩
  have mono := nearest_mono (height * 10 ^ 2) (300 : ℤ) (by have bound := height.property.2; push_cast; linarith)
  rwa [nearest_int] at mono

theorem undecided (weight : Weight) (height : Height) : Undecided weight height := by
  obtain ⟨heightFrom, heightTo⟩ := height_label_range height
  obtain ⟨weightFrom, weightTo⟩ := weight_label_range weight
  by_cases flat : nearest (height * 10 ^ 2) = 0
  · exact undecided_flat weight height flat
  · have tall : 0 < height.val := by
      apply lt_of_le_of_ne height.property.1
      intro none
      rw [← none, zero_mul, nearest_zero] at flat
      exact flat rfl
    by_cases light : nearest (weight * 10 ^ 0) = 0
    · exact undecided_light weight height tall light
    · by_cases heavy : nearest (weight * 10 ^ 0) = 200
      · exact undecided_heavy weight height _ heavy rfl (by omega) heightTo
      · exact undecided_middle weight height tall _ rfl (by omega) (by omega)

end Pets.BMICalculator
