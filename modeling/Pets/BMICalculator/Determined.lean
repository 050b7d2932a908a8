import Pets.BMICalculator.Agreement
import Pets.BMICalculator.Labels

set_option autoImplicit false

namespace Pets.BMICalculator

open Pets.Printed

def StatusOpen (weight : Weight) (height : Height) : Prop :=
  ∃ weight' height', SameLabels (setting weight height) (setting weight' height') ∧
    (result (setting weight height)).bmiStatus ≠ (result (setting weight' height')).bmiStatus

-- The ends of what the two labels allow: half a kilogram and half a centimetre, as far as
-- the sliders go.
def leastWeight (kilograms : ℤ) : ℚ := max 0 (kilograms - 1 / 2)

def mostWeight (kilograms : ℤ) : ℚ := min 200 (kilograms + 1 / 2)

def leastHeight (centimetres : ℤ) : ℚ := max 0 ((centimetres - 1 / 2) / 100)

def mostHeight (centimetres : ℤ) : ℚ := min 3 ((centimetres + 1 / 2) / 100)

def LimitBetween (kilograms centimetres limit : ℤ) : Prop :=
  10 * leastWeight kilograms < limit * mostHeight centimetres ^ 2 ∧
    limit * leastHeight centimetres ^ 2 < 10 * mostWeight kilograms

theorem least_weight_nonneg (kilograms : ℤ) : 0 ≤ leastWeight kilograms := le_max_left _ _

theorem least_height_nonneg (centimetres : ℤ) : 0 ≤ leastHeight centimetres := le_max_left _ _

theorem least_weight_lt_most (weight : Weight) (kilograms : ℤ) (reads : nearest (weight * 10 ^ 0) = kilograms) :
    leastWeight kilograms < mostWeight kilograms := by
  obtain ⟨low, high⟩ := weight_label_range weight
  rw [reads] at low high
  have lowCast : (0 : ℚ) ≤ kilograms := by exact_mod_cast low
  have highCast : (kilograms : ℚ) ≤ 200 := by exact_mod_cast high
  exact max_lt (lt_min (by norm_num) (by linarith)) (lt_min (by linarith) (by linarith))

theorem least_height_lt_most (height : Height) (centimetres : ℤ) (reads : nearest (height * 10 ^ 2) = centimetres) :
    leastHeight centimetres < mostHeight centimetres := by
  obtain ⟨low, high⟩ := height_label_range height
  rw [reads] at low high
  have lowCast : (0 : ℚ) ≤ centimetres := by exact_mod_cast low
  have highCast : (centimetres : ℚ) ≤ 300 := by exact_mod_cast high
  exact max_lt (lt_min (by norm_num) (by linarith)) (lt_min (by linarith) (by linarith))

theorem weight_allowed (weight : Weight) (kilograms : ℤ) (reads : nearest (weight * 10 ^ 0) = kilograms) :
    leastWeight kilograms ≤ weight ∧ (weight : ℚ) ≤ mostWeight kilograms := by
  obtain ⟨low, high⟩ := nearest_close ((weight : ℚ) * 10 ^ 0)
  rw [reads] at low high
  exact ⟨max_le weight.property.1 (by linarith), le_min weight.property.2 (by linarith)⟩

theorem height_allowed (height : Height) (centimetres : ℤ) (reads : nearest (height * 10 ^ 2) = centimetres) :
    leastHeight centimetres ≤ height ∧ (height : ℚ) ≤ mostHeight centimetres := by
  obtain ⟨low, high⟩ := nearest_close ((height : ℚ) * 10 ^ 2)
  rw [reads] at low high
  exact ⟨max_le height.property.1 (by linarith), le_min height.property.2 (by linarith)⟩

theorem weight_reached (kilograms : ℤ) (value : ℚ) (above : leastWeight kilograms < value)
    (below : value < mostWeight kilograms) :
    ∃ weight : Weight, weight.val = value ∧ nearest (weight * 10 ^ 0) = kilograms := by
  obtain ⟨positive, low⟩ := max_lt_iff.mp above
  obtain ⟨bound, high⟩ := lt_min_iff.mp below
  exact ⟨⟨value, positive.le, bound.le⟩, rfl, nearest_near _ _ (by linarith) (by linarith)⟩

theorem height_reached (centimetres : ℤ) (value : ℚ) (above : leastHeight centimetres < value)
    (below : value < mostHeight centimetres) :
    ∃ height : Height, height.val = value ∧ nearest (height * 10 ^ 2) = centimetres := by
  obtain ⟨positive, low⟩ := max_lt_iff.mp above
  obtain ⟨bound, high⟩ := lt_min_iff.mp below
  exact ⟨⟨value, positive.le, bound.le⟩, rfl, nearest_near _ _ (by linarith) (by linarith)⟩

-- The limits are odd tenths, so none of them is met exactly at the ends of two labels.
theorem limit_not_at_ends (kilograms centimetres limit : ℤ) (odd : Odd limit) (positive : 0 < mostWeight kilograms) :
    limit * leastHeight centimetres ^ 2 ≠ 10 * mostWeight kilograms := by
  intro same
  rcases max_cases 0 (((centimetres : ℚ) - 1 / 2) / 100) with ⟨flat, _⟩ | ⟨stands, _⟩
  · rw [leastHeight, flat, zero_pow two_ne_zero, mul_zero] at same
    linarith
  · rw [leastHeight, stands] at same
    have square : (limit : ℚ) * (2 * centimetres - 1) ^ 2 = 40000 * (10 * mostWeight kilograms) := by
      rw [← same]
      ring
    obtain ⟨half, even⟩ : ∃ half : ℤ, 40000 * (10 * mostWeight kilograms) = 2 * half := by
      rcases min_cases 200 ((kilograms : ℚ) + 1 / 2) with ⟨last, _⟩ | ⟨reads, _⟩
      · exact ⟨40000000, by rw [mostWeight, last]; norm_num⟩
      · exact ⟨100000 * (2 * kilograms + 1), by rw [mostWeight, reads]; push_cast; ring⟩
    have whole : limit * (2 * centimetres - 1) ^ 2 = 2 * half := by
      exact_mod_cast square.trans even
    have oddSquare : Odd (limit * (2 * centimetres - 1) ^ 2) :=
      odd.mul (Odd.pow ⟨centimetres - 1, by ring⟩)
    rw [whole] at oddSquare
    exact Int.not_even_iff_odd.mpr oddSquare (even_two_mul half)

theorem square_above (low high bound : ℚ) (nonneg : 0 ≤ low) (less : low < high) (positive : 0 ≤ bound)
    (above : bound < high ^ 2) : ∃ middle, low < middle ∧ middle < high ∧ bound < middle ^ 2 := by
  have tall : 0 < high := lt_of_le_of_lt nonneg less
  have quotient : bound / high < high := by
    rw [div_lt_iff₀ tall]
    linarith
  have mean : bound < ((bound / high + high) / 2) ^ 2 := by
    have product : bound / high * high = bound := div_mul_cancel₀ bound tall.ne'
    have apart : 0 < (high - bound / high) ^ 2 := pow_pos (sub_pos.mpr quotient) 2
    linarith
  refine ⟨max ((low + high) / 2) ((bound / high + high) / 2), lt_max_of_lt_left (by linarith), ?_, ?_⟩
  · exact max_lt (by linarith) (by linarith)
  · exact lt_of_lt_of_le mean (pow_le_pow_left₀ (by positivity) (le_max_right _ _) 2)

theorem square_below (low high bound : ℚ) (nonneg : 0 ≤ low) (less : low < high) (above : low ^ 2 < bound) :
    ∃ middle, low < middle ∧ middle < high ∧ middle ^ 2 < bound := by
  have tall : 0 < high := lt_of_le_of_lt nonneg less
  have room : 0 < (bound - low ^ 2) / (2 * high) := div_pos (by linarith) (by linarith)
  obtain ⟨step, positive, small⟩ := exists_between (lt_min (sub_pos.mpr less) room)
  obtain ⟨short, shorter⟩ := lt_min_iff.mp small
  rw [lt_div_iff₀ (by linarith)] at shorter
  refine ⟨low + step, by linarith, by linarith, ?_⟩
  have grown : (low + step) ^ 2 = low ^ 2 + step * (low + (low + step)) := by ring
  have bounded : step * (low + (low + step)) ≤ step * (2 * high) :=
    mul_le_mul_of_nonneg_left (by linarith) positive.le
  linarith

section Allowed

variable (weight : Weight) (height : Height) (kilograms centimetres limit : ℤ)
  (weightReads : nearest (weight * 10 ^ 0) = kilograms) (heightReads : nearest (height * 10 ^ 2) = centimetres)
  (positive : 0 < limit)

include weightReads heightReads positive

theorem below_reached (between : 10 * leastWeight kilograms < limit * mostHeight centimetres ^ 2) :
    ∃ weight' height', SameLabels (setting weight height) (setting weight' height') ∧
      Below limit weight'.val height'.val := by
  have cast : (0 : ℚ) < limit := by exact_mod_cast positive
  have room := least_weight_lt_most weight kilograms weightReads
  obtain ⟨light, above, small⟩ := exists_between
    (lt_min room (show leastWeight kilograms < limit * mostHeight centimetres ^ 2 / 10 by linarith))
  obtain ⟨heavy, less⟩ := lt_min_iff.mp small
  have nonneg := (least_weight_nonneg kilograms).trans above.le
  obtain ⟨high, short, tall, square⟩ := square_above (leastHeight centimetres) (mostHeight centimetres) (10 * light / limit)
    (least_height_nonneg centimetres) (least_height_lt_most height centimetres heightReads) (by positivity) (by
      rw [div_lt_iff₀ cast]
      linarith)
  obtain ⟨weight', rfl, reads⟩ := weight_reached kilograms light above heavy
  obtain ⟨height', rfl, reads'⟩ := height_reached centimetres high short tall
  refine ⟨weight', height', (setting_labels_iff _ _ _ _).mpr ⟨weightReads.trans reads.symm, heightReads.trans reads'.symm⟩, ?_⟩
  rw [div_lt_iff₀ cast] at square
  rw [Below]
  linarith

theorem not_below_reached (between : limit * leastHeight centimetres ^ 2 < 10 * mostWeight kilograms) :
    ∃ weight' height', SameLabels (setting weight height) (setting weight' height') ∧
      ¬ Below limit weight'.val height'.val := by
  have cast : (0 : ℚ) < limit := by exact_mod_cast positive
  have room := least_weight_lt_most weight kilograms weightReads
  obtain ⟨heavy, large, below⟩ := exists_between
    (max_lt room (show limit * leastHeight centimetres ^ 2 / 10 < mostWeight kilograms by linarith))
  obtain ⟨light, more⟩ := max_lt_iff.mp large
  obtain ⟨low, short, tall, square⟩ := square_below (leastHeight centimetres) (mostHeight centimetres) (10 * heavy / limit)
    (least_height_nonneg centimetres) (least_height_lt_most height centimetres heightReads) (by
      rw [lt_div_iff₀ cast]
      linarith)
  obtain ⟨weight', rfl, reads⟩ := weight_reached kilograms heavy light below
  obtain ⟨height', rfl, reads'⟩ := height_reached centimetres low short tall
  refine ⟨weight', height', (setting_labels_iff _ _ _ _).mpr ⟨weightReads.trans reads.symm, heightReads.trans reads'.symm⟩, ?_⟩
  rw [lt_div_iff₀ cast] at square
  rw [Below]
  linarith

end Allowed

theorem limit_between_of_sides (low high : Weight) (tall flat : Height) (kilograms centimetres limit : ℤ)
    (member : limit ∈ limits) (lowReads : nearest (low * 10 ^ 0) = kilograms)
    (highReads : nearest (high * 10 ^ 0) = kilograms) (tallReads : nearest (tall * 10 ^ 2) = centimetres)
    (flatReads : nearest (flat * 10 ^ 2) = centimetres) (below : Below limit low tall)
    (notBelow : ¬ Below limit high flat) : LimitBetween kilograms centimetres limit := by
  have positive : (0 : ℚ) < limit := by exact_mod_cast limits_positive limit member
  have light := (weight_allowed low kilograms lowReads).1
  have heavy := (weight_allowed high kilograms highReads).2
  have above := (height_allowed tall centimetres tallReads).2
  have under := (height_allowed flat centimetres flatReads).1
  rw [Below] at below notBelow
  constructor
  · have squares := pow_le_pow_left₀ tall.property.1 above 2
    have scaled := mul_le_mul_of_nonneg_left squares positive.le
    linarith
  · have squares := pow_le_pow_left₀ (least_height_nonneg centimetres) under 2
    have scaled := mul_le_mul_of_nonneg_left squares positive.le
    have room := least_weight_lt_most high kilograms highReads
    have nonempty : 0 < mostWeight kilograms := lt_of_le_of_lt (least_weight_nonneg kilograms) room
    refine lt_of_le_of_ne (by linarith) (limit_not_at_ends kilograms centimetres limit (limits_odd limit member) nonempty)

theorem status_open_iff (weight : Weight) (height : Height) :
    StatusOpen weight height ↔
      ∃ limit ∈ limits, LimitBetween (nearest (weight * 10 ^ 0)) (nearest (height * 10 ^ 2)) limit := by
  constructor
  · intro ⟨weight', height', labels, differ⟩
    obtain ⟨weightSame, heightSame⟩ := (setting_labels_iff _ _ _ _).mp labels
    have sides := (status_same_iff weight height weight' height' weight.property.1 weight'.property.1).not.mp differ
    push Not at sides
    obtain ⟨limit, member, ⟨below, notBelow⟩ | ⟨notBelow, below⟩⟩ := sides
    · exact ⟨limit, member, limit_between_of_sides weight weight' height height' _ _ limit member rfl weightSame.symm rfl
        heightSame.symm below notBelow⟩
    · exact ⟨limit, member, limit_between_of_sides weight' weight height' height _ _ limit member weightSame.symm rfl
        heightSame.symm rfl below notBelow⟩
  · intro ⟨limit, member, lower, upper⟩
    have positive := limits_positive limit member
    obtain ⟨light, tall, lightLabels, below⟩ := below_reached weight height _ _ limit rfl rfl positive lower
    obtain ⟨heavy, flat, heavyLabels, notBelow⟩ := not_below_reached weight height _ _ limit rfl rfl positive upper
    by_cases given : Below limit weight height
    · refine ⟨heavy, flat, heavyLabels, fun same => ?_⟩
      have sides := (status_same_iff weight height heavy flat weight.property.1 heavy.property.1).mp same limit member
      exact notBelow (sides.mp given)
    · refine ⟨light, tall, lightLabels, fun same => ?_⟩
      have sides := (status_same_iff weight height light tall weight.property.1 light.property.1).mp same limit member
      exact given (sides.mpr below)

theorem result_follows_labels_iff (weight : Weight) (height : Height) :
    Undecided weight height ∧
      (StatusOpen weight height ↔
        ∃ limit ∈ limits, LimitBetween (nearest (weight * 10 ^ 0)) (nearest (height * 10 ^ 2)) limit) :=
  ⟨undecided weight height, status_open_iff weight height⟩

-- Both read 70KG and 1.75M.
theorem seventy_kilograms_two_results :
    SameLabels (setting ⟨279 / 4, by norm_num⟩ ⟨7 / 4, by norm_num⟩) (setting ⟨281 / 4, by norm_num⟩ ⟨7 / 4, by norm_num⟩) ∧
      ¬ SameResult (setting ⟨279 / 4, by norm_num⟩ ⟨7 / 4, by norm_num⟩)
        (setting ⟨281 / 4, by norm_num⟩ ⟨7 / 4, by norm_num⟩) ∧
      (result (setting ⟨279 / 4, by norm_num⟩ ⟨7 / 4, by norm_num⟩)).bmiValue = "22.8" ∧
      (result (setting ⟨281 / 4, by norm_num⟩ ⟨7 / 4, by norm_num⟩)).bmiValue = "22.9" := by
  have low : (result (setting ⟨279 / 4, by norm_num⟩ ⟨7 / 4, by norm_num⟩)).bmiValue = "22.8" := by decide +kernel
  have high : (result (setting ⟨281 / 4, by norm_num⟩ ⟨7 / 4, by norm_num⟩)).bmiValue = "22.9" := by decide +kernel
  refine ⟨⟨by decide +kernel, rfl⟩, ?_, low, high⟩
  intro ⟨same, _⟩
  rw [low, high] at same
  exact absurd same (by decide)

end Pets.BMICalculator
