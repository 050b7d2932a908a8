import Mathlib.Analysis.Real.Sqrt
import Mathlib.Data.Nat.Sqrt
import Pets.Library.Printed

set_option autoImplicit false

namespace Pets.Printed

-- The root of a number that is not negative, rounded like nearest; the root
-- itself is never formed.
def nearestRoot (q : ℚ) : ℤ :=
  let low : ℤ := Nat.sqrt ⌊q⌋.toNat
  if q < (low + 1 / 2) ^ 2 then low else if (low + 1 / 2) ^ 2 < q then low + 1 else if Even low then low else low + 1

theorem low_root (q : ℚ) (nonneg : 0 ≤ q) :
    ((Nat.sqrt ⌊q⌋.toNat : ℤ) : ℚ) ^ 2 ≤ q ∧ q < ((Nat.sqrt ⌊q⌋.toNat : ℤ) + 1 : ℚ) ^ 2 := by
  have whole : ((⌊q⌋.toNat : ℕ) : ℤ) = ⌊q⌋ := Int.toNat_of_nonneg (Int.floor_nonneg.mpr nonneg)
  have below : ((Nat.sqrt ⌊q⌋.toNat : ℤ)) ^ 2 ≤ ⌊q⌋ := by
    rw [← whole]
    exact_mod_cast Nat.sqrt_le' ⌊q⌋.toNat
  have above : ⌊q⌋ < ((Nat.sqrt ⌊q⌋.toNat : ℤ) + 1) ^ 2 := by
    rw [← whole]
    exact_mod_cast Nat.lt_succ_sqrt' ⌊q⌋.toNat
  refine ⟨?_, ?_⟩
  · have floor := Int.le_floor.mp below
    exact_mod_cast floor
  · have floor := Int.floor_lt.mp above
    exact_mod_cast floor

theorem nearest_root_le_iff (q : ℚ) (nonneg : 0 ≤ q) (k : ℤ) (natural : 0 ≤ k) :
    nearestRoot q ≤ k ↔ q < (k + 1 / 2) ^ 2 ∨ (q = (k + 1 / 2) ^ 2 ∧ Even k) := by
  obtain ⟨below, above⟩ := low_root q nonneg
  have positive : (0 : ℚ) ≤ k := by exact_mod_cast natural
  rw [nearestRoot]
  generalize (Nat.sqrt ⌊q⌋.toNat : ℤ) = low at below above ⊢
  rcases lt_trichotomy low k with less | same | more
  · have cast : (low : ℚ) + 1 ≤ k := by exact_mod_cast less
    refine iff_of_true ?_ (Or.inl ?_)
    · split_ifs <;> omega
    · nlinarith
  · subst same
    rcases lt_trichotomy q ((low + 1 / 2) ^ 2) with first | middle | last
    · rw [if_pos first]
      exact iff_of_true le_rfl (Or.inl first)
    · rw [if_neg middle.not_lt, if_neg middle.not_gt]
      by_cases even : Even low
      · rw [if_pos even]
        exact iff_of_true le_rfl (Or.inr ⟨middle, even⟩)
      · rw [if_neg even]
        refine iff_of_false (by omega) ?_
        exact not_or.mpr ⟨middle.not_lt, fun tie => even tie.2⟩
    · rw [if_neg last.not_gt, if_pos last]
      refine iff_of_false (by omega) ?_
      exact not_or.mpr ⟨last.not_gt, fun tie => last.ne' tie.1⟩
  · have cast : (k : ℚ) + 1 ≤ low := by exact_mod_cast more
    have beyond : ((k : ℚ) + 1 / 2) ^ 2 < q := by nlinarith
    refine iff_of_false ?_ (not_or.mpr ⟨beyond.not_gt, fun tie => beyond.ne' tie.1⟩)
    split_ifs <;> omega

theorem nearest_root_nonneg (q : ℚ) : 0 ≤ nearestRoot q := by
  rw [nearestRoot]
  split_ifs <;> omega

theorem nearest_root_sq (r : ℚ) (nonneg : 0 ≤ r) : nearestRoot (r ^ 2) = nearest r := by
  have agree : ∀ k : ℤ, 0 ≤ k → (nearestRoot (r ^ 2) ≤ k ↔ nearest r ≤ k) := by
    intro k natural
    have half : (0 : ℚ) ≤ k + 1 / 2 := by
      have positive : (0 : ℚ) ≤ k := by exact_mod_cast natural
      linarith
    rw [nearest_root_le_iff _ (sq_nonneg r) k natural, nearest_le_iff, pow_lt_pow_iff_left₀ nonneg half two_ne_zero,
      pow_left_inj₀ nonneg half two_ne_zero]
  apply le_antisymm
  · exact (agree _ (nearest_nonneg r nonneg)).mpr le_rfl
  · exact (agree _ (nearest_root_nonneg _)).mp le_rfl

theorem nearest_root_close (q : ℚ) (nonneg : 0 ≤ q) : |(nearestRoot q : ℝ) - √(q : ℝ)| ≤ 1 / 2 := by
  have natural := nearest_root_nonneg q
  have atMost : √(q : ℝ) ≤ nearestRoot q + 1 / 2 := by
    rw [Real.sqrt_le_iff]
    have upper : q ≤ (nearestRoot q + 1 / 2 : ℚ) ^ 2 := by
      rcases (nearest_root_le_iff q nonneg _ natural).mp le_rfl with less | tie
      · exact less.le
      · exact tie.1.le
    have real : (q : ℝ) ≤ (((nearestRoot q + 1 / 2 : ℚ) ^ 2 : ℚ) : ℝ) := Rat.cast_le.mpr upper
    push_cast at real
    have cast : (0 : ℝ) ≤ nearestRoot q := by exact_mod_cast natural
    exact ⟨by linarith, real⟩
  have atLeast : (nearestRoot q : ℝ) - 1 / 2 ≤ √(q : ℝ) := by
    rcases natural.eq_or_lt with zero | positive
    · rw [← zero, Int.cast_zero]
      linarith [Real.sqrt_nonneg (q : ℝ)]
    · have lower : (nearestRoot q - 1 / 2 : ℚ) ^ 2 ≤ q := by
        have beyond := (nearest_root_le_iff q nonneg (nearestRoot q - 1) (by omega)).not.mp (by omega)
        push_cast at beyond
        have least := not_lt.mp (not_or.mp beyond).1
        linarith
      have real : (((nearestRoot q - 1 / 2 : ℚ) ^ 2 : ℚ) : ℝ) ≤ q := Rat.cast_le.mpr lower
      push_cast at real
      exact Real.le_sqrt_of_sq_le real
  rw [abs_le]
  exact ⟨by linarith, by linarith⟩

end Pets.Printed
