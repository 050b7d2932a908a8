import Mathlib.Data.Rat.Floor
import Mathlib.Tactic.Linarith
import Pets.Library.Extended

set_option autoImplicit false

namespace Pets.Printed

def padded (width n : ℕ) : List Char :=
  List.replicate (width - (Nat.toDigits 10 n).length) '0' ++ Nat.toDigits 10 n

def number (text : List Char) : ℕ := Nat.ofDigitChars 10 text 0

def signed (width : ℕ) (n : ℤ) : List Char :=
  if n < 0 then '-' :: padded width n.natAbs else padded width n.natAbs

def pointed (places units : ℕ) : List Char :=
  let text := padded (places + 1) units
  if places = 0 then text else text.take (text.length - places) ++ '.' :: text.drop (text.length - places)

-- The nearest integer, and of two equally near ones the even one.
def nearest (q : ℚ) : ℤ :=
  if q - ⌊q⌋ < 1 / 2 then ⌊q⌋ else if 1 / 2 < q - ⌊q⌋ then ⌊q⌋ + 1 else if Even ⌊q⌋ then ⌊q⌋ else ⌊q⌋ + 1

-- String(format: "%.Nf", value) with N places.
def formatted (places : ℕ) : Extended → List Char
  | .finite q =>
      let text := pointed places (nearest (|q| * 10 ^ places)).toNat
      if q < 0 then '-' :: text else text
  | .infinity negative => if negative then ['-', 'i', 'n', 'f'] else ['i', 'n', 'f']
  | .nan => ['n', 'a', 'n']

theorem number_padded (width n : ℕ) : number (padded width n) = n := by
  rw [number, padded, Nat.ofDigitChars_append, Nat.ofDigitChars_replicate_zero, Nat.mul_zero,
    Nat.ofDigitChars_ten_toDigits]

theorem padded_inj (width left right : ℕ) (same : padded width left = padded width right) : left = right := by
  rw [← number_padded width left, same, number_padded]

theorem printed_same (left right : ℕ) (same : toString left = toString right) : left = right := by
  have digits : Nat.toDigits 10 left = Nat.toDigits 10 right := by
    rw [← Nat.toList_repr, ← Nat.toList_repr]
    exact congrArg String.toList same
  rw [← Nat.ofDigitChars_ten_toDigits (n := left), digits, Nat.ofDigitChars_ten_toDigits]

theorem padded_length_ge (width n : ℕ) : width ≤ (padded width n).length := by
  rw [padded, List.length_append, List.length_replicate]
  omega

theorem padded_length (width n : ℕ) (positive : 0 < width) (small : n < 10 ^ width) :
    (padded width n).length = width := by
  have short : (Nat.toDigits 10 n).length ≤ width := (Nat.length_toDigits_le_iff (by decide) positive).mpr small
  rw [padded, List.length_append, List.length_replicate]
  omega

theorem padded_digits (width n : ℕ) : ∀ c ∈ padded width n, c.isDigit := by
  intro c member
  rcases List.mem_append.mp member with zeros | digits
  · rw [List.eq_of_mem_replicate zeros]
    rfl
  · exact Nat.isDigit_of_mem_toDigits (by decide) (by decide) digits

theorem padded_not_minus (width n : ℕ) (rest : List Char) : padded width n ≠ '-' :: rest := by
  intro same
  have digit := padded_digits width n '-' (by rw [same]; exact List.mem_cons_self)
  exact absurd digit (by decide)

theorem signed_inj (width : ℕ) (left right : ℤ) (same : signed width left = signed width right) : left = right := by
  by_cases leftSign : left < 0
  · by_cases rightSign : right < 0
    · rw [signed, signed, if_pos leftSign, if_pos rightSign] at same
      have size := padded_inj width _ _ (List.cons.inj same).2
      omega
    · rw [signed, signed, if_pos leftSign, if_neg rightSign] at same
      exact absurd same.symm (padded_not_minus width _ _)
  · by_cases rightSign : right < 0
    · rw [signed, signed, if_neg leftSign, if_pos rightSign] at same
      exact absurd same (padded_not_minus width _ _)
    · rw [signed, signed, if_neg leftSign, if_neg rightSign] at same
      have size := padded_inj width _ _ same
      omega

theorem pointed_inj (places left right : ℕ) (same : pointed places left = pointed places right) : left = right := by
  by_cases whole : places = 0
  · rw [pointed, pointed, if_pos whole, if_pos whole] at same
    exact padded_inj _ _ _ same
  · rw [pointed, pointed, if_neg whole, if_neg whole] at same
    have leftLong := padded_length_ge (places + 1) left
    have rightLong := padded_length_ge (places + 1) right
    have parts := List.append_inj' same (by simp only [List.length_cons, List.length_drop]; omega)
    apply padded_inj (places + 1)
    rw [← List.take_append_drop ((padded (places + 1) left).length - places) (padded (places + 1) left), parts.1,
      (List.cons.inj parts.2).2, List.take_append_drop]

theorem pointed_chars (places units : ℕ) : ∀ c ∈ pointed places units, c.isDigit = true ∨ c = '.' := by
  intro c member
  have digits := padded_digits (places + 1) units
  by_cases whole : places = 0
  · rw [pointed, if_pos whole] at member
    exact Or.inl (digits c member)
  · rw [pointed, if_neg whole] at member
    rcases List.mem_append.mp member with front | back
    · exact Or.inl (digits c (List.mem_of_mem_take front))
    · rcases List.mem_cons.mp back with point | rest
      · exact Or.inr point
      · exact Or.inl (digits c (List.mem_of_mem_drop rest))

-- A rounding boundary lies half way between two integers and belongs to the even one.
theorem nearest_le_iff (q : ℚ) (k : ℤ) : nearest q ≤ k ↔ q < k + 1 / 2 ∨ (q = k + 1 / 2 ∧ Even k) := by
  have low := Int.floor_le q
  have high := Int.lt_floor_add_one q
  rcases lt_trichotomy ⌊q⌋ k with below | same | above
  · have cast : (⌊q⌋ : ℚ) + 1 ≤ k := by exact_mod_cast below
    refine iff_of_true ?_ (Or.inl (by linarith))
    rw [nearest]
    split_ifs <;> omega
  · have cast : (⌊q⌋ : ℚ) = k := by exact_mod_cast same
    rw [nearest, same, ← cast]
    by_cases less : q - ⌊q⌋ < 1 / 2
    · rw [if_pos less]
      exact iff_of_true (le_refl k) (Or.inl (by linarith))
    · rw [if_neg less]
      by_cases more : 1 / 2 < q - ⌊q⌋
      · rw [if_pos more]
        refine iff_of_false (by omega) ?_
        intro early
        rcases early with early | ⟨early, _⟩
        · linarith
        · linarith
      · rw [if_neg more]
        have half : q = ⌊q⌋ + 1 / 2 := by linarith
        by_cases even : Even k
        · rw [if_pos even]
          exact iff_of_true (le_refl k) (Or.inr ⟨half, even⟩)
        · rw [if_neg even]
          refine iff_of_false (by omega) ?_
          intro early
          rcases early with early | ⟨_, impossible⟩
          · linarith
          · exact even impossible
  · have cast : (k : ℚ) + 1 ≤ ⌊q⌋ := by exact_mod_cast above
    refine iff_of_false ?_ ?_
    · rw [nearest]
      split_ifs <;> omega
    · intro early
      rcases early with early | ⟨early, _⟩
      · linarith
      · linarith

theorem nearest_mono (left right : ℚ) (below : left ≤ right) : nearest left ≤ nearest right := by
  rw [nearest_le_iff]
  rcases (nearest_le_iff right _).mp (le_refl (nearest right)) with less | ⟨half, even⟩
  · exact Or.inl (lt_of_le_of_lt below less)
  · rcases lt_or_eq_of_le (half ▸ below) with less | same
    · exact Or.inl less
    · exact Or.inr ⟨same, even⟩

theorem nearest_int (n : ℤ) : nearest n = n := by
  rw [nearest, Int.floor_intCast, sub_self, if_pos (by norm_num)]

theorem nearest_zero : nearest 0 = 0 := by
  exact_mod_cast nearest_int 0

theorem nearest_nonneg (q : ℚ) (nonneg : 0 ≤ q) : 0 ≤ nearest q := by
  have mono := nearest_mono 0 q nonneg
  rwa [nearest_zero] at mono

theorem nearest_close (q : ℚ) : (nearest q : ℚ) - 1 / 2 ≤ q ∧ q ≤ nearest q + 1 / 2 := by
  refine ⟨?_, ?_⟩
  · have above : ¬ nearest q ≤ nearest q - 1 := by omega
    rw [nearest_le_iff, not_or, not_lt] at above
    have bound := above.1
    push_cast at bound
    linarith
  · rcases (nearest_le_iff q _).mp (le_refl (nearest q)) with less | ⟨half, _⟩
    · exact less.le
    · exact half.le

theorem nearest_near (q : ℚ) (n : ℤ) (below : n - 1 / 2 < q) (above : q < n + 1 / 2) : nearest q = n := by
  have upper := (nearest_le_iff q n).mpr (Or.inl above)
  have lower : ¬ nearest q ≤ n - 1 := by
    rw [nearest_le_iff, not_or]
    push_cast
    refine ⟨by linarith, ?_⟩
    intro ⟨half, _⟩
    linarith
  omega

theorem nearest_odd_iff (q : ℚ) (n : ℤ) (odd : Odd n) : nearest q = n ↔ n - 1 / 2 < q ∧ q < n + 1 / 2 := by
  refine ⟨?_, fun ⟨below, above⟩ => nearest_near q n below above⟩
  intro same
  obtain ⟨low, high⟩ := nearest_close q
  rw [same] at low high
  refine ⟨lt_of_le_of_ne low ?_, lt_of_le_of_ne high ?_⟩
  · intro tie
    have early : nearest q ≤ n - 1 := by
      rw [nearest_le_iff]
      refine Or.inr ⟨by push_cast; linarith, ?_⟩
      exact Odd.sub_odd odd odd_one
    omega
  · intro tie
    rcases (nearest_le_iff q n).mp same.le with less | ⟨_, even⟩
    · exact less.ne tie
    · exact (Int.not_even_iff_odd.mpr odd) even

theorem nearest_far (left right : ℚ) (far : left + 1 < right) : nearest left < nearest right := by
  have low := (nearest_close left).1
  have high := (nearest_close right).2
  exact_mod_cast (by linarith : (nearest left : ℚ) < nearest right)

-- Rounded values tell the sides of the limits, unless two values round to one
-- limit from either side of it.
theorem rounded_tells_sides_iff (limits : List ℤ) (left right : ℚ) :
    (nearest left = nearest right → ∀ limit ∈ limits, left < limit ↔ right < limit) ↔
      ∀ limit ∈ limits, nearest left = limit → nearest right = limit → (left < limit ↔ right < limit) := by
  refine ⟨fun tells limit member toLeft toRight => tells (toLeft.trans toRight.symm) limit member, ?_⟩
  intro atLimits same limit member
  have fixed : nearest (limit : ℚ) = limit := nearest_int limit
  by_cases leftSide : left < limit
  · by_cases rightSide : right < limit
    · exact iff_of_true leftSide rightSide
    · have low := nearest_mono left limit leftSide.le
      have high := nearest_mono limit right (not_lt.mp rightSide)
      exact atLimits limit member (by omega) (by omega)
  · by_cases rightSide : right < limit
    · have low := nearest_mono right limit rightSide.le
      have high := nearest_mono limit left (not_lt.mp leftSide)
      exact atLimits limit member (by omega) (by omega)
    · exact iff_of_false leftSide rightSide

theorem formatted_nonneg (places : ℕ) (q : ℚ) (nonneg : 0 ≤ q) :
    formatted places (.finite q) = pointed places (nearest (q * 10 ^ places)).toNat := by
  simp only [formatted, abs_of_nonneg nonneg, if_neg (not_lt.mpr nonneg)]

theorem formatted_no_letter (places : ℕ) (q : ℚ) (nonneg : 0 ≤ q) : 'n' ∉ formatted places (.finite q) := by
  rw [formatted_nonneg places q nonneg]
  intro member
  rcases pointed_chars places _ 'n' member with digit | point
  · exact absurd digit (by decide)
  · exact absurd point (by decide)

theorem letter_text_ne (places : ℕ) (value : Extended) (q : ℚ) (nonneg : 0 ≤ q) (letter : 'n' ∈ formatted places value) :
    formatted places value ≠ formatted places (.finite q) := by
  intro same
  rw [same] at letter
  exact formatted_no_letter places q nonneg letter

theorem formatted_same_iff (places : ℕ) (left right : ℚ) (leftNonneg : 0 ≤ left) (rightNonneg : 0 ≤ right) :
    formatted places (.finite left) = formatted places (.finite right) ↔
      nearest (left * 10 ^ places) = nearest (right * 10 ^ places) := by
  rw [formatted_nonneg places left leftNonneg, formatted_nonneg places right rightNonneg]
  refine ⟨?_, fun same => by rw [same]⟩
  intro same
  have leftUnits := nearest_nonneg (left * 10 ^ places) (by positivity)
  have rightUnits := nearest_nonneg (right * 10 ^ places) (by positivity)
  have units := pointed_inj places _ _ same
  omega

end Pets.Printed
