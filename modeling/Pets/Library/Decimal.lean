import Mathlib.Data.Nat.Digits.Lemmas
import Mathlib.Data.Rat.Floor

set_option autoImplicit false

namespace Pets.Decimal

inductive Mark where
  | digit (value : Fin 10)
  | point
deriving DecidableEq

abbrev zero : Fin 10 := 0

def Mark.digit? : Mark → Option (Fin 10)
  | .digit value => some value
  | .point => none

def natural (digits : List (Fin 10)) : Nat := Nat.ofDigits 10 (digits.reverse.map Fin.val)

def digits (marks : List Mark) : List (Fin 10) := marks.filterMap Mark.digit?

-- The digits after the first point; a later point is passed over.
def fraction : List Mark → List (Fin 10)
  | [] => []
  | .digit _ :: rest => fraction rest
  | .point :: rest => digits rest

def points (marks : List Mark) : Nat := marks.count .point

def value (marks : List Mark) : ℚ := natural (digits marks) / 10 ^ (fraction marks).length

def read (marks : List Mark) : Option ℚ :=
  if points marks ≤ 1 ∧ digits marks ≠ [] then some (value marks) else none

def single : List Mark → List Mark
  | [] => []
  | .digit d :: rest => .digit d :: single rest
  | .point :: rest => .point :: (digits rest).map .digit

@[simp] theorem natural_nil : natural [] = 0 := rfl

theorem natural_append (a b : List (Fin 10)) : natural (a ++ b) = natural a * 10 ^ b.length + natural b := by
  simp only [natural, List.reverse_append, List.map_append, Nat.ofDigits_append, List.length_map, List.length_reverse]
  ring

theorem natural_singleton (d : Fin 10) : natural [d] = d.val := by
  simp [natural]

@[simp] theorem digits_nil : digits [] = [] := rfl

@[simp] theorem digits_digit (d : Fin 10) (rest : List Mark) : digits (.digit d :: rest) = d :: digits rest := rfl

@[simp] theorem digits_point (rest : List Mark) : digits (.point :: rest) = digits rest := rfl

@[simp] theorem digits_append (a b : List Mark) : digits (a ++ b) = digits a ++ digits b := List.filterMap_append

@[simp] theorem digits_map_digit (ds : List (Fin 10)) : digits (ds.map .digit) = ds := by
  induction ds with
  | nil => rfl
  | cons d rest ih => simp [ih]

theorem points_append (a b : List Mark) : points (a ++ b) = points a + points b := List.count_append

@[simp] theorem points_map_digit (ds : List (Fin 10)) : points (ds.map .digit) = 0 := by
  simp [points, List.count_eq_zero]

theorem fraction_of_no_point (marks : List Mark) (none : points marks = 0) : fraction marks = [] := by
  induction marks with
  | nil => rfl
  | cons mark rest ih =>
      cases mark with
      | digit d => exact ih (by simpa [points] using none)
      | point => simp [points] at none

theorem single_digits (marks : List Mark) : digits (single marks) = digits marks := by
  induction marks with
  | nil => rfl
  | cons mark rest ih =>
      cases mark with
      | digit d => simp [single, ih]
      | point => simp [single]

theorem single_fraction (marks : List Mark) : fraction (single marks) = fraction marks := by
  induction marks with
  | nil => rfl
  | cons mark rest ih =>
      cases mark with
      | digit d => simpa [single, fraction] using ih
      | point => simp [single, fraction]

theorem single_value (marks : List Mark) : value (single marks) = value marks := by
  rw [value, single_digits, single_fraction]
  rfl

theorem single_points (marks : List Mark) : points (single marks) = min 1 (points marks) := by
  induction marks with
  | nil => rfl
  | cons mark rest ih =>
      cases mark with
      | digit d => simpa [single, points] using ih
      | point =>
          have none := points_map_digit (digits rest)
          simp only [points] at none
          simp [single, points, none]

theorem single_snoc_digit (marks : List Mark) (d : Fin 10) :
    single (marks ++ [.digit d]) = single marks ++ [.digit d] := by
  induction marks with
  | nil => rfl
  | cons mark rest ih =>
      cases mark with
      | digit e => simp [single, ih]
      | point => simp [single]

theorem single_snoc_point (marks : List Mark) :
    single (marks ++ [.point]) = if points marks = 0 then single marks ++ [.point] else single marks := by
  induction marks with
  | nil => rfl
  | cons mark rest ih =>
      cases mark with
      | digit d =>
          have same : points (.digit d :: rest) = points rest := by simp [points]
          rw [same]
          by_cases none : points rest = 0
          · rw [if_pos none] at ih ⊢
            simp [single, ih]
          · rw [if_neg none] at ih ⊢
            simp [single, ih]
      | point => simp [single, points]

-- The fuel only has to exceed the number, since each step divides it by ten.
def decimalFrom : Nat → Nat → List (Fin 10)
  | 0, _ => []
  | fuel + 1, n => if n < 10 then [Fin.ofNat 10 n] else decimalFrom fuel (n / 10) ++ [Fin.ofNat 10 n]

def decimal (n : Nat) : List (Fin 10) := decimalFrom (n + 1) n

theorem natural_decimal_from (fuel n : Nat) (enough : n < fuel) : natural (decimalFrom fuel n) = n := by
  induction fuel generalizing n with
  | zero => omega
  | succ fuel ih =>
      by_cases small : n < 10
      · rw [decimalFrom, if_pos small, natural_singleton]
        exact Nat.mod_eq_of_lt small
      · rw [decimalFrom, if_neg small, natural_append, natural_singleton, ih (n / 10) (by omega)]
        simp only [List.length_singleton, pow_one, Fin.ofNat]
        omega

theorem natural_decimal (n : Nat) : natural (decimal n) = n := natural_decimal_from (n + 1) n (Nat.lt_succ_self n)

theorem decimal_nonempty (n : Nat) : decimal n ≠ [] := by
  rw [decimal, decimalFrom]
  split <;> simp

theorem read_digits (ds : List (Fin 10)) (nonempty : ds ≠ []) : read (ds.map .digit) = some (natural ds : ℚ) := by
  have none := points_map_digit ds
  rw [read, if_pos ⟨by omega, by simpa using nonempty⟩, value, fraction_of_no_point _ none]
  simp

end Pets.Decimal
