import Mathlib.Data.Rat.Floor

set_option autoImplicit false

namespace Pets

-- Exact rationals with the values that a division by zero makes. Zero has no
-- sign here, so a quotient by zero takes the sign of its dividend.
inductive Extended where
  | finite (value : ℚ)
  | infinity (negative : Bool)
  | nan
deriving DecidableEq

namespace Extended

def neg : Extended → Extended
  | .finite a => .finite (-a)
  | .infinity negative => .infinity (!negative)
  | .nan => .nan

def add : Extended → Extended → Extended
  | .finite a, .finite b => .finite (a + b)
  | .infinity left, .infinity right => if left = right then .infinity left else .nan
  | .infinity negative, .finite _ => .infinity negative
  | .finite _, .infinity negative => .infinity negative
  | _, _ => .nan

def scaleInfinity (negative : Bool) (factor : ℚ) : Extended :=
  if factor = 0 then .nan else .infinity (negative ^^ decide (factor < 0))

def mul : Extended → Extended → Extended
  | .finite a, .finite b => .finite (a * b)
  | .infinity left, .infinity right => .infinity (left ^^ right)
  | .infinity negative, .finite b => scaleInfinity negative b
  | .finite a, .infinity negative => scaleInfinity negative a
  | _, _ => .nan

def div : Extended → Extended → Extended
  | .finite a, .finite b =>
      if b = 0 then if a = 0 then .nan else .infinity (decide (a < 0)) else .finite (a / b)
  | .infinity negative, .finite b => .infinity (negative ^^ decide (b < 0))
  | .finite _, .infinity _ => .finite 0
  | _, _ => .nan

instance (n : Nat) : OfNat Extended n := ⟨.finite n⟩
instance : Neg Extended := ⟨neg⟩
instance : Add Extended := ⟨add⟩
instance : Sub Extended := ⟨fun a b => add a (neg b)⟩
instance : Mul Extended := ⟨mul⟩
instance : Div Extended := ⟨div⟩

def floor : Extended → Extended
  | .finite a => .finite ⌊a⌋
  | other => other

-- The comparison of IEEE 754: nan differs from everything, itself included.
def equal : Extended → Extended → Bool
  | .finite a, .finite b => decide (a = b)
  | .infinity left, .infinity right => left == right
  | _, _ => false

def less : Extended → Extended → Bool
  | .finite a, .finite b => decide (a < b)
  | .finite _, .infinity negative => !negative
  | .infinity negative, .finite _ => negative
  | .infinity left, .infinity right => left && !right
  | _, _ => false

-- none is the trap of the conversion: no infinity, no nan, nothing out of range.
def toInt64 : Extended → Option Int
  | .finite a =>
      let truncated := if 0 ≤ a then ⌊a⌋ else ⌈a⌉
      if -2 ^ 63 ≤ truncated ∧ truncated < 2 ^ 63 then some truncated else none
  | _ => none

def finite? : Extended → Option ℚ
  | .finite a => some a
  | _ => none

def IsInfinite : Extended → Prop
  | .infinity _ => True
  | _ => False

def rounded (round : ℚ → Extended) : Extended → Extended
  | .finite a => round a
  | other => other

@[simp] theorem rounded_finite (a : Extended) : a.rounded .finite = a := by cases a <;> rfl

@[simp] theorem finite_add (a b : ℚ) : Extended.finite a + .finite b = .finite (a + b) := rfl

@[simp] theorem finite_sub (a b : ℚ) : Extended.finite a - .finite b = .finite (a - b) := by
  rw [sub_eq_add_neg]
  rfl

@[simp] theorem finite_mul (a b : ℚ) : Extended.finite a * .finite b = .finite (a * b) := rfl

theorem finite_div (a b : ℚ) (nonzero : b ≠ 0) : Extended.finite a / .finite b = .finite (a / b) := if_neg nonzero

theorem finite_div_zero (a : ℚ) (nonzero : a ≠ 0) : Extended.finite a / .finite 0 = .infinity (decide (a < 0)) := by
  change (if (0 : ℚ) = 0 then if a = 0 then Extended.nan else .infinity (decide (a < 0)) else .finite (a / 0)) = _
  rw [if_pos rfl, if_neg nonzero]

@[simp] theorem zero_div_zero : Extended.finite 0 / .finite 0 = .nan := by decide

@[simp] theorem nan_add (a : Extended) : Extended.nan + a = .nan := by cases a <;> rfl
@[simp] theorem nan_sub (a : Extended) : Extended.nan - a = .nan := by cases a <;> rfl
@[simp] theorem nan_mul (a : Extended) : Extended.nan * a = .nan := by cases a <;> rfl
@[simp] theorem nan_div (a : Extended) : Extended.nan / a = .nan := by cases a <;> rfl
@[simp] theorem finite_add_nan (a : ℚ) : Extended.finite a + .nan = .nan := rfl
@[simp] theorem finite_sub_nan (a : ℚ) : Extended.finite a - .nan = .nan := rfl
@[simp] theorem finite_mul_nan (a : ℚ) : Extended.finite a * .nan = .nan := rfl
@[simp] theorem finite_div_nan (a : ℚ) : Extended.finite a / .nan = .nan := rfl

theorem equal_floor_finite (a : ℚ) : equal (floor (.finite a)) (.finite a) = true ↔ ((⌊a⌋ : ℤ) : ℚ) = a := by
  simp [equal, floor]

theorem equal_floor_infinity (negative : Bool) :
    equal (floor (.infinity negative)) (.infinity negative) = true := by
  cases negative <;> rfl

theorem to_int64_integral (n : ℤ) :
    toInt64 (.finite n) = if -2 ^ 63 ≤ n ∧ n < 2 ^ 63 then some n else none := by
  have truncated : (if (0 : ℚ) ≤ n then ⌊(n : ℚ)⌋ else ⌈(n : ℚ)⌉) = n := by
    split
    · exact Int.floor_intCast n
    · exact Int.ceil_intCast n
  simp only [toInt64, truncated]

end Extended

end Pets
