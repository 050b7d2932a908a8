import Pets.Calculator.ViewController

set_option autoImplicit false

namespace Pets.Calculator

open Pets.Decimal Pets.Transition

def HandsSettable (calculator : ViewController) (key : Press) : Prop :=
  ∀ method value, key = .calculate method → (handed unrounded calculator method).2 = some value → Settable value

def Operator.exact : Operator → ℚ → ℚ → ℚ
  | .divide, a, b => a / b
  | .multiply, a, b => a * b
  | .subtract, a, b => a - b
  | .add, a, b => a + b

-- Zero over zero is shown as nan; any other division by zero is lost.
def SafeOperands (operator : Operator) (a b : ℚ) : Prop :=
  if operator = .divide ∧ b = 0 then a = 0 else Representable (operator.exact a b)

def SafePress (calculator : ViewController) : Press → Prop
  | .number _ => True
  | .calculate method => ∀ shown, displayValue unrounded calculator = .finite shown →
      match method with
      | .ac => True
      | .plusMinus => Representable (-shown)
      | .percent => Representable (shown / 100)
      | .binary _ => Representable shown
      | .equals => ∀ first operator, waiting calculator.manager = some (.finite first, operator) →
          SafeOperands operator first shown

structure NoInfinity (calculator : ViewController) : Prop where
  display : ¬ (displayValue unrounded calculator).IsInfinite
  operand : ∀ first operator, waiting calculator.manager = some (first, operator) → ¬ first.IsInfinite

theorem launched_no_infinity : NoInfinity launched := by
  refine ⟨?_, ?_⟩
  · exact id
  · intro first operator pending
    cases pending

theorem apply_exact (operator : Operator) (a b : ℚ) (defined : ¬ (operator = .divide ∧ b = 0)) :
    operator.apply unrounded (.finite a) (.finite b) = .finite (operator.exact a b) := by
  cases operator with
  | divide =>
      rw [Operator.apply, Extended.rounded_finite]
      exact Extended.finite_div a b (fun zero => defined ⟨rfl, zero⟩)
  | multiply => exact Extended.finite_mul a b
  | subtract => exact Extended.finite_sub a b
  | add => exact Extended.finite_add a b

theorem apply_nan_left (operator : Operator) (b : Double) : operator.apply unrounded .nan b = .nan := by
  cases operator with
  | divide => exact congrArg (Extended.rounded unrounded) (Extended.nan_div b)
  | multiply => exact congrArg (Extended.rounded unrounded) (Extended.nan_mul b)
  | subtract => exact congrArg (Extended.rounded unrounded) (Extended.nan_sub b)
  | add => exact congrArg (Extended.rounded unrounded) (Extended.nan_add b)

theorem apply_nan_right (operator : Operator) (a : ℚ) : operator.apply unrounded (.finite a) .nan = .nan := by
  cases operator with
  | divide => exact congrArg (Extended.rounded unrounded) (Extended.finite_div_nan a)
  | multiply => exact congrArg (Extended.rounded unrounded) (Extended.finite_mul_nan a)
  | subtract => exact congrArg (Extended.rounded unrounded) (Extended.finite_sub_nan a)
  | add => exact congrArg (Extended.rounded unrounded) (Extended.finite_add_nan a)

theorem apply_settable_iff (operator : Operator) (a b : ℚ) :
    Settable (operator.apply unrounded (.finite a) (.finite b)) ↔ SafeOperands operator a b := by
  by_cases undefined : operator = .divide ∧ b = 0
  · rw [SafeOperands, if_pos undefined]
    obtain ⟨rfl, rfl⟩ := undefined
    by_cases zero : a = 0
    · have result : Operator.divide.apply unrounded (.finite a) (.finite 0) = .nan := by
        rw [zero]
        exact Extended.zero_div_zero
      rw [result]
      exact ⟨fun _ => zero, fun _ => settable_nan⟩
    · have result : Operator.divide.apply unrounded (.finite a) (.finite 0) = .infinity (decide (a < 0)) := by
        rw [Operator.apply, Extended.rounded_finite, Extended.finite_div_zero a zero]
      rw [result]
      exact ⟨fun settable => absurd settable (not_settable_infinity _), fun same => absurd same zero⟩
  · rw [SafeOperands, if_neg undefined, apply_exact operator a b undefined, settable_finite]

theorem plus_minus_finite (q : ℚ) : Extended.finite q * -1 = .finite (-q) := by
  change Extended.finite (q * -((1 : ℕ) : ℚ)) = _
  rw [Nat.cast_one, mul_neg_one]

theorem percent_finite (q : ℚ) : Extended.finite q / 100 = .finite (q / 100) := by
  change Extended.finite q / .finite ((100 : ℕ) : ℚ) = _
  rw [Extended.finite_div q _ (by norm_num)]
  norm_num

theorem zero_settable : Settable 0 := by
  change Settable (.finite ((0 : ℕ) : ℚ))
  rw [settable_finite, Nat.cast_zero]
  exact fun _ => by norm_num

theorem handed_ac (calculator : ViewController) : (handed unrounded calculator .ac).2 = some 0 := rfl

theorem handed_plus_minus (calculator : ViewController) :
    (handed unrounded calculator .plusMinus).2 = some (displayValue unrounded calculator * -1) :=
  congrArg some (Extended.rounded_finite _)

theorem handed_percent (calculator : ViewController) :
    (handed unrounded calculator .percent).2 = some (displayValue unrounded calculator / 100) :=
  congrArg some (Extended.rounded_finite _)

theorem handed_binary (calculator : ViewController) (operator : Operator) :
    (handed unrounded calculator (.binary operator)).2 = some (displayValue unrounded calculator) := rfl

theorem handed_equals (calculator : ViewController) :
    (handed unrounded calculator .equals).2 = some (match waiting calculator.manager with
      | some (first, operator) => operator.apply unrounded first (displayValue unrounded calculator)
      | none => 0) :=
  calculate_waiting unrounded (setNumber calculator.manager (displayValue unrounded calculator))
    (displayValue unrounded calculator)

theorem hands_settable_of (calculator : ViewController) (method : Method) (value : Double)
    (result : (handed unrounded calculator method).2 = some value) :
    HandsSettable calculator (.calculate method) ↔ Settable value := by
  constructor
  · intro holds
    exact holds method value rfl result
  · intro settable other found same found'
    cases same
    have equal : value = found := Option.some.inj (result.symm.trans found')
    exact equal ▸ settable

theorem equals_settable_iff (calculator : ViewController) (inv : NoInfinity calculator) :
    HandsSettable calculator (.calculate .equals) ↔ SafePress calculator (.calculate .equals) := by
  rw [hands_settable_of calculator .equals _ (handed_equals calculator)]
  simp only [SafePress]
  cases pending : waiting calculator.manager with
  | none => exact ⟨fun _ shown _ first operator impossible => (by cases impossible), fun _ => zero_settable⟩
  | some operation =>
      obtain ⟨first, operator⟩ := operation
      have operand := inv.operand first operator pending
      cases first with
      | infinity negative => exact absurd trivial operand
      | nan =>
          simp only [apply_nan_left]
          exact ⟨fun _ shown _ other operator' impossible => (by cases impossible), fun _ => settable_nan⟩
      | finite a =>
          cases shown : displayValue unrounded calculator with
          | infinity negative => exact absurd (shown ▸ trivial) inv.display
          | nan =>
              simp only [apply_nan_right]
              exact ⟨fun _ q impossible => (by cases impossible), fun _ => settable_nan⟩
          | finite b =>
              rw [apply_settable_iff]
              constructor
              · intro safe q same other operator' found
                cases same
                cases found
                exact safe
              · intro safe
                exact safe b rfl a operator rfl

theorem unary_settable_iff (calculator : ViewController) (method : Method) (image : Double → Double) (exact : ℚ → ℚ)
    (inv : NoInfinity calculator) (result : (handed unrounded calculator method).2 =
      some (image (displayValue unrounded calculator)))
    (onNan : image .nan = .nan) (onFinite : ∀ q, image (.finite q) = .finite (exact q)) :
    HandsSettable calculator (.calculate method) ↔
      ∀ shown, displayValue unrounded calculator = .finite shown → Representable (exact shown) := by
  rw [hands_settable_of calculator method _ result]
  cases shown : displayValue unrounded calculator with
  | infinity negative => exact absurd (shown ▸ trivial) inv.display
  | nan =>
      rw [onNan]
      exact ⟨fun _ q impossible => (by cases impossible), fun _ => settable_nan⟩
  | finite q =>
      rw [onFinite, settable_finite]
      simp only [Extended.finite.injEq, forall_eq']

theorem hands_settable_iff (calculator : ViewController) (key : Press) (inv : NoInfinity calculator) :
    HandsSettable calculator key ↔ SafePress calculator key := by
  cases key with
  | number numberValue => exact ⟨fun _ => trivial, fun _ method value impossible => (by cases impossible)⟩
  | calculate method =>
      cases method with
      | ac =>
          have zero := (hands_settable_of calculator .ac 0 (handed_ac calculator)).mpr zero_settable
          exact ⟨fun _ _ _ => trivial, fun _ => zero⟩
      | plusMinus =>
          exact unary_settable_iff calculator .plusMinus (· * -1) (fun q => -q) inv (handed_plus_minus calculator)
            (Extended.nan_mul _) plus_minus_finite
      | percent =>
          exact unary_settable_iff calculator .percent (· / 100) (fun q => q / 100) inv (handed_percent calculator)
            (Extended.nan_div _) percent_finite
      | binary operator =>
          exact unary_settable_iff calculator (.binary operator) id id inv (handed_binary calculator operator)
            rfl (fun _ => rfl)
      | equals => exact equals_settable_iff calculator inv

theorem typed_not_infinite (label : Label) (key : Mark) (value : Double)
    (read : doubleOfText unrounded (label ++ [.mark key]) = some value) : ¬ value.IsInfinite := by
  unfold doubleOfText at read
  split at read
  · rename_i text
    cases label with
    | nil => cases text
    | cons glyph rest => simp at text
  · obtain ⟨q, _, rfl⟩ := Option.map_eq_some_iff.mp read
    exact id
  · obtain ⟨q, _, rfl⟩ := Option.map_eq_some_iff.mp read
    exact id

theorem number_no_infinity (calculator : ViewController) (key : Mark) (inv : NoInfinity calculator) :
    NoInfinity (numberPressed unrounded calculator key) := by
  have shown : ∀ label, ¬ ((doubleOfText unrounded (label ++ [.mark key])).getD 0).IsInfinite := by
    intro label
    cases read : doubleOfText unrounded (label ++ [.mark key]) with
    | none => exact id
    | some value => exact typed_not_infinite label key value read
  by_cases finished : calculator.isFinishedTypingNumber = true
  · rw [numberPressed, if_pos finished]
    exact ⟨shown [], inv.operand⟩
  · rw [numberPressed, if_neg finished]
    by_cases refused : key = .point ∧
      ¬ (displayValue unrounded calculator).floor.equal (displayValue unrounded calculator) = true
    · rw [if_pos refused]
      exact inv
    · rw [if_neg refused]
      exact ⟨shown calculator.displayLabel, inv.operand⟩

theorem handed_waiting (calculator : ViewController) (method : Method) (first : Double) (operator : Operator)
    (pending : waiting (handed unrounded calculator method).1 = some (first, operator)) :
    waiting calculator.manager = some (first, operator) ∨ first = displayValue unrounded calculator := by
  cases method with
  | ac => cases pending
  | plusMinus => exact Or.inl pending
  | percent => exact Or.inl pending
  | equals => exact Or.inl pending
  | binary chosen =>
      cases pending
      exact Or.inr rfl

theorem calculate_pressed_cases (calculator : ViewController) (method : Method) (value : Double)
    (result : (handed unrounded calculator method).2 = some value) :
    (Settable value ∧ ∃ label, calculatePressed unrounded calculator method =
      some ⟨label, true, (handed unrounded calculator method).1⟩ ∧
        doubleOfText unrounded label = some value ∧ ¬ value.IsInfinite) ∨
      (¬ Settable value ∧ calculatePressed unrounded calculator method = none) := by
  rw [calculate_pressed_set unrounded calculator method value result]
  exact set_display_value_cases _ value

theorem calculate_pressed_some (calculator next : ViewController) (method : Method)
    (moved : calculatePressed unrounded calculator method = some next) :
    ∃ value label, (handed unrounded calculator method).2 = some value ∧
      next = ⟨label, true, (handed unrounded calculator method).1⟩ ∧
      doubleOfText unrounded label = some value ∧ ¬ value.IsInfinite := by
  obtain ⟨value, result⟩ := handed_some unrounded calculator method
  rcases calculate_pressed_cases calculator method value result with ⟨_, label, shown, read, finite⟩ | ⟨_, trapped⟩
  · exact ⟨value, label, result, Option.some.inj (moved.symm.trans shown), read, finite⟩
  · exact absurd (moved.symm.trans trapped) (Option.some_ne_none next)

theorem press_no_infinity (calculator next : ViewController) (key : Press) (inv : NoInfinity calculator)
    (moved : press unrounded calculator key = some next) : NoInfinity next := by
  cases key with
  | number numberValue =>
      cases moved
      exact number_no_infinity calculator numberValue inv
  | calculate method =>
      obtain ⟨value, label, _, rfl, read, finite⟩ := calculate_pressed_some calculator next method moved
      refine ⟨?_, ?_⟩
      · change ¬ ((doubleOfText unrounded label).getD 0).IsInfinite
        rw [read]
        exact finite
      · intro first operator pending
        rcases handed_waiting calculator method first operator pending with earlier | same
        · exact inv.operand first operator earlier
        · exact same ▸ inv.display

theorem press_survives_iff (calculator : ViewController) (key : Press) :
    (press unrounded calculator key).isSome ↔ HandsSettable calculator key := by
  cases key with
  | number numberValue => exact ⟨fun _ method value impossible => (by cases impossible), fun _ => rfl⟩
  | calculate method =>
      obtain ⟨value, result⟩ := handed_some unrounded calculator method
      rw [hands_settable_of calculator method value result]
      change (calculatePressed unrounded calculator method).isSome ↔ _
      rcases calculate_pressed_cases calculator method value result
        with ⟨settable, label, shown, _⟩ | ⟨unsettable, trapped⟩
      · rw [shown]
        exact ⟨fun _ => settable, fun _ => rfl⟩
      · rw [trapped]
        exact ⟨fun impossible => absurd impossible (by simp), fun settable => absurd settable unsettable⟩

theorem run_never_traps_iff (keys : List Press) :
    (Along (press unrounded) launched (fun _ => HandsSettable) keys ↔
      Along (press unrounded) launched (fun _ => SafePress) keys) ∧
      ((run (press unrounded) launched keys).isSome ↔ Along (press unrounded) launched (fun _ => SafePress) keys) := by
  have keep : ∀ (before : List Press) calculator key next, NoInfinity calculator →
    press unrounded calculator key = some next →
      NoInfinity next := fun _ calculator key next inv moved => press_no_infinity calculator next key inv moved
  have safe : Along (press unrounded) launched (fun _ => HandsSettable) keys ↔
    Along (press unrounded) launched (fun _ => SafePress) keys := by
    apply along_congr (press unrounded) launched (fun _ => NoInfinity) launched_no_infinity keep
    exact fun _ calculator key inv => hands_settable_iff calculator key inv
  refine ⟨safe, ?_⟩
  rw [run_survives_iff, ← safe]
  apply along_congr (press unrounded) launched (fun _ => NoInfinity) launched_no_infinity keep
  exact fun _ calculator key _ => press_survives_iff calculator key

def digitKey (digit : Fin 10) : Press := .number (.digit digit)

theorem one_over_zero_traps :
    ¬ Along (press unrounded) launched (fun _ => HandsSettable)
        [digitKey 1, .calculate (.binary .divide), digitKey 0, .calculate .equals] ∧
      run (press unrounded) launched [digitKey 1, .calculate (.binary .divide), digitKey 0, .calculate .equals] =
        none := by
  have ran : run (press unrounded) launched [digitKey 1, .calculate (.binary .divide), digitKey 0] =
      some ⟨[.mark (.digit 0)], false, ⟨some (.finite 1), some (.finite 1, some .divide)⟩⟩ := by decide +kernel
  refine ⟨?_, by decide +kernel⟩
  intro holds
  have settable := holds [digitKey 1, .calculate (.binary .divide), digitKey 0] (.calculate .equals) [] _ rfl ran
  exact not_settable_infinity false (settable .equals (.infinity false) rfl (by decide +kernel))

end Pets.Calculator
