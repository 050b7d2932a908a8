import Pets.Calculator.Safety

set_option autoImplicit false

namespace Pets.Calculator

open Pets.Decimal Pets.Transition

abbrev Numeral := { typed : List (Fin 10) // typed ≠ [] }

def Numeral.value (numeral : Numeral) : ℚ := natural numeral.1

def typing (numeral : Numeral) : List Press := numeral.1.map digitKey

abbrev Link := Operator × Numeral

def linking (link : Link) : List Press := .calculate (.binary link.1) :: typing link.2

-- x1 o1 x2 ... with its last operator and operand kept apart, so there are at least two.
structure Chain where
  first : Numeral
  middle : List Link
  last : Link

def Chain.presses (chain : Chain) : List Press :=
  typing chain.first ++ (chain.middle ++ [chain.last]).flatMap linking

def evaluated (start : ℚ) (links : List Link) : ℚ :=
  links.foldl (fun total link => link.1.exact total link.2.value) start

def Chain.leftToRight (chain : Chain) : ℚ := evaluated chain.first.value (chain.middle ++ [chain.last])

def Chain.Defined (chain : Chain) : Prop :=
  ∀ link ∈ chain.middle ++ [chain.last], link.1 = .divide → link.2.value ≠ 0

def operands (first : Numeral) (links : List Link) : List Numeral := first :: links.map Prod.snd

def entered (first : Numeral) : List Link → Numeral
  | [] => first
  | link :: rest => entered link.2 rest

def Fits (numeral : Numeral) : Prop := numeral.value < 2 ^ 63

def FreshStart (start : ViewController) : Prop :=
  start = launched ∨ ∃ before calculator, run (press unrounded) launched before = some calculator ∧
    press unrounded calculator (.calculate .ac) = some start

def HandsResult (start : ViewController) (chain : Chain) : Prop :=
  ∃ calculator, run (press unrounded) start chain.presses = some calculator ∧
    (handed unrounded calculator .equals).2 = some (.finite chain.leftToRight)

def entering (numeral : Numeral) (manager : CalculatorManager) : ViewController :=
  ⟨(numeral.1.map Mark.digit).map Glyph.mark, false, manager⟩

def holding (numeral : Numeral) (operator : Operator) : CalculatorManager :=
  ⟨some (.finite numeral.value), some (.finite numeral.value, some operator)⟩

theorem digits_appended (typed more : List (Fin 10)) (manager : CalculatorManager) :
    run (press unrounded) ⟨(typed.map Mark.digit).map Glyph.mark, false, manager⟩ (more.map digitKey) =
      some ⟨((typed ++ more).map Mark.digit).map Glyph.mark, false, manager⟩ := by
  induction more generalizing typed with
  | nil => simp [run]
  | cons digit rest ih =>
      have appended : press unrounded ⟨(typed.map Mark.digit).map Glyph.mark, false, manager⟩ (digitKey digit) =
          some ⟨((typed ++ [digit]).map Mark.digit).map Glyph.mark, false, manager⟩ := by
        simp [press, digitKey, numberPressed]
      rw [List.map_cons, run, appended, Option.bind_some, ih, List.append_assoc]
      rfl

theorem typing_run (calculator : ViewController) (finished : calculator.isFinishedTypingNumber = true)
    (numeral : Numeral) : run (press unrounded) calculator (typing numeral) =
      some (entering numeral calculator.manager) := by
  obtain ⟨typed, nonempty⟩ := numeral
  cases typed with
  | nil => exact absurd rfl nonempty
  | cons digit rest =>
      have replaced : press unrounded calculator (digitKey digit) =
          some ⟨([digit].map Mark.digit).map Glyph.mark, false, calculator.manager⟩ := by
        simp [press, digitKey, numberPressed, finished]
      change (press unrounded calculator (digitKey digit)).bind
        (fun next => run (press unrounded) next (rest.map digitKey)) = _
      rw [replaced, Option.bind_some, digits_appended]
      rfl

theorem entering_display (numeral : Numeral) (manager : CalculatorManager) :
    displayValue unrounded (entering numeral manager) = .finite numeral.value := by
  change (doubleOfText unrounded ((numeral.1.map Mark.digit).map Glyph.mark)).getD 0 = _
  rw [double_of_marks, read_digits numeral.1 numeral.2]
  rfl

theorem representable_numeral (numeral : Numeral) : Representable numeral.value ↔ Fits numeral := by
  have nonneg : (0 : ℚ) ≤ numeral.value := Nat.cast_nonneg _
  have integral : ((⌊numeral.value⌋ : ℤ) : ℚ) = numeral.value := by simp [Numeral.value]
  constructor
  · intro representable
    exact (representable integral).2
  · intro fits _
    exact ⟨by linarith, fits⟩

instance (numeral : Numeral) : Decidable (Fits numeral) := inferInstanceAs (Decidable (numeral.value < 2 ^ 63))

theorem linking_run (numeral : Numeral) (manager : CalculatorManager) (link : Link) :
    run (press unrounded) (entering numeral manager) (linking link) =
      if Fits numeral then some (entering link.2 (holding numeral link.1)) else none := by
  have shown := entering_display numeral manager
  have result := handed_binary (entering numeral manager) link.1
  have kept : (handed unrounded (entering numeral manager) (.binary link.1)).1 = holding numeral link.1 := by
    simp [handed, manage, setNumber, holding, shown]
  rw [shown] at result
  change (calculatePressed unrounded (entering numeral manager) (.binary link.1)).bind
    (fun next => run (press unrounded) next (typing link.2)) = _
  rcases calculate_pressed_cases _ _ _ result with ⟨settable, label, pressed, _⟩ | ⟨unsettable, trapped⟩
  · rw [settable_finite, representable_numeral] at settable
    rw [if_pos settable, pressed, Option.bind_some, typing_run _ rfl, kept]
  · rw [settable_finite, representable_numeral] at unsettable
    rw [if_neg unsettable, trapped]
    rfl

theorem links_run (numeral : Numeral) (manager : CalculatorManager) (links : List Link) (last : Link) :
    run (press unrounded) (entering numeral manager) ((links ++ [last]).flatMap linking) =
      if ∀ operand ∈ operands numeral links, Fits operand then
        some (entering last.2 (holding (entered numeral links) last.1)) else none := by
  induction links generalizing numeral manager with
  | nil =>
      rw [List.nil_append, List.flatMap_singleton, linking_run]
      simp [operands, entered]
  | cons link rest ih =>
      rw [List.cons_append, List.flatMap_cons, run_append, linking_run]
      have split : (∀ operand ∈ operands numeral (link :: rest), Fits operand) ↔
          Fits numeral ∧ ∀ operand ∈ operands link.2 rest, Fits operand := by simp [operands]
      by_cases fits : Fits numeral
      · rw [if_pos fits, Option.bind_some, ih]
        simp only [split, fits, true_and, entered]
      · rw [if_neg fits, if_neg (fun all => fits (split.mp all).1)]
        rfl

theorem fresh_start_finished (start : ViewController) (fresh : FreshStart start) :
    start.isFinishedTypingNumber = true := by
  rcases fresh with rfl | ⟨before, calculator, _, pressed⟩
  · rfl
  · obtain ⟨_, label, _, rfl, _⟩ := calculate_pressed_some calculator start .ac pressed
    rfl

theorem exact_eq_iff (operator : Operator) (a b c : ℚ) (defined : operator = .divide → c ≠ 0) :
    operator.exact b c = operator.exact a c ↔ a = b ∨ (operator = .multiply ∧ c = 0) := by
  cases operator with
  | divide => simp [Operator.exact, div_left_inj' (defined rfl), eq_comm]
  | multiply => simp [Operator.exact, mul_eq_mul_right_iff, eq_comm]
  | subtract => simp [Operator.exact, eq_comm]
  | add => simp [Operator.exact, eq_comm]

theorem chain_result_iff (start : ViewController) (fresh : FreshStart start) (chain : Chain) (defined : chain.Defined) :
    HandsResult start chain ↔
      (∀ operand ∈ operands chain.first chain.middle, Fits operand) ∧
        (evaluated chain.first.value chain.middle = (entered chain.first chain.middle).value ∨
          (chain.last.1 = .multiply ∧ chain.last.2.value = 0)) := by
  have lastDefined : chain.last.1 = .divide → chain.last.2.value ≠ 0 := defined chain.last (by simp)
  have total : chain.leftToRight =
      chain.last.1.exact (evaluated chain.first.value chain.middle) chain.last.2.value := by
    simp [Chain.leftToRight, evaluated]
  have ran : run (press unrounded) start chain.presses =
    if ∀ operand ∈ operands chain.first chain.middle, Fits operand then
      some (entering chain.last.2 (holding (entered chain.first chain.middle) chain.last.1)) else none := by
    rw [Chain.presses, run_append, typing_run start (fresh_start_finished start fresh), Option.bind_some, links_run]
  have result : ∀ numeral, (handed unrounded (entering chain.last.2 (holding numeral chain.last.1)) .equals).2 =
      some (.finite (chain.last.1.exact numeral.value chain.last.2.value)) := by
    intro numeral
    rw [handed_equals, entering_display]
    exact congrArg some (apply_exact chain.last.1 numeral.value chain.last.2.value
      (fun undefined => lastDefined undefined.1 undefined.2))
  rw [HandsResult, ran]
  by_cases fit : ∀ operand ∈ operands chain.first chain.middle, Fits operand
  · rw [if_pos fit]
    simp only [Option.some.injEq, exists_eq_left', result, Extended.finite.injEq, total,
      exact_eq_iff chain.last.1 _ _ _ lastDefined]
    exact ⟨fun same => ⟨fit, same⟩, fun both => both.2⟩
  · rw [if_neg fit]
    constructor
    · intro ⟨calculator, impossible, _⟩
      cases impossible
    · exact fun both => absurd both.1 fit

def oneDigit (digit : Fin 10) : Numeral := ⟨[digit], by simp⟩

-- 8 ÷ 4 - 2 = shows 2 and not 0, and the theorem says so of its operands.
theorem chain_result_eight_four_two :
    HandsResult launched ⟨oneDigit 8, [(.divide, oneDigit 4)], (.subtract, oneDigit 2)⟩ ↔
      (∀ operand ∈ operands (oneDigit 8) [(.divide, oneDigit 4)], Fits operand) ∧
        (evaluated (oneDigit 8).value [(.divide, oneDigit 4)] = (entered (oneDigit 8) [(.divide, oneDigit 4)]).value ∨
          (Operator.subtract = .multiply ∧ (oneDigit 2).value = 0)) :=
  chain_result_iff launched (Or.inl rfl) ⟨oneDigit 8, [(.divide, oneDigit 4)], (.subtract, oneDigit 2)⟩ (by
    intro link member divides
    have four : link = (.divide, oneDigit 4) ∨ link = (.subtract, oneDigit 2) := by simpa using member
    rcases four with rfl | rfl
    · decide
    · cases divides)

-- 1 + 2 + 3 = hands 5 to the display.
theorem one_two_three_loses_one :
    ¬ HandsResult launched ⟨oneDigit 1, [(.add, oneDigit 2)], (.add, oneDigit 3)⟩ := by
  intro ⟨calculator, ran, result⟩
  have reached : run (press unrounded) launched (Chain.presses ⟨oneDigit 1, [(.add, oneDigit 2)], (.add, oneDigit 3)⟩) =
      some (entering (oneDigit 3) (holding (oneDigit 2) .add)) := by decide +kernel
  have same := Option.some.inj (ran.symm.trans reached)
  rw [same] at result
  exact absurd result (by decide +kernel)

end Pets.Calculator
