import Pets.Library.Decimal
import Pets.Library.Lists
import Pets.Library.Transition
import Pets.Calculator.CalculatorManager

set_option autoImplicit false

namespace Pets.Calculator

open Pets.Decimal

/- The label text is a list of glyphs. The text String(newValue) makes of a fractional
   value is one glyph that holds the value. Swift prints a Double so that it reads back
   as the same Double, and only this is used of the glyph. -/
inductive Glyph where
  | mark (key : Mark)
  | minus
  | space
  | double (value : Double)
deriving DecidableEq

abbrev Label := List Glyph

def Glyph.mark? : Glyph → Option Mark
  | .mark key => some key
  | _ => none

def markedValue (label : Label) : Option ℚ := (label.mapM Glyph.mark?).bind Decimal.read

def textOfInt (n : Int) : Label :=
  (if n < 0 then [.minus] else []) ++ (decimal n.natAbs).map fun digit => .mark (.digit digit)

structure ViewController where
  displayLabel : Label
  isFinishedTypingNumber : Bool
  manager : CalculatorManager
deriving DecidableEq

-- The trap is that of Int(newValue).
def setDisplayValue (calculator : ViewController) (newValue : Double) : Option ViewController :=
  if newValue.floor.equal newValue then
    newValue.toInt64.map fun n => { calculator with displayLabel := textOfInt n }
  else some { calculator with displayLabel := [.double newValue] }

inductive Press where
  | number (numberValue : Mark)
  | calculate (method : Method)
deriving DecidableEq

def launched : ViewController := ⟨[.space, .mark (.digit zero), .space, .space], true, ⟨none, none⟩⟩

section Rounded

variable (round : ℚ → Double)

def doubleOfText : Label → Option Double
  | [.double value] => some value
  | .minus :: rest => (markedValue rest).map fun value => round (-value)
  | label => (markedValue label).map round

def displayValue (calculator : ViewController) : Double := (doubleOfText round calculator.displayLabel).getD 0

def handed (calculator : ViewController) (method : Method) : CalculatorManager × Option Double :=
  manage round (setNumber calculator.manager (displayValue round calculator)) method

def calculatePressed (calculator : ViewController) (method : Method) : Option ViewController :=
  let result := handed round calculator method
  let finished := { calculator with isFinishedTypingNumber := true, manager := result.1 }
  match result.2 with
  | some value => setDisplayValue finished value
  | none => some finished

def numberPressed (calculator : ViewController) (numberValue : Mark) : ViewController :=
  if calculator.isFinishedTypingNumber then
    { calculator with displayLabel := [.mark numberValue], isFinishedTypingNumber := false }
  else if numberValue = .point ∧ ¬ (displayValue round calculator).floor.equal (displayValue round calculator) then
    calculator
  else { calculator with displayLabel := calculator.displayLabel ++ [.mark numberValue] }

def press (calculator : ViewController) : Press → Option ViewController
  | .number numberValue => some (numberPressed round calculator numberValue)
  | .calculate method => calculatePressed round calculator method

theorem handed_some (calculator : ViewController) (method : Method) :
    ∃ value, (handed round calculator method).2 = some value := by
  cases method with
  | ac => exact ⟨_, rfl⟩
  | plusMinus => exact ⟨_, rfl⟩
  | percent => exact ⟨_, rfl⟩
  | binary operator => exact ⟨_, rfl⟩
  | equals => exact ⟨_, calculate_waiting round _ _⟩

theorem calculate_pressed_set (calculator : ViewController) (method : Method) (value : Double)
    (result : (handed round calculator method).2 = some value) :
    calculatePressed round calculator method =
      setDisplayValue ⟨calculator.displayLabel, true, (handed round calculator method).1⟩ value := by
  simp only [calculatePressed, result]

end Rounded

theorem set_display_value_finished (calculator next : ViewController) (value : Double)
    (shown : setDisplayValue calculator value = some next) :
    next.isFinishedTypingNumber = calculator.isFinishedTypingNumber := by
  by_cases whole : value.floor.equal value = true
  · rw [setDisplayValue, if_pos whole] at shown
    obtain ⟨n, _, rfl⟩ := Option.map_eq_some_iff.mp shown
    rfl
  · rw [setDisplayValue, if_neg whole] at shown
    cases shown
    rfl

theorem mapM_marks (keys : List Mark) : (keys.map Glyph.mark).mapM Glyph.mark? = some keys :=
  Lists.mapM_map_some Glyph.mark Glyph.mark? (fun _ => rfl) keys

theorem marked_value_marks (keys : List Mark) : markedValue (keys.map Glyph.mark) = Decimal.read keys := by
  rw [markedValue, mapM_marks]
  rfl

theorem double_of_marks (round : ℚ → Double) (keys : List Mark) :
    doubleOfText round (keys.map Glyph.mark) = (Decimal.read keys).map round := by
  cases keys with
  | nil => rfl
  | cons key rest =>
      have same : doubleOfText round ((key :: rest).map Glyph.mark) =
        (markedValue ((key :: rest).map .mark)).map round := by
        cases rest <;> rfl
      rw [same, marked_value_marks]

theorem double_of_int (n : Int) : doubleOfText unrounded (textOfInt n) = some (.finite n) := by
  have digits := read_digits (decimal n.natAbs) (decimal_nonempty n.natAbs)
  rw [natural_decimal] at digits
  have marked := marked_value_marks ((decimal n.natAbs).map .digit)
  rw [List.map_map] at marked
  by_cases negative : n < 0
  · have size : ((n.natAbs : ℕ) : ℚ) = -(n : ℚ) := by
      rw [Nat.cast_natAbs, abs_of_neg negative, Int.cast_neg]
    change doubleOfText unrounded ((if n < 0 then [.minus] else []) ++ _) = _
    rw [if_pos negative]
    change (markedValue ((decimal n.natAbs).map (Glyph.mark ∘ Mark.digit))).map _ = _
    rw [marked, digits, Option.map_some, size, neg_neg]
  · have size : ((n.natAbs : ℕ) : ℚ) = (n : ℚ) := by
      rw [Nat.cast_natAbs, abs_of_nonneg (not_lt.mp negative)]
    have text : textOfInt n = ((decimal n.natAbs).map Mark.digit).map Glyph.mark := by
      rw [textOfInt, if_neg negative, List.map_map]
      rfl
    rw [text, double_of_marks, digits, Option.map_some, size]

-- What the setter asks of a value: if it is its own floor it converts to Int.
def Settable (value : Double) : Prop :=
  value.floor.equal value = true → ∃ q : ℚ, value = .finite q ∧ -2 ^ 63 ≤ q ∧ q < 2 ^ 63

def Representable (q : ℚ) : Prop := ((⌊q⌋ : ℤ) : ℚ) = q → -2 ^ 63 ≤ q ∧ q < 2 ^ 63

theorem settable_finite (q : ℚ) : Settable (.finite q) ↔ Representable q := by
  simp only [Settable, Representable, Extended.equal_floor_finite, Extended.finite.injEq, exists_eq_left']

theorem settable_nan : Settable .nan := by
  intro impossible
  cases impossible

theorem not_settable_infinity (negative : Bool) : ¬ Settable (.infinity negative) := by
  intro settable
  obtain ⟨q, impossible, _⟩ := settable (Extended.equal_floor_infinity negative)
  cases impossible

theorem int64_range_cast (n : ℤ) : (-2 ^ 63 ≤ n ∧ n < 2 ^ 63) ↔ (-2 ^ 63 ≤ (n : ℚ) ∧ (n : ℚ) < 2 ^ 63) := by
  apply and_congr
  · exact_mod_cast Iff.rfl
  · exact_mod_cast Iff.rfl

theorem set_display_value_cases (calculator : ViewController) (value : Double) :
    (Settable value ∧ ∃ label, setDisplayValue calculator value = some { calculator with displayLabel := label } ∧
        doubleOfText unrounded label = some value ∧ ¬ value.IsInfinite) ∨
      (¬ Settable value ∧ setDisplayValue calculator value = none) := by
  cases value with
  | nan => exact Or.inl ⟨settable_nan, [.double .nan], rfl, rfl, id⟩
  | infinity negative =>
      refine Or.inr ⟨not_settable_infinity negative, ?_⟩
      rw [setDisplayValue, if_pos (Extended.equal_floor_infinity negative)]
      rfl
  | finite q =>
      rw [settable_finite, setDisplayValue]
      by_cases integral : ((⌊q⌋ : ℤ) : ℚ) = q
      · rw [if_pos ((Extended.equal_floor_finite q).mpr integral)]
        have exact := Extended.to_int64_integral ⌊q⌋
        rw [integral] at exact
        have range := int64_range_cast ⌊q⌋
        rw [integral] at range
        by_cases fits : -2 ^ 63 ≤ ⌊q⌋ ∧ ⌊q⌋ < 2 ^ 63
        · rw [if_pos fits] at exact
          refine Or.inl ⟨fun _ => range.mp fits, textOfInt ⌊q⌋, by rw [exact]; rfl, ?_, id⟩
          rw [double_of_int, integral]
        · rw [if_neg fits] at exact
          exact Or.inr ⟨fun settable => fits (range.mpr (settable integral)), by rw [exact]; rfl⟩
      · have fractional : ¬ (Extended.finite q).floor.equal (.finite q) = true :=
          fun same => integral ((Extended.equal_floor_finite q).mp same)
        rw [if_neg fractional]
        exact Or.inl ⟨fun whole => absurd whole integral, [.double (.finite q)], rfl, rfl, id⟩

end Pets.Calculator
