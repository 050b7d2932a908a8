import Pets.Library.Lists
import Pets.Tipsy.CalculateViewController

set_option autoImplicit false

namespace Pets.Tipsy

open Pets.Decimal Pets.Lists Pets.Printed Pets.Transition

inductive Separator where
  | dot
  | comma
deriving DecidableEq

def Separator.char : Separator → Char
  | .dot => '.'
  | .comma => ','

-- A non-empty digit string with at most one separator, at any place of it.
structure Numeral where
  marks : List Mark
  nonempty : digits marks ≠ []
  one : points marks ≤ 1

def Numeral.value (numeral : Numeral) : ℚ := Decimal.value numeral.marks

def typedMark (separator : Separator) : Mark → Char
  | .digit value => Nat.digitChar value
  | .point => separator.char

def typed (separator : Separator) (numeral : Numeral) : String :=
  String.ofList (numeral.marks.map (typedMark separator))

structure Entered (separator : Separator) (numeral : Numeral) (tip : Tip) (split : Split)
    (controller : CalculateViewController) : Prop where
  reached : ∃ events, run step launched events = some controller ∧ (chosenIn events).tip = tip ∧
    (chosenIn events).split = split ∧ (chosenIn events).bill = typed separator numeral

def BillUsed (numeral : Numeral) (tip : Tip) (split : Split) (controller : CalculateViewController) : Prop :=
  ∃ next, calculatePressed controller = some next ∧
    next.result = some (.finite ((numeral.value * (1 + tip.rate)) / split.val))

theorem mark_of_digit (value : Fin 10) : mark? (Nat.digitChar value) = some (.digit value) := by
  revert value
  decide

theorem mark_typed_dot (mark : Mark) : mark? (typedMark .dot mark) = some mark := by
  cases mark with
  | digit value => exact mark_of_digit value
  | point => rfl

theorem float_marks (text : String) (marks : List Mark) (read : text.toList.mapM mark? = some marks) :
    float text = Decimal.read marks := by
  rw [float, read]
  rfl

theorem float_dot (numeral : Numeral) : float (typed .dot numeral) = some numeral.value := by
  rw [float_marks _ numeral.marks, Decimal.read, if_pos ⟨numeral.one, numeral.nonempty⟩]
  · rfl
  · rw [typed, String.toList_ofList]
    exact mapM_map_some _ _ mark_typed_dot numeral.marks

theorem typed_whole (separator : Separator) (numeral : Numeral) (whole : .point ∉ numeral.marks) :
    typed separator numeral = typed .dot numeral := by
  rw [typed, typed]
  congr 1
  apply List.map_congr_left
  intro mark member
  cases mark with
  | digit value => rfl
  | point => exact absurd member whole

theorem float_comma (numeral : Numeral) (separated : .point ∈ numeral.marks) : float (typed .comma numeral) = none := by
  have comma : ',' ∈ (typed .comma numeral).toList := by
    rw [typed, String.toList_ofList]
    exact List.mem_map.mpr ⟨.point, separated, rfl⟩
  rw [float, mapM_none mark? _ ',' comma rfl]
  rfl

theorem bill_read (separator : Separator) (numeral : Numeral) :
    (float (typed separator numeral)).getD 0 = numeral.value ∨
      (separator = .comma ∧ .point ∈ numeral.marks ∧ (float (typed separator numeral)).getD 0 = 0) := by
  by_cases separated : .point ∈ numeral.marks
  · cases separator with
    | dot => exact Or.inl (by rw [float_dot, Option.getD_some])
    | comma => exact Or.inr ⟨rfl, separated, by rw [float_comma numeral separated, Option.getD_none]⟩
  · exact Or.inl (by rw [typed_whole separator numeral separated, float_dot, Option.getD_some])

theorem bill_read_iff (separator : Separator) (numeral : Numeral) :
    (float (typed separator numeral)).getD 0 = numeral.value ↔
      separator = .dot ∨ .point ∉ numeral.marks ∨ numeral.value = 0 := by
  refine ⟨?_, ?_⟩
  · intro same
    by_cases zero : numeral.value = 0
    · exact Or.inr (Or.inr zero)
    · by_cases separated : .point ∈ numeral.marks
      · cases separator with
        | dot => exact Or.inl rfl
        | comma =>
            rw [float_comma numeral separated, Option.getD_none] at same
            exact absurd same.symm zero
      · exact Or.inr (Or.inl separated)
  · intro fine
    rcases bill_read separator numeral with same | ⟨rfl, separated, zero⟩
    · exact same
    · rcases fine with impossible | whole | free
      · cases impossible
      · exact absurd separated whole
      · rw [zero, free]

-- The tip and the split are taken as chosen, so the share is right exactly when the bill is.
theorem share_same_iff (bill value : ℚ) (tip : Tip) (split : Split) :
    Extended.finite (bill + bill * tip.rate) / .finite (split.val : ℕ) =
      .finite ((value * (1 + tip.rate)) / split.val) ↔ bill = value := by
  have people : ((split.val : ℕ) : ℚ) ≠ 0 := by
    have two := split.property.1
    exact Nat.cast_ne_zero.mpr (by omega)
  have rate : 1 + tip.rate ≠ 0 := by
    cases tip <;> norm_num [Tip.rate]
  rw [Extended.finite_div _ _ people, Extended.finite.injEq, div_left_inj' people, ← mul_one_add, mul_left_inj' rate]

theorem entered_holds (separator : Separator) (numeral : Numeral) (tip : Tip) (split : Split)
    (controller : CalculateViewController) (entered : Entered separator numeral tip split controller) :
    Holds ⟨tip, split, typed separator numeral⟩ controller := by
  obtain ⟨events, ran, rfl, rfl, bill⟩ := entered.reached
  obtain ⟨reached, same, holds⟩ := run_holds events
  cases ran.symm.trans same
  rw [← bill]
  exact holds

theorem bill_used_iff (separator : Separator) (numeral : Numeral) (tip : Tip) (split : Split)
    (controller : CalculateViewController) (entered : Entered separator numeral tip split controller) :
    BillUsed numeral tip split controller ↔ separator = .dot ∨ .point ∉ numeral.marks ∨ numeral.value = 0 := by
  have calculated := calculate_pressed_some _ controller (entered_holds separator numeral tip split controller entered)
  rw [BillUsed, calculated, ← bill_read_iff, ← share_same_iff _ _ tip split]
  simp only [Option.some.injEq, exists_eq_left']

-- 12 and a half, as the pad types it.
theorem twelve_and_half_typed : digits [digitMark 1, digitMark 2, .point, digitMark 5] ≠ [] ∧
    points [digitMark 1, digitMark 2, .point, digitMark 5] ≤ 1 := ⟨List.cons_ne_nil _ _, Nat.le_refl 1⟩

def twelveAndHalf : Numeral :=
  ⟨[digitMark 1, digitMark 2, .point, digitMark 5], twelve_and_half_typed.1, twelve_and_half_typed.2⟩

theorem two_people : 2 ≤ 2 ∧ 2 ≤ 25 := ⟨Nat.le_refl 2, Nat.le_add_right 2 23⟩

def splitByTwo : Split := ⟨2, two_people⟩

theorem dot_bill_used_iff :
    BillUsed twelveAndHalf .ten splitByTwo { launched with billTextField := "12.5" } ↔
      Separator.dot = .dot ∨ .point ∉ twelveAndHalf.marks ∨ twelveAndHalf.value = 0 :=
  bill_used_iff .dot twelveAndHalf .ten splitByTwo _ ⟨[.edit "12.5"], rfl, rfl, rfl, by decide +kernel⟩

theorem comma_bill_is_zero :
    Entered .comma twelveAndHalf .ten splitByTwo { launched with billTextField := "12,5" } ∧
      ¬ BillUsed twelveAndHalf .ten splitByTwo { launched with billTextField := "12,5" } ∧
      (calculatePressed { launched with billTextField := "12,5" }).bind prepare = some ⟨"0.00", "2", "10%"⟩ := by
  have shown : (calculatePressed { launched with billTextField := "12,5" }).bind prepare = some ⟨"0.00", "2", "10%"⟩ := by
    decide +kernel
  refine ⟨⟨[.edit "12,5"], rfl, rfl, rfl, by decide +kernel⟩, ?_, shown⟩
  intro ⟨next, calculated, result⟩
  have zero : (calculatePressed { launched with billTextField := "12,5" }).map (fun next => next.result) =
      some (some (.finite 0)) := by decide +kernel
  rw [calculated, Option.map_some, result, Option.some.injEq, Option.some.injEq, Extended.finite.injEq] at zero
  exact absurd zero (by decide +kernel)

end Pets.Tipsy
