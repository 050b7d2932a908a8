import Pets.Library.Decimal
import Pets.Library.Printed
import Pets.Library.Transition

set_option autoImplicit false

namespace Pets.Tipsy

open Pets.Decimal Pets.Printed Pets.Transition

-- A button is known by whether it is selected.
structure CalculateViewController where
  billTextField : String
  zeroPctButton : Bool
  tenPctButton : Bool
  twentyPctButton : Bool
  splitNumberLabel : String
  result : Option Extended
  tip : Option ℚ
deriving DecidableEq

def launched : CalculateViewController := ⟨"", false, true, false, "2", none, none⟩

def tipChanged (controller : CalculateViewController) (currentTitle : String) : CalculateViewController :=
  if currentTitle = "0%" then
    { controller with zeroPctButton := true, tenPctButton := false, twentyPctButton := false }
  else if currentTitle = "10%" then
    { controller with zeroPctButton := false, tenPctButton := true, twentyPctButton := false }
  else if currentTitle = "20%" then
    { controller with zeroPctButton := false, tenPctButton := false, twentyPctButton := true }
  else
    { controller with zeroPctButton := false, tenPctButton := true, twentyPctButton := false }

-- The stepper goes from 2 to 25 in steps of one.
abbrev Split := { people : ℕ // 2 ≤ people ∧ people ≤ 25 }

def stepperValueChanged (controller : CalculateViewController) (value : Split) : CalculateViewController :=
  { controller with splitNumberLabel := toString value.val }

def digitMark (n : ℕ) : Mark := .digit ⟨n % 10, Nat.mod_lt n (Nat.succ_pos 9)⟩

def mark? (c : Char) : Option Mark :=
  match c with
  | '.' => some .point
  | c => if c.isDigit then some (digitMark (c.toNat - 48)) else none

-- Float(text) on the texts of a decimal pad: digits with at most one '.'. A
-- sign, an exponent and the like cannot be typed there.
def float (text : String) : Option ℚ := (text.toList.mapM mark?).bind Decimal.read

def int (text : String) : Option ℕ :=
  if !text.toList.isEmpty && text.toList.all Char.isDigit then some (number text.toList) else none

-- The trap is that of split!.
def calculatePressed (controller : CalculateViewController) : Option CalculateViewController :=
  let tip : ℚ :=
    if controller.zeroPctButton then 0
    else if controller.tenPctButton then 1 / 10
    else if controller.twentyPctButton then 2 / 10
    else 1 / 10
  let bill := (float controller.billTextField).getD 0
  let percent := bill * tip
  (int controller.splitNumberLabel).map fun (split : ℕ) =>
    { controller with tip := some tip, result := some (.finite (bill + percent) / .finite split) }

structure ResultsViewController where
  result : String
  numberOfPeople : String
  tipPercentage : String
deriving DecidableEq

def prepare (controller : CalculateViewController) : Option ResultsViewController :=
  match controller.result, controller.tip with
  | some result, some tip =>
      some ⟨String.ofList (formatted 2 result), controller.splitNumberLabel, toString ⌊tip * 100⌋ ++ "%"⟩
  | _, _ => none

inductive Tip where
  | zero
  | ten
  | twenty
deriving DecidableEq

def Tip.title : Tip → String
  | .zero => "0%"
  | .ten => "10%"
  | .twenty => "20%"

def Tip.rate : Tip → ℚ
  | .zero => 0
  | .ten => 1 / 10
  | .twenty => 2 / 10

inductive Event where
  | tipChanged (sender : Tip)
  | stepperValueChanged (value : Split)
  | edit (text : String)
  | calculatePressed
deriving DecidableEq

def step (controller : CalculateViewController) : Event → Option CalculateViewController
  | .tipChanged sender => some (tipChanged controller sender.title)
  | .stepperValueChanged value => some (stepperValueChanged controller value)
  | .edit text => some { controller with billTextField := text }
  | .calculatePressed => calculatePressed controller

structure Chosen where
  tip : Tip
  split : Split
  bill : String

def Chosen.after (chosen : Chosen) : Event → Chosen
  | .tipChanged sender => { chosen with tip := sender }
  | .stepperValueChanged value => { chosen with split := value }
  | .edit text => { chosen with bill := text }
  | .calculatePressed => chosen

def chosenIn (history : List Event) : Chosen := history.foldl Chosen.after ⟨.ten, ⟨2, by decide⟩, ""⟩

structure Holds (chosen : Chosen) (controller : CalculateViewController) : Prop where
  bill : controller.billTextField = chosen.bill
  zero : controller.zeroPctButton = decide (chosen.tip = .zero)
  ten : controller.tenPctButton = decide (chosen.tip = .ten)
  twenty : controller.twentyPctButton = decide (chosen.tip = .twenty)
  split : controller.splitNumberLabel = toString chosen.split.val

theorem int_printed (n : ℕ) : int (toString n) = some n := by
  have text : (toString n).toList = Nat.toDigits 10 n := Nat.toList_repr
  have some : (Nat.toDigits 10 n).isEmpty = false := List.isEmpty_eq_false_iff.mpr Nat.toDigits_ne_nil
  have digits : (Nat.toDigits 10 n).all Char.isDigit = true := by
    rw [List.all_eq_true]
    exact fun c member => Nat.isDigit_of_mem_toDigits (by decide) (by decide) member
  rw [int, text, some, digits, number, Nat.ofDigitChars_ten_toDigits]
  rfl

theorem calculate_pressed_some (chosen : Chosen) (controller : CalculateViewController)
    (holds : Holds chosen controller) :
    calculatePressed controller = some { controller with
      tip := some chosen.tip.rate
      result := some (.finite ((float chosen.bill).getD 0 + (float chosen.bill).getD 0 * chosen.tip.rate) /
        .finite chosen.split.val) } := by
  rw [calculatePressed, holds.split, int_printed, holds.bill, holds.zero, holds.ten, holds.twenty, Option.map_some]
  cases chosen.tip <;> rfl

theorem launched_holds : Holds (chosenIn []) launched := ⟨rfl, rfl, rfl, rfl, rfl⟩

theorem step_holds (chosen : Chosen) (controller : CalculateViewController) (event : Event)
    (holds : Holds chosen controller) :
    ∃ next, step controller event = some next ∧ Holds (chosen.after event) next := by
  cases event with
  | tipChanged sender =>
      refine ⟨_, rfl, ?_⟩
      cases sender with
      | zero => exact ⟨holds.bill, rfl, rfl, rfl, holds.split⟩
      | ten => exact ⟨holds.bill, rfl, rfl, rfl, holds.split⟩
      | twenty => exact ⟨holds.bill, rfl, rfl, rfl, holds.split⟩
  | stepperValueChanged value => exact ⟨_, rfl, holds.bill, holds.zero, holds.ten, holds.twenty, rfl⟩
  | edit text => exact ⟨_, rfl, rfl, holds.zero, holds.ten, holds.twenty, holds.split⟩
  | calculatePressed =>
      exact ⟨_, calculate_pressed_some chosen controller holds, holds.bill, holds.zero, holds.ten, holds.twenty,
        holds.split⟩

theorem run_holds (events : List Event) :
    ∃ controller, run step launched events = some controller ∧ Holds (chosenIn events) controller := by
  induction events using List.reverseRecOn with
  | nil => exact ⟨launched, rfl, launched_holds⟩
  | append_singleton events event ih =>
      obtain ⟨controller, ran, holds⟩ := ih
      obtain ⟨next, moved, kept⟩ := step_holds (chosenIn events) controller event holds
      refine ⟨next, by rw [run_snoc, ran, Option.bind_some, moved], ?_⟩
      rw [chosenIn, List.foldl_concat]
      exact kept

theorem tip_percentage (tip : Tip) : toString ⌊tip.rate * 100⌋ ++ "%" = tip.title := by
  cases tip with
  | zero => decide +kernel
  | ten => decide +kernel
  | twenty => decide +kernel

theorem prepare_settings (chosen : Chosen) (controller next : CalculateViewController) (holds : Holds chosen controller)
    (calculated : calculatePressed controller = some next) :
    ∃ results, prepare next = some results ∧ results.numberOfPeople = toString chosen.split.val ∧
      results.tipPercentage = chosen.tip.title := by
  cases calculated.symm.trans (calculate_pressed_some chosen controller holds)
  exact ⟨_, rfl, holds.split, tip_percentage chosen.tip⟩

structure ResultsLabels where
  totalLabel : String
  settingsLabel : String
deriving DecidableEq

def viewDidLoad (results : ResultsViewController) : ResultsLabels :=
  ⟨results.result, "Split between " ++ results.numberOfPeople ++ " people, with " ++ results.tipPercentage ++ " tip."⟩

-- Calculate can be pressed in every state without a trap, and the second screen then
-- names the choices made last.
theorem results_name_choices (events : List Event) :
    ∃ controller next results, run step launched events = some controller ∧ calculatePressed controller = some next ∧
      prepare next = some results ∧
      (viewDidLoad results).settingsLabel = "Split between " ++ toString (chosenIn events).split.val ++ " people, with " ++
        (chosenIn events).tip.title ++ " tip." := by
  obtain ⟨controller, ran, holds⟩ := run_holds events
  have calculated := calculate_pressed_some (chosenIn events) controller holds
  obtain ⟨results, prepared, people, tip⟩ := prepare_settings (chosenIn events) controller _ holds calculated
  refine ⟨controller, _, results, ran, calculated, prepared, ?_⟩
  rw [viewDidLoad, people, tip]

end Pets.Tipsy
