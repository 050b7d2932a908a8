import Pets.Library.Extended

set_option autoImplicit false

namespace Pets.Calculator

/- A number is stored rounded, and so is the result of every operation. Binary64.round
   makes these the Doubles of the machine, and unrounded the numbers themselves. -/
abbrev Double := Extended

abbrev unrounded : ℚ → Double := Extended.finite

-- The titles "÷", "×", "-" and "+".
inductive Operator where
  | divide
  | multiply
  | subtract
  | add
deriving DecidableEq

inductive Method where
  | ac
  | plusMinus
  | percent
  | equals
  | binary (operator : Operator)
deriving DecidableEq

-- The operator of last is none for the empty method string that AC stores.
structure CalculatorManager where
  number : Option Double
  last : Option (Double × Option Operator)
deriving DecidableEq

def setNumber (manager : CalculatorManager) (number : Double) : CalculatorManager :=
  { manager with number := some number }

variable (round : ℚ → Double)

def Operator.apply : Operator → Double → Double → Double
  | .divide, a, b => (a / b).rounded round
  | .multiply, a, b => (a * b).rounded round
  | .subtract, a, b => (a - b).rounded round
  | .add, a, b => (a + b).rounded round

def calculate (manager : CalculatorManager) (number : Double) : Option Double :=
  match manager.last with
  | some (safeNumber, safeMethod) =>
      match safeMethod with
      | some operator => some (operator.apply round safeNumber number)
      | none => some 0
  | none => some 0

def manage (manager : CalculatorManager) (method : Method) : CalculatorManager × Option Double :=
  match manager.number with
  | some safeNumber =>
      match method with
      | .ac => ({ manager with last := some (0, none) }, some 0)
      | .plusMinus => (manager, some ((safeNumber * -1).rounded round))
      | .percent => (manager, some ((safeNumber / 100).rounded round))
      | .equals => (manager, calculate round manager safeNumber)
      | .binary operator => ({ manager with last := some (safeNumber, some operator) }, some safeNumber)
  | none => (manager, none)

-- What calculate can see of last: the operation that waits for its second operand.
def waiting (manager : CalculatorManager) : Option (Double × Operator) :=
  manager.last.bind fun last => last.2.map fun operator => (last.1, operator)

theorem calculate_waiting (manager : CalculatorManager) (number : Double) :
    calculate round manager number =
      some (match waiting manager with
        | some (safeNumber, operator) => operator.apply round safeNumber number
        | none => 0) := by
  unfold calculate waiting
  cases manager.last with
  | none => rfl
  | some last =>
      obtain ⟨safeNumber, method⟩ := last
      cases method <;> rfl

end Pets.Calculator
