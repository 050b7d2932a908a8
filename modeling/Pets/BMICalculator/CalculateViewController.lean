import Pets.BMICalculator.CalculatorBrain
import Pets.Library.Transition

set_option autoImplicit false

namespace Pets.BMICalculator

open Pets.Printed Pets.Transition

-- The sliders of the storyboard end at 200 and at 3.
abbrev Weight := { value : ℚ // 0 ≤ value ∧ value ≤ 200 }
abbrev Height := { value : ℚ // 0 ≤ value ∧ value ≤ 3 }

structure CalculateViewController where
  heightLabel : String
  weightLabel : String
  heightSlider : Height
  weightSlider : Weight
  calculatorBrain : CalculatorBrain
deriving DecidableEq

def launched : CalculateViewController := ⟨"1.5M", "100KG", ⟨3 / 2, by norm_num⟩, ⟨100, by norm_num⟩, ⟨none⟩⟩

def heightText (value : Height) : String := String.ofList (formatted 2 (.finite value)) ++ "M"

def weightText (value : Weight) : String := String.ofList (formatted 0 (.finite value)) ++ "KG"

def heightHasChanged (controller : CalculateViewController) (value : Height) : CalculateViewController :=
  { controller with heightSlider := value, heightLabel := heightText value }

def weightHasChanged (controller : CalculateViewController) (value : Weight) : CalculateViewController :=
  { controller with weightSlider := value, weightLabel := weightText value }

def calculatePressed (controller : CalculateViewController) : CalculateViewController :=
  { controller with calculatorBrain := calculateBMI controller.weightSlider controller.heightSlider }

structure ResultViewController where
  bmiValue : String
  bmiStatus : String
  bmiColor : Color
deriving DecidableEq

def prepare (controller : CalculateViewController) : ResultViewController :=
  ⟨getBMIValue controller.calculatorBrain, getBMIStatus controller.calculatorBrain, getBMIColor controller.calculatorBrain⟩

-- calculatePressed performs the segue at its end.
def result (controller : CalculateViewController) : ResultViewController := prepare (calculatePressed controller)

inductive Event where
  | heightHasChanged (value : Height)
  | weightHasChanged (value : Weight)
  | calculatePressed
deriving DecidableEq

def step (controller : CalculateViewController) : Event → Option CalculateViewController
  | .heightHasChanged value => some (heightHasChanged controller value)
  | .weightHasChanged value => some (weightHasChanged controller value)
  | .calculatePressed => some (calculatePressed controller)

-- The labels are those of the sliders; only "1.5M" of the storyboard lacks a place.
structure Labelled (controller : CalculateViewController) : Prop where
  weight : controller.weightLabel = weightText controller.weightSlider
  height : controller.heightLabel = heightText controller.heightSlider ∨
    (controller.heightLabel = "1.5M" ∧ controller.heightSlider.val = 3 / 2)

theorem launched_labelled : Labelled launched := ⟨by decide +kernel, Or.inr ⟨rfl, rfl⟩⟩

theorem step_labelled (controller next : CalculateViewController) (event : Event) (labelled : Labelled controller)
    (moved : step controller event = some next) : Labelled next := by
  cases event with
  | heightHasChanged value =>
      cases moved
      exact ⟨labelled.weight, Or.inl rfl⟩
  | weightHasChanged value =>
      cases moved
      exact ⟨rfl, labelled.height⟩
  | calculatePressed =>
      cases moved
      exact ⟨labelled.weight, labelled.height⟩

theorem run_labelled (events : List Event) (controller : CalculateViewController)
    (reached : run step launched events = some controller) : Labelled controller := by
  apply run_invariant step launched (fun _ => Labelled) launched_labelled _ events controller reached
  intro before state event next labelled moved
  exact step_labelled state next event labelled moved

theorem weight_text_same_iff (left right : Weight) :
    weightText left = weightText right ↔ nearest (left * 10 ^ 0) = nearest (right * 10 ^ 0) := by
  rw [weightText, weightText, String.append_left_inj, String.ofList_inj,
    formatted_same_iff 0 left right left.property.1 right.property.1]

theorem height_text_same_iff (left right : Height) :
    heightText left = heightText right ↔ nearest (left * 10 ^ 2) = nearest (right * 10 ^ 2) := by
  rw [heightText, heightText, String.append_left_inj, String.ofList_inj,
    formatted_same_iff 2 left right left.property.1 right.property.1]

end Pets.BMICalculator
