import Mathlib.Data.Nat.Basic
import Pets.Library.Transition

set_option autoImplicit false

namespace Pets.TwitterEmotion

open Pets.Transition

structure Display where
  emotionImage : Option String
  positiveLabel : String
  negativeLabel : String
  neutralLabel : String
deriving DecidableEq

structure ViewController where
  positive : ℕ
  negative : ℕ
  neutral : ℕ
  score : ℤ
  display : Display
deriving DecidableEq

def launched : ViewController := ⟨0, 0, 0, 0, ⟨none, "", "", ""⟩⟩

def updateUI (controller : ViewController) : ViewController :=
  let image :=
    if 0 < controller.score then "Positive"
    else if controller.score < 0 then "Negative"
    else "Neutral"
  { controller with
    display :=
      { emotionImage := some image
        positiveLabel := "Positive: " ++ toString controller.positive
        negativeLabel := "Negative: " ++ toString controller.negative
        neutralLabel := "Neutral: " ++ toString controller.neutral } }

def tally (controller : ViewController) (label : String) : ViewController :=
  if label = "Pos" then { controller with positive := controller.positive + 1, score := controller.score + 1 }
  else if label = "Neg" then { controller with negative := controller.negative + 1, score := controller.score - 1 }
  else if label = "Neutral" then { controller with neutral := controller.neutral + 1 }
  else controller

-- classify is emotionClassifier.predictions: the labels of the tweets, or an error.
def makePrediction (classify : List String → Except String (List String)) (controller : ViewController)
    (tweets : List String) : ViewController :=
  match classify tweets with
  | .ok predictions => updateUI (predictions.foldl tally controller)
  | .error _ => controller

-- How a search comes back: results.array is none when the answer is no array,
-- and a result without a text under full_text is none.
inductive Event where
  | results (array : Option (List (Option String)))
  | failure (error : String)
deriving DecidableEq

def tweets (array : Option (List (Option String))) : List String := (array.getD []).filterMap id

def step (classify : List String → Except String (List String)) (controller : ViewController) :
    Event → Option ViewController
  | .results array => some (makePrediction classify controller (tweets array))
  | .failure _ => some controller

def classified (classify : List String → Except String (List String)) : Event → Option (List String)
  | .results array => (classify (tweets array)).toOption
  | .failure _ => none

theorem step_classified (classify : List String → Except String (List String)) (controller : ViewController)
    (event : Event) (predictions : List String) (success : classified classify event = some predictions) :
    step classify controller event = some (updateUI (predictions.foldl tally controller)) := by
  cases event with
  | failure error => cases success
  | results array =>
      rw [classified] at success
      cases outcome : classify (tweets array) with
      | error error => rw [outcome] at success; cases success
      | ok labels =>
          rw [outcome] at success
          cases success
          rw [step, makePrediction, outcome]

theorem step_unclassified (classify : List String → Except String (List String)) (controller : ViewController)
    (event : Event) (failed : classified classify event = none) : step classify controller event = some controller := by
  cases event with
  | failure error => rfl
  | results array =>
      rw [classified] at failed
      cases outcome : classify (tweets array) with
      | error error => rw [step, makePrediction, outcome]
      | ok labels => rw [outcome] at failed; cases failed

end Pets.TwitterEmotion
