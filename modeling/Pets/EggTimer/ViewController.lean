import Pets.Library.Extended
import Pets.Library.RunLoop
import Pets.Library.Transition

set_option autoImplicit false

namespace Pets.EggTimer

open Pets.Transition

def eggTimes : List (String × ℕ) := [("Soft", 300), ("Medium", 420), ("Hard", 720)]

-- The closure of a timer captures the title of its sender. alarms is history:
-- the timers whose closure has started the player.
structure ViewController where
  titleLabel : String
  progressView : Extended
  stopButtonIsHidden : Bool
  timer : ℕ
  totalTime : ℕ
  secondsPassed : ℕ
  alarms : List ℕ
  runLoop : RunLoop String
deriving DecidableEq

def question : String := "How do you like your eggs?"

-- The first timer is made by Timer() and never scheduled.
def launched : ViewController := ⟨question, 0, true, 0, 0, 0, [], ⟨[], 1⟩⟩

def reset (controller : ViewController) : ViewController :=
  { controller with
    runLoop := controller.runLoop.invalidate controller.timer
    progressView := 0
    secondsPassed := 0 }

def hardnessSelected (times : List (String × ℕ)) (controller : ViewController) (title : String) :
    Option ViewController :=
  (times.lookup title).map fun totalTime =>
    { reset controller with
      totalTime
      timer := controller.runLoop.next
      runLoop := (reset controller).runLoop.scheduledTimer title }

def stop (controller : ViewController) : ViewController :=
  { reset controller with titleLabel := question, stopButtonIsHidden := true }

def countdown (controller : ViewController) (title : String) (ticking : ℕ) : ViewController :=
  if controller.secondsPassed < controller.totalTime then
    let secondsPassed := controller.secondsPassed + 1
    { controller with
      secondsPassed
      titleLabel := title ++ " Level\n" ++ toString secondsPassed ++ " seconds passed"
      progressView := .finite secondsPassed / .finite controller.totalTime
      stopButtonIsHidden := false }
  else
    { controller with
      runLoop := controller.runLoop.invalidate controller.timer
      titleLabel := "Done!"
      stopButtonIsHidden := true
      alarms := controller.alarms ++ [ticking] }

inductive Event where
  | select (title : String)
  | stop
  | tick (timer : ℕ)
deriving DecidableEq

def step (times : List (String × ℕ)) (controller : ViewController) : Event → Option ViewController
  | .select title => hardnessSelected times controller title
  | .stop => some (stop controller)
  | .tick timer =>
      match controller.runLoop.closure? timer with
      | some title => some (countdown controller title timer)
      | none => some controller

theorem countdown_counts (controller : ViewController) (title : String) (ticking : ℕ)
    (running : controller.secondsPassed < controller.totalTime) :
    countdown controller title ticking =
      { controller with
        secondsPassed := controller.secondsPassed + 1
        titleLabel := title ++ " Level\n" ++ toString (controller.secondsPassed + 1) ++ " seconds passed"
        progressView := .finite ((controller.secondsPassed + 1 : ℕ) : ℚ) / .finite controller.totalTime
        stopButtonIsHidden := false } := by
  rw [countdown, if_pos running]

theorem countdown_finishes (controller : ViewController) (title : String) (ticking : ℕ)
    (finished : ¬ controller.secondsPassed < controller.totalTime) :
    countdown controller title ticking =
      { controller with
        runLoop := controller.runLoop.invalidate controller.timer
        titleLabel := "Done!"
        stopButtonIsHidden := true
        alarms := controller.alarms ++ [ticking] } := by
  rw [countdown, if_neg finished]

end Pets.EggTimer
