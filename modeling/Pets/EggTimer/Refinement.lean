import Pets.EggTimer.ViewController

set_option autoImplicit false

namespace Pets.EggTimer

open Pets.Transition

-- What the app is for, without a run loop: one egg at most, timed by the ticks
-- that are its own.
inductive Egg where
  | none
  | timed (title : String) (duration passed : ℕ)
  | done (duration : ℕ)
deriving DecidableEq

-- The selections are numbered from one; rung are those that have run out.
structure Kitchen where
  selections : ℕ
  egg : Egg
  titleLabel : String
  stopButtonIsHidden : Bool
  rung : List ℕ
deriving DecidableEq

def empty : Kitchen := ⟨0, .none, question, true, []⟩

def Kitchen.tick (kitchen : Kitchen) : Kitchen :=
  match kitchen.egg with
  | .timed title duration passed =>
      if passed < duration then
        { kitchen with
          egg := .timed title duration (passed + 1)
          titleLabel := title ++ " Level\n" ++ toString (passed + 1) ++ " seconds passed"
          stopButtonIsHidden := false }
      else
        { kitchen with
          egg := .done duration
          titleLabel := "Done!"
          stopButtonIsHidden := true
          rung := kitchen.rung ++ [kitchen.selections] }
  | _ => kitchen

-- A new egg is not shown before its first tick.
def Kitchen.step (times : List (String × ℕ)) (kitchen : Kitchen) : Event → Option Kitchen
  | .select title => (times.lookup title).map fun duration =>
      { kitchen with selections := kitchen.selections + 1, egg := .timed title duration 0 }
  | .stop => some { kitchen with egg := .none, titleLabel := question, stopButtonIsHidden := true }
  | .tick timer => some (if timer = kitchen.selections then kitchen.tick else kitchen)

def fraction (passed duration : ℕ) : Extended := if passed = 0 then 0 else .finite passed / .finite duration

def Egg.progress : Egg → Extended
  | .none => 0
  | .timed _ duration passed => fraction passed duration
  | .done duration => fraction duration duration

def Egg.Kept (egg : Egg) (selections : ℕ) (controller : ViewController) : Prop :=
  match egg with
  | .timed title duration passed =>
      controller.timer = selections ∧ controller.runLoop.live = [(selections, title)] ∧
        controller.totalTime = duration ∧ controller.secondsPassed = passed ∧ passed ≤ duration
  | _ => controller.runLoop.live = []

structure Agrees (controller : ViewController) (kitchen : Kitchen) : Prop where
  titleLabel : controller.titleLabel = kitchen.titleLabel
  progressView : controller.progressView = kitchen.egg.progress
  stopButtonIsHidden : controller.stopButtonIsHidden = kitchen.stopButtonIsHidden
  alarms : controller.alarms = kitchen.rung
  next : controller.runLoop.next = kitchen.selections + 1
  kept : kitchen.egg.Kept kitchen.selections controller

theorem kept_only_live (egg : Egg) (selections : ℕ) (controller : ViewController)
    (kept : egg.Kept selections controller) : controller.runLoop.OnlyLive controller.timer := by
  cases egg with
  | none => exact Or.inl kept
  | timed title duration passed => exact Or.inr ⟨title, kept.1 ▸ kept.2.1⟩
  | done duration => exact Or.inl kept

theorem kept_idle (egg : Egg) (selections : ℕ) (controller : ViewController) (kept : egg.Kept selections controller) :
    (controller.runLoop.invalidate controller.timer).live = [] :=
  RunLoop.only_live_invalidate _ _ (kept_only_live egg selections controller kept)

theorem select_agrees (times : List (String × ℕ)) (controller : ViewController) (kitchen : Kitchen) (title : String)
    (agrees : Agrees controller kitchen) :
    Option.Rel Agrees (hardnessSelected times controller title) (kitchen.step times (.select title)) := by
  rw [hardnessSelected, Kitchen.step]
  cases times.lookup title with
  | none => exact Option.Rel.none
  | some duration =>
      have idle := kept_idle kitchen.egg kitchen.selections controller agrees.kept
      have live := RunLoop.scheduled_live (reset controller).runLoop title idle
      refine Option.Rel.some ⟨agrees.titleLabel, rfl, agrees.stopButtonIsHidden, agrees.alarms, ?_, ?_⟩
      · exact congrArg Nat.succ agrees.next
      · refine ⟨agrees.next, ?_, rfl, rfl, Nat.zero_le duration⟩
        rw [← agrees.next]
        exact live

theorem stop_agrees (controller : ViewController) (kitchen : Kitchen) (agrees : Agrees controller kitchen) :
    Agrees (stop controller) { kitchen with egg := .none, titleLabel := question, stopButtonIsHidden := true } :=
  ⟨rfl, rfl, rfl, agrees.alarms, agrees.next, kept_idle kitchen.egg kitchen.selections controller agrees.kept⟩

theorem countdown_agrees (controller : ViewController) (kitchen : Kitchen) (title : String) (duration passed : ℕ)
    (agrees : Agrees controller kitchen) (timed : kitchen.egg = .timed title duration passed) :
    Agrees (countdown controller title kitchen.selections) kitchen.tick := by
  have kept := agrees.kept
  rw [timed] at kept
  obtain ⟨stored, live, total, counted, bound⟩ := kept
  by_cases running : passed < duration
  · rw [countdown_counts _ _ _ (by rw [counted, total]; exact running)]
    simp only [Kitchen.tick, timed, if_pos running]
    refine ⟨?_, ?_, rfl, agrees.alarms, agrees.next, stored, live, total, ?_, running⟩
    · rw [counted]
    · rw [counted, total, Egg.progress, fraction, if_neg (Nat.succ_ne_zero passed)]
    · rw [counted]
  · rw [countdown_finishes _ _ _ (by rw [counted, total]; exact running)]
    simp only [Kitchen.tick, timed, if_neg running]
    have full : passed = duration := by omega
    refine ⟨rfl, ?_, rfl, ?_, agrees.next, ?_⟩
    · rw [agrees.progressView, timed, full]
      rfl
    · rw [agrees.alarms]
    · exact RunLoop.only_live_invalidate _ _ (Or.inr ⟨title, by rw [stored]; exact live⟩)

theorem silent_agrees (times : List (String × ℕ)) (controller : ViewController) (kitchen : Kitchen) (timer : ℕ)
    (agrees : Agrees controller kitchen) (gone : controller.runLoop.closure? timer = none)
    (stays : kitchen.step times (.tick timer) = some kitchen) :
    Option.Rel Agrees (step times controller (.tick timer)) (kitchen.step times (.tick timer)) := by
  rw [step, gone, stays]
  exact Option.Rel.some agrees

theorem tick_agrees (times : List (String × ℕ)) (controller : ViewController) (kitchen : Kitchen) (timer : ℕ)
    (agrees : Agrees controller kitchen) :
    Option.Rel Agrees (step times controller (.tick timer)) (kitchen.step times (.tick timer)) := by
  have kept := agrees.kept
  cases egg : kitchen.egg with
  | none =>
      rw [egg] at kept
      have live : controller.runLoop.live = [] := kept
      apply silent_agrees times controller kitchen timer agrees
      · rw [RunLoop.closure?, live, List.lookup_nil]
      · simp only [Kitchen.step, Kitchen.tick, egg, ite_self]
  | done duration =>
      rw [egg] at kept
      have live : controller.runLoop.live = [] := kept
      apply silent_agrees times controller kitchen timer agrees
      · rw [RunLoop.closure?, live, List.lookup_nil]
      · simp only [Kitchen.step, Kitchen.tick, egg, ite_self]
  | timed title duration passed =>
      rw [egg] at kept
      by_cases own : timer = kitchen.selections
      · have found : controller.runLoop.closure? timer = some title := by
          rw [RunLoop.closure?, kept.2.1, own, List.lookup_cons_self]
        rw [step, found, Kitchen.step, if_pos own, own]
        exact Option.Rel.some (countdown_agrees controller kitchen title duration passed agrees egg)
      · apply silent_agrees times controller kitchen timer agrees
        · rw [RunLoop.closure?, kept.2.1, List.lookup_cons, beq_false_of_ne own, List.lookup_nil]
        · rw [Kitchen.step, if_neg own]

-- In every run the screen, the alarms and the traps are those of the kitchen: no
-- timer that has been stopped, replaced or used up is ever heard of again.
theorem refines_kitchen (times : List (String × ℕ)) (events : List Event) :
    Option.Rel Agrees (run (step times) launched events) (run (Kitchen.step times) empty events) := by
  apply run_simulated
  · intro controller kitchen event agrees
    cases event with
    | select title => exact select_agrees times controller kitchen title agrees
    | stop => exact Option.Rel.some (stop_agrees controller kitchen agrees)
    | tick timer => exact tick_agrees times controller kitchen timer agrees
  · exact ⟨rfl, rfl, rfl, rfl, rfl, rfl⟩

end Pets.EggTimer
