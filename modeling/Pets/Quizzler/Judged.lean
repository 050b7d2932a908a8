import Mathlib.Data.Nat.ModEq
import Pets.Library.Lists
import Pets.Quizzler.ViewController

set_option autoImplicit false

namespace Pets.Quizzler

open Pets.Lists Pets.Transition

def lag (history : List Event) : ℕ :=
  history.foldl (fun taps event => match event with
    | .tap _ => taps + 1
    | .fire => 0) 0

def displayed (controller : ViewController) : Option Question :=
  controller.quizBrain.quiz.find? fun question => question.question = controller.screen.questionLabel

-- As a function of the title, checkAnswer is the comparison with the correct
-- answer of the question on screen.
def JudgedAgainstScreen (controller : ViewController) (event : Event) : Prop :=
  ∀ sender, event = .tap sender → ∃ question, displayed controller = some question ∧
    ∀ userAnswer, (checkAnswer controller.quizBrain userAnswer).map Prod.snd =
      some (decide (userAnswer = question.correctAnswer))

def WholeRounds (count : ℕ) (history : List Event) (event : Event) : Prop :=
  ∀ sender, event = .tap sender → count ∣ lag history

structure Lagging (quiz : List Question) (history : List Event) (controller : ViewController) : Prop where
  same : controller.quizBrain.quiz = quiz
  shown : ∃ index question, quiz[index]? = some question ∧ question.question = controller.screen.questionLabel ∧
    (index + lag history) % quiz.length = controller.quizBrain.questionNumber
  idle : controller.timers = 0 → lag history = 0

theorem lag_tap (history : List Event) (sender : Sender) : lag (history ++ [.tap sender]) = lag history + 1 := by
  rw [lag, List.foldl_concat, lag]

theorem lag_fire (history : List Event) : lag (history ++ [.fire]) = 0 := by
  rw [lag, List.foldl_concat]

theorem question_shown (brain : QuizBrain) (label : String) (asked : getQuestion brain = some label) :
    ∃ question, brain.quiz[brain.questionNumber]? = some question ∧ question.question = label ∧
      brain.questionNumber < brain.quiz.length := by
  obtain ⟨question, current, same⟩ := Option.map_eq_some_iff.mp asked
  exact ⟨question, current, same, (List.getElem?_eq_some_iff.mp current).1⟩

theorem launched_lagging (quiz : List Question) (playable : Playable quiz) :
    Lagging quiz [] (launched quiz playable) := by
  obtain ⟨screen, shown, same⟩ := launched_eq quiz playable
  obtain ⟨question, current, label, bound⟩ := question_shown _ _ (updated_question _ _ shown)
  rw [same]
  exact ⟨rfl, ⟨0, question, current, label, Nat.mod_eq_of_lt bound⟩, fun _ => rfl⟩

theorem step_lagging (quiz : List Question) (history : List Event) (controller : ViewController) (event : Event)
    (next : ViewController) (inv : Lagging quiz history controller) (moved : step controller event = some next) :
    Lagging quiz (history ++ [event]) next := by
  obtain ⟨index, question, current, label, number⟩ := inv.shown
  rcases step_cases controller next event moved with
    ⟨sender, rfl, _, kept, sameQuiz, advanced, started⟩ | ⟨rfl, none, rfl⟩ | ⟨rfl, sameBrain, asked⟩
  · refine ⟨sameQuiz.trans inv.same, ⟨index, question, current, label.trans kept.symm, ?_⟩, ?_⟩
    · rw [lag_tap, advanced, inv.same, ← number, Nat.mod_add_mod, Nat.add_assoc]
    · intro impossible
      rw [started] at impossible
      cases impossible
  · refine ⟨inv.same, ⟨index, question, current, label, ?_⟩, fun _ => lag_fire history⟩
    rw [lag_fire, ← inv.idle none, number]
  · obtain ⟨reached, now, text, bound⟩ := question_shown _ _ asked
    have sameQuiz : next.quizBrain.quiz = quiz := sameBrain ▸ inv.same
    rw [sameQuiz] at now bound
    refine ⟨sameQuiz, ⟨next.quizBrain.questionNumber, reached, now, text, ?_⟩, fun _ => lag_fire history⟩
    rw [lag_fire, Nat.add_zero, Nat.mod_eq_of_lt bound]

theorem wraps_iff (index distance count : ℕ) (bound : index < count) :
    (index + distance) % count = index ↔ count ∣ distance := by
  have congruent : (index + distance) % count = index ↔ index + distance ≡ index + 0 [MOD count] := by
    rw [Nat.ModEq, Nat.add_zero, Nat.mod_eq_of_lt bound]
  rw [congruent, ← Nat.modEq_zero_iff_dvd]
  exact ⟨Nat.ModEq.add_left_cancel' index, Nat.ModEq.add_left index⟩

theorem same_verdicts_iff (brain : QuizBrain) (playable : Playable brain.quiz) (index : ℕ) (asked question : Question)
    (current : brain.quiz[brain.questionNumber]? = some asked) (shown : brain.quiz[index]? = some question) :
    (∀ userAnswer, (checkAnswer brain userAnswer).map Prod.snd = some (decide (userAnswer = question.correctAnswer))) ↔
      brain.questionNumber = index := by
  constructor
  · intro same
    have verdict := same asked.correctAnswer
    rw [check_answer_some brain asked _ current, Option.map_some, decide_eq_true rfl] at verdict
    have answers : asked.correctAnswer = question.correctAnswer := of_decide_eq_true (Option.some.inj verdict).symm
    have questions := List.inj_on_of_nodup_map playable.answers (List.mem_of_getElem? current)
      (List.mem_of_getElem? shown) answers
    have distinct := List.Nodup.of_map Question.correctAnswer playable.answers
    have bound := (List.getElem?_eq_some_iff.mp current).1
    exact (List.getElem?_inj bound distinct).mp (current.trans (questions ▸ shown.symm))
  · intro same userAnswer
    have questions : asked = question := Option.some.inj (current.symm.trans (same ▸ shown))
    rw [check_answer_some brain asked userAnswer current, questions]
    rfl

theorem judged_iff_whole_rounds (quiz : List Question) (playable : Playable quiz) (history : List Event)
    (controller : ViewController) (event : Event) (inv : Lagging quiz history controller) :
    JudgedAgainstScreen controller event ↔ WholeRounds quiz.length history event := by
  have sameQuiz := inv.same
  subst sameQuiz
  obtain ⟨index, question, shown, label, number⟩ := inv.shown
  have bound : index < controller.quizBrain.quiz.length := (List.getElem?_eq_some_iff.mp shown).1
  have inRange : controller.quizBrain.questionNumber < controller.quizBrain.quiz.length :=
    number ▸ Nat.mod_lt _ (Nat.zero_lt_of_lt bound)
  have current := List.getElem?_eq_getElem inRange
  have found : displayed controller = some question := by
    rw [displayed, ← label]
    exact find_keyed Question.question _ playable.questions question (List.mem_of_getElem? shown)
  have exact := same_verdicts_iff controller.quizBrain playable index _ question current shown
  rw [← number, wraps_iff index (lag history) _ bound] at exact
  constructor
  · intro judged sender tapped
    obtain ⟨other, same, verdicts⟩ := judged sender tapped
    cases found.symm.trans same
    exact exact.mp verdicts
  · intro whole sender tapped
    exact ⟨question, found, exact.mpr (whole sender tapped)⟩

theorem taps_judged_iff (quiz : List Question) (playable : Playable quiz) (events : List Event) :
    Along step (launched quiz playable) (fun _ => JudgedAgainstScreen) events ↔
      Along step (launched quiz playable) (fun before _ => WholeRounds quiz.length before) events :=
  along_congr step (launched quiz playable) (Lagging quiz) (launched_lagging quiz playable) (step_lagging quiz)
    (fun _ => JudgedAgainstScreen) (fun before _ => WholeRounds quiz.length before)
    (judged_iff_whole_rounds quiz playable) events

theorem step_some (quiz : List Question) (playable : Playable quiz) (history : List Event)
    (controller : ViewController) (event : Event) (inv : Lagging quiz history controller) :
    (step controller event).isSome := by
  have sameQuiz := inv.same
  subst sameQuiz
  obtain ⟨index, question, shown, label, number⟩ := inv.shown
  have inRange : controller.quizBrain.questionNumber < controller.quizBrain.quiz.length :=
    number ▸ Nat.mod_lt _ playable.nonempty
  cases event with
  | tap sender =>
      have current := List.getElem?_eq_getElem inRange
      rw [step, answerButtonPressed, check_answer_some _ _ _ current]
      rfl
  | fire =>
      by_cases idle : controller.timers = 0
      · rw [step, if_pos idle]
        rfl
      · obtain ⟨screen, updates⟩ := updated_some controller.quizBrain playable inRange
        rw [step, if_neg idle, updateUI, updates]
        rfl

theorem run_some (quiz : List Question) (playable : Playable quiz) (events : List Event) :
    (run step (launched quiz playable) events).isSome := by
  apply (run_survives_iff step (launched quiz playable) events).mpr
  intro before event after controller split reached
  have inv := run_invariant step _ (Lagging quiz) (launched_lagging quiz playable) (step_lagging quiz) before
    controller reached
  exact step_some quiz playable before controller event inv

theorem whole_rounds_iff (quiz : List Question) (playable : Playable quiz) (events : List Event) :
    Along step (launched quiz playable) (fun before _ => WholeRounds quiz.length before) events ↔
      ∀ before sender after, events = before ++ .tap sender :: after → quiz.length ∣ lag before := by
  constructor
  · intro whole before sender after split
    obtain ⟨controller, reached⟩ := Option.isSome_iff_exists.mp (run_some quiz playable before)
    exact whole before (.tap sender) after controller split reached sender rfl
  · intro whole before event after controller split _ sender tapped
    exact whole before sender after (tapped ▸ split)

def opened : ViewController := launched builtInQuiz built_in_playable

theorem every_tap_judged_iff (events : List Event) :
    Along step opened (fun _ => JudgedAgainstScreen) events ↔
      ∀ before sender after, events = before ++ .tap sender :: after → 10 ∣ lag before := by
  have taps := taps_judged_iff builtInQuiz built_in_playable events
  rw [whole_rounds_iff] at taps
  exact taps

-- A second tap on Skin comes before the timer and turns red: it is judged as nickels.
theorem skin_tapped_twice_is_wrong :
    ¬ Along step opened (fun _ => JudgedAgainstScreen) [.tap .second, .tap .second] ∧
      (run step opened [.tap .second, .tap .second]).map (fun controller =>
          (controller.screen.questionLabel, controller.screen.secondButton)) =
        some ("Which is the largest organ in the human body?", ⟨"Skin", .red⟩) := by
  refine ⟨?_, by decide +kernel⟩
  intro judged
  have taps := (taps_judged_iff builtInQuiz built_in_playable [.tap .second, .tap .second]).mp judged
  obtain ⟨controller, reached⟩ := Option.isSome_iff_exists.mp (run_some builtInQuiz built_in_playable [.tap .second])
  have whole := taps [.tap .second] (.tap .second) [] controller rfl reached .second rfl
  exact absurd whole (by decide)

end Pets.Quizzler
