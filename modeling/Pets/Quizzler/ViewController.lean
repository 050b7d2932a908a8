import Pets.Library.Transition
import Pets.Quizzler.QuizBrain

set_option autoImplicit false

namespace Pets.Quizzler

open Pets.Transition

inductive Color where
  | black
  | green
  | red
deriving DecidableEq

structure Button where
  title : String
  backgroundColor : Color
deriving DecidableEq

structure Screen where
  questionLabel : String
  progress : Extended
  scoreLabel : String
  firstButton : Button
  secondButton : Button
  thirdButton : Button
deriving DecidableEq

-- The pending timers all run updateUI once, so their number is all there is to know.
structure ViewController where
  screen : Screen
  quizBrain : QuizBrain
  timers : ℕ
deriving DecidableEq

def updated (brain : QuizBrain) : Option Screen := do
  let question ← getQuestion brain
  let answers ← getAnswers brain
  let first ← answers[0]?
  let second ← answers[1]?
  let third ← answers[2]?
  some ⟨question, getProgress brain, toString (getScore brain), ⟨first, .black⟩, ⟨second, .black⟩, ⟨third, .black⟩⟩

def updateUI (controller : ViewController) : Option ViewController :=
  (updated controller.quizBrain).map fun screen => { controller with screen }

inductive Sender where
  | first
  | second
  | third
deriving DecidableEq

def Screen.button (screen : Screen) : Sender → Button
  | .first => screen.firstButton
  | .second => screen.secondButton
  | .third => screen.thirdButton

def Sender.index : Sender → ℕ
  | .first => 0
  | .second => 1
  | .third => 2

def paint (screen : Screen) (sender : Sender) (color : Color) : Screen :=
  match sender with
  | .first => { screen with firstButton.backgroundColor := color }
  | .second => { screen with secondButton.backgroundColor := color }
  | .third => { screen with thirdButton.backgroundColor := color }

def answerButtonPressed (controller : ViewController) (sender : Sender) : Option ViewController :=
  (checkAnswer controller.quizBrain (controller.screen.button sender).title).map fun (brain, userGotItRight) =>
    { screen := paint controller.screen sender (if userGotItRight then .green else .red)
      quizBrain := nextQuestion brain
      timers := controller.timers + 1 }

inductive Event where
  | tap (sender : Sender)
  | fire
deriving DecidableEq

def step (controller : ViewController) : Event → Option ViewController
  | .tap sender => answerButtonPressed controller sender
  | .fire =>
      if controller.timers = 0 then some controller
      else updateUI { controller with timers := controller.timers - 1 }

def viewDidLoad (quiz : List Question) : Option ViewController :=
  (updated (newBrain quiz)).map fun screen => ⟨screen, newBrain quiz, 0⟩

theorem updated_shows (brain : QuizBrain) (screen : Screen) (shown : updated brain = some screen) :
    screen.scoreLabel = toString brain.score ∧ ∃ asked, brain.quiz[brain.questionNumber]? = some asked ∧
      asked.question = screen.questionLabel ∧
      ∀ sender, asked.answers[sender.index]? = some (screen.button sender).title := by
  obtain ⟨question, asking, rest⟩ := Option.bind_eq_some_iff.mp shown
  obtain ⟨answers, answering, rest⟩ := Option.bind_eq_some_iff.mp rest
  obtain ⟨first, firstTitle, rest⟩ := Option.bind_eq_some_iff.mp rest
  obtain ⟨second, secondTitle, rest⟩ := Option.bind_eq_some_iff.mp rest
  obtain ⟨third, thirdTitle, rest⟩ := Option.bind_eq_some_iff.mp rest
  obtain ⟨asked, current, label⟩ := Option.map_eq_some_iff.mp asking
  rw [getAnswers, current, Option.map_some, Option.some.injEq] at answering
  cases rest
  refine ⟨rfl, asked, current, label, ?_⟩
  rw [answering]
  intro sender
  cases sender with
  | first => exact firstTitle
  | second => exact secondTitle
  | third => exact thirdTitle

theorem updated_question (brain : QuizBrain) (screen : Screen) (shown : updated brain = some screen) :
    getQuestion brain = some screen.questionLabel := by
  obtain ⟨_, asked, current, label, _⟩ := updated_shows brain screen shown
  rw [getQuestion, current, Option.map_some, label]

theorem updated_some (brain : QuizBrain) (playable : Playable brain.quiz)
    (bound : brain.questionNumber < brain.quiz.length) : ∃ screen, updated brain = some screen := by
  have current := List.getElem?_eq_getElem bound
  have three := playable.threeAnswers _ (List.getElem_mem bound)
  obtain ⟨first, second, third, answers⟩ := List.length_eq_three.mp three
  refine ⟨⟨brain.quiz[brain.questionNumber].question, getProgress brain, toString (getScore brain),
    ⟨first, .black⟩, ⟨second, .black⟩, ⟨third, .black⟩⟩, ?_⟩
  simp only [updated, getQuestion, getAnswers, current, Option.map_some, answers]
  rfl

theorem view_did_load_some (quiz : List Question) (playable : Playable quiz) : (viewDidLoad quiz).isSome := by
  obtain ⟨screen, shown⟩ := updated_some (newBrain quiz) playable playable.nonempty
  rw [viewDidLoad, shown]
  rfl

def launched (quiz : List Question) (playable : Playable quiz) : ViewController :=
  (viewDidLoad quiz).get (view_did_load_some quiz playable)

theorem launched_eq (quiz : List Question) (playable : Playable quiz) :
    ∃ screen, updated (newBrain quiz) = some screen ∧ launched quiz playable = ⟨screen, newBrain quiz, 0⟩ := by
  obtain ⟨screen, shown⟩ := updated_some (newBrain quiz) playable playable.nonempty
  refine ⟨screen, shown, ?_⟩
  simp only [launched, viewDidLoad, shown, Option.map_some, Option.get_some]

theorem paint_question (screen : Screen) (sender : Sender) (color : Color) :
    (paint screen sender color).questionLabel = screen.questionLabel := by
  cases sender <;> rfl

-- All that a step can do: a tap moves the brain on under the old question, and
-- a firing timer shows the question the brain has reached.
theorem step_cases (controller next : ViewController) (event : Event) (moved : step controller event = some next) :
    (∃ sender, event = .tap sender ∧ controller.quizBrain.questionNumber < controller.quizBrain.quiz.length ∧
        next.screen.questionLabel = controller.screen.questionLabel ∧
        next.quizBrain.quiz = controller.quizBrain.quiz ∧
        next.quizBrain.questionNumber =
          (controller.quizBrain.questionNumber + 1) % controller.quizBrain.quiz.length ∧
        next.timers = controller.timers + 1) ∨
      (event = .fire ∧ controller.timers = 0 ∧ next = controller) ∨
      (event = .fire ∧ next.quizBrain = controller.quizBrain ∧
        getQuestion next.quizBrain = some next.screen.questionLabel) := by
  cases event with
  | tap sender =>
      obtain ⟨⟨brain, verdict⟩, checked, rfl⟩ := Option.map_eq_some_iff.mp moved
      obtain ⟨asked, current, _⟩ := Option.map_eq_some_iff.mp checked
      have bound := (List.getElem?_eq_some_iff.mp current).1
      rw [check_answer_some controller.quizBrain asked _ current] at checked
      cases checked
      refine Or.inl ⟨sender, rfl, bound, paint_question _ _ _, next_question_quiz _, ?_, rfl⟩
      exact next_question_number _ bound
  | fire =>
      by_cases idle : controller.timers = 0
      · rw [step, if_pos idle] at moved
        exact Or.inr (Or.inl ⟨rfl, idle, (Option.some.inj moved).symm⟩)
      · rw [step, if_neg idle] at moved
        obtain ⟨screen, shown, rfl⟩ := Option.map_eq_some_iff.mp moved
        exact Or.inr (Or.inr ⟨rfl, rfl, updated_question controller.quizBrain screen shown⟩)

end Pets.Quizzler
