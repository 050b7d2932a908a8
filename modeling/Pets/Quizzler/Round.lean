import Pets.Library.Printed
import Pets.Quizzler.Score

set_option autoImplicit false

namespace Pets.Quizzler

open Pets.Transition

-- A tap whose timer fires before the next tap.
def settling (sender : Sender) : List Event := [.tap sender, .fire]

def round (senders : List Sender) : List Event := senders.flatMap settling

def Right (question : Question) (sender : Sender) : Prop :=
  question.answers[sender.index]? = some question.correctAnswer

instance (question : Question) (sender : Sender) : Decidable (Right question sender) :=
  inferInstanceAs (Decidable (_ = _))

def rightAnswers (quiz : List Question) (senders : List Sender) : ℕ :=
  (quiz.zip senders).countP fun answer => decide (Right answer.1 answer.2)

structure RoundStart (quiz : List Question) (playable : Playable quiz) (start : ViewController) : Prop where
  reached : ∃ events, run step (launched quiz playable) events = some start
  first : start.quizBrain.questionNumber = 0
  idle : start.timers = 0

def LabelRight (quiz : List Question) (start : ViewController) (taken : List Sender) : Prop :=
  ∃ controller, run step start (round taken) = some controller ∧
    controller.screen.scoreLabel = toString (rightAnswers quiz taken)

def ScoreShown (quiz : List Question) (start : ViewController) (senders : List Sender) : Prop :=
  ∀ taken rest, senders = taken ++ rest → taken ≠ [] → LabelRight quiz start taken

def AllWrong (quiz : List Question) (senders : List Sender) : Prop :=
  ∀ answer ∈ quiz.zip senders, ¬ Right answer.1 answer.2

structure Settled (quiz : List Question) (controller : ViewController) : Prop where
  same : controller.quizBrain.quiz = quiz
  idle : controller.timers = 0
  shown : updated controller.quizBrain = some controller.screen

theorem reached_settled (quiz : List Question) (playable : Playable quiz) (start : ViewController)
    (opening : RoundStart quiz playable start) : Settled quiz start ∧ start.quizBrain = newBrain quiz := by
  obtain ⟨events, reached⟩ := opening.reached
  have shown : start.timers = 0 → updated start.quizBrain = some start.screen := by
    apply run_invariant step (launched quiz playable)
      (fun _ state => state.timers = 0 → updated state.quizBrain = some state.screen) _ _ events start reached
    · obtain ⟨screen, shown, same⟩ := launched_eq quiz playable
      rw [same]
      exact fun _ => shown
    · intro before state event next inv moved
      cases event with
      | tap sender =>
          obtain ⟨_, _, rfl⟩ := Option.map_eq_some_iff.mp moved
          exact fun impossible => absurd impossible (Nat.succ_ne_zero _)
      | fire =>
          by_cases idle : state.timers = 0
          · rw [step, if_pos idle] at moved
            cases moved
            exact inv
          · rw [step, if_neg idle] at moved
            obtain ⟨screen, shown, rfl⟩ := Option.map_eq_some_iff.mp moved
            exact fun _ => shown
  obtain ⟨answers, ran⟩ := controller_answered quiz playable events start reached
  have nonempty : quiz ≠ [] := List.length_pos_iff.mp playable.nonempty
  obtain ⟨brain, same, kept⟩ := run_score_kept quiz nonempty answers
  have range := kept_in_range quiz answers brain nonempty kept
  rw [ran] at same
  cases same
  have score : start.quizBrain.score = 0 := Nat.le_zero.mp (opening.first ▸ range.score)
  refine ⟨⟨kept.same, opening.idle, shown opening.idle⟩, ?_⟩
  have eta : start.quizBrain = ⟨start.quizBrain.quiz, start.quizBrain.questionNumber, start.quizBrain.score⟩ := rfl
  rw [eta, kept.same, opening.first, score, newBrain]

theorem settling_run (quiz : List Question) (playable : Playable quiz) (controller : ViewController) (asked : Question)
    (sender : Sender) (settled : Settled quiz controller)
    (current : quiz[controller.quizBrain.questionNumber]? = some asked) :
    ∃ next, run step controller (settling sender) = some next ∧ Settled quiz next ∧
      next.quizBrain = nextQuestion ⟨quiz, controller.quizBrain.questionNumber,
        controller.quizBrain.score + (if Right asked sender then 1 else 0)⟩ := by
  obtain ⟨_, _, asking, _, titles⟩ := updated_shows _ _ settled.shown
  rw [settled.same, current] at asking
  cases asking
  have judged : (controller.screen.button sender).title = asked.correctAnswer ↔ Right asked sender := by
    rw [Right, titles sender, Option.some_inj]
  have checked := check_answer_some controller.quizBrain asked (controller.screen.button sender).title
    (by rw [settled.same]; exact current)
  simp only [judged, settled.same] at checked
  have bound := (List.getElem?_eq_some_iff.mp current).1
  obtain ⟨brain, advanced⟩ : ∃ brain, brain = nextQuestion ⟨quiz, controller.quizBrain.questionNumber,
    controller.quizBrain.score + (if Right asked sender then 1 else 0)⟩ := ⟨_, rfl⟩
  have sameQuiz : brain.quiz = quiz := by rw [advanced, next_question_quiz]
  have inside : brain.questionNumber < brain.quiz.length := by
    rw [sameQuiz, advanced, next_question_number _ bound]
    exact Nat.mod_lt _ playable.nonempty
  obtain ⟨screen, shown⟩ := updated_some brain (by rw [sameQuiz]; exact playable) inside
  refine ⟨⟨screen, brain, 0⟩, ?_, ⟨sameQuiz, rfl, shown⟩, advanced⟩
  have tapped : step controller (.tap sender) =
      some ⟨paint controller.screen sender (if decide (Right asked sender) then .green else .red), brain, 1⟩ := by
    rw [step, answerButtonPressed, checked, Option.map_some, settled.idle, advanced]
  have fired : step ⟨paint controller.screen sender (if decide (Right asked sender) then .green else .red), brain, 1⟩
      .fire = some ⟨screen, brain, 0⟩ := by
    rw [step, if_neg one_ne_zero]
    change (updated brain).map _ = _
    rw [shown]
    rfl
  rw [settling, run, tapped, Option.bind_some, run, fired]
  rfl

theorem right_answers_snoc (quiz : List Question) (taken : List Sender) (sender : Sender) (asked : Question)
    (current : quiz[taken.length]? = some asked) :
    rightAnswers quiz (taken ++ [sender]) = rightAnswers quiz taken + (if Right asked sender then 1 else 0) := by
  induction taken generalizing quiz with
  | nil =>
      obtain ⟨rest, rfl⟩ : ∃ rest, quiz = asked :: rest := by
        cases quiz with
        | nil => cases current
        | cons first rest =>
            cases current
            exact ⟨rest, rfl⟩
      simp [rightAnswers]
  | cons earlier taken ih =>
      cases quiz with
      | nil => cases current
      | cons question rest =>
          have later := ih rest current
          simp only [rightAnswers, List.cons_append, List.zip_cons_cons, List.countP_cons] at later ⊢
          omega

theorem round_append (taken : List Sender) (sender : Sender) :
    round (taken ++ [sender]) = round taken ++ settling sender := by
  rw [round, List.flatMap_append, List.flatMap_singleton]
  rfl

-- The invariant of a round: before its last answer the score is the count of the right ones.
theorem round_run (quiz : List Question) (playable : Playable quiz) (start : ViewController)
    (opening : RoundStart quiz playable start) (taken : List Sender) (within : taken.length < quiz.length) :
    ∃ controller, run step start (round taken) = some controller ∧ Settled quiz controller ∧
      controller.quizBrain = ⟨quiz, taken.length, rightAnswers quiz taken⟩ := by
  induction taken using List.reverseRecOn with
  | nil =>
      obtain ⟨settled, fresh⟩ := reached_settled quiz playable start opening
      have none : rightAnswers quiz [] = 0 := by simp [rightAnswers]
      exact ⟨start, rfl, settled, by rw [fresh, none]; rfl⟩
  | append_singleton taken sender ih =>
      rw [List.length_append, List.length_singleton] at within
      obtain ⟨controller, ran, settled, counted⟩ := ih (by omega)
      have current : quiz[taken.length]? = some quiz[taken.length] := List.getElem?_eq_getElem (by omega)
      obtain ⟨next, moved, kept, brain⟩ := settling_run quiz playable controller quiz[taken.length] sender settled
        (by rw [counted]; exact current)
      refine ⟨next, ?_, kept, ?_⟩
      · rw [round_append, run_append, ran, Option.bind_some, moved]
      · rw [brain, counted, right_answers_snoc quiz taken sender _ current, nextQuestion]
        rw [if_pos (show taken.length < quiz.length - 1 by omega), List.length_append, List.length_singleton]

theorem last_answer_shows_zero (quiz : List Question) (playable : Playable quiz) (start : ViewController)
    (opening : RoundStart quiz playable start) (senders : List Sender) (whole : senders.length = quiz.length) :
    ∃ controller, run step start (round senders) = some controller ∧ controller.screen.scoreLabel = toString 0 := by
  have positive := playable.nonempty
  obtain ⟨taken, sender, rfl⟩ := List.eq_nil_or_concat senders |>.resolve_left
    (fun none => by rw [none, List.length_nil] at whole; omega)
  rw [List.concat_eq_append] at whole ⊢
  rw [List.length_append, List.length_singleton] at whole
  obtain ⟨controller, ran, settled, counted⟩ := round_run quiz playable start opening taken (by omega)
  have current : quiz[taken.length]? = some quiz[taken.length] := List.getElem?_eq_getElem (by omega)
  obtain ⟨next, moved, kept, brain⟩ := settling_run quiz playable controller quiz[taken.length] sender settled
    (by rw [counted]; exact current)
  refine ⟨next, by rw [round_append, run_append, ran, Option.bind_some, moved], ?_⟩
  have score : next.quizBrain.score = 0 := by
    rw [brain, counted, nextQuestion, if_neg (show ¬ taken.length < quiz.length - 1 by omega)]
  rw [(updated_shows _ _ kept.shown).1, score]

theorem all_wrong_iff (quiz : List Question) (senders : List Sender) :
    AllWrong quiz senders ↔ rightAnswers quiz senders = 0 := by
  simp only [AllWrong, rightAnswers, List.countP_eq_zero, decide_eq_true_eq]

theorem label_right_iff (quiz : List Question) (playable : Playable quiz) (start : ViewController)
    (opening : RoundStart quiz playable start) (senders taken rest : List Sender)
    (whole : senders.length = quiz.length) (split : senders = taken ++ rest) :
    LabelRight quiz start taken ↔ rest = [] → AllWrong quiz senders := by
  cases rest with
  | nil =>
      rw [List.append_nil] at split
      subst split
      obtain ⟨final, finished, zero⟩ := last_answer_shows_zero quiz playable start opening senders whole
      rw [all_wrong_iff]
      refine ⟨?_, fun wrong => ⟨final, finished, by rw [zero, wrong rfl]⟩⟩
      intro ⟨controller, ran, label⟩ _
      cases ran.symm.trans finished
      exact Printed.printed_same _ _ (label.symm.trans zero)
  | cons sender rest =>
      have within : taken.length < quiz.length := by
        rw [← whole, split, List.length_append, List.length_cons]
        omega
      obtain ⟨controller, ran, settled, counted⟩ := round_run quiz playable start opening taken within
      refine iff_of_true ⟨controller, ran, ?_⟩ (fun impossible => absurd impossible (List.cons_ne_nil _ _))
      rw [(updated_shows _ _ settled.shown).1, counted]

theorem score_shown_iff (quiz : List Question) (playable : Playable quiz) (start : ViewController)
    (opening : RoundStart quiz playable start) (senders : List Sender) (whole : senders.length = quiz.length) :
    (ScoreShown quiz start senders ↔ AllWrong quiz senders) ∧
      ∀ taken rest, senders = taken ++ rest → (LabelRight quiz start taken ↔ rest = [] → AllWrong quiz senders) := by
  have each := label_right_iff quiz playable start opening senders
  have some : senders ≠ [] := List.length_pos_iff.mp (by rw [whole]; exact playable.nonempty)
  refine ⟨⟨?_, ?_⟩, fun taken rest split => each taken rest whole split⟩
  · intro shown
    have last := (List.append_nil senders).symm
    exact (each senders [] whole last).mp (shown senders [] last some) rfl
  · intro wrong taken rest split _
    exact (each taken rest whole split).mpr fun _ => wrong

theorem launched_round_start (quiz : List Question) (playable : Playable quiz) :
    RoundStart quiz playable (launched quiz playable) := by
  obtain ⟨screen, _, same⟩ := launched_eq quiz playable
  exact ⟨⟨[], rfl⟩, by rw [same]; rfl, by rw [same]⟩

def perfect : List Sender :=
  [.second, .third, .second, .first, .third, .second, .second, .first, .second, .second]

theorem perfect_score_shown_iff :
    ScoreShown builtInQuiz (launched builtInQuiz built_in_playable) perfect ↔ AllWrong builtInQuiz perfect :=
  (score_shown_iff builtInQuiz built_in_playable _ (launched_round_start builtInQuiz built_in_playable) perfect rfl).1

-- All ten answers are right, and the label after the tenth reads 0.
theorem perfect_round_shows_zero :
    ¬ ScoreShown builtInQuiz (launched builtInQuiz built_in_playable) perfect ∧
      (run step (launched builtInQuiz built_in_playable) (round perfect)).map (fun controller =>
        controller.screen.scoreLabel) = some "0" ∧ rightAnswers builtInQuiz perfect = 10 := by
  have label : (run step (launched builtInQuiz built_in_playable) (round perfect)).map (fun controller =>
      controller.screen.scoreLabel) = some "0" := by decide +kernel
  have right : rightAnswers builtInQuiz perfect = 10 := by decide +kernel
  refine ⟨?_, label, right⟩
  intro shown
  obtain ⟨controller, ran, text⟩ := shown perfect [] rfl (List.cons_ne_nil _ _)
  rw [ran, Option.map_some, text, right] at label
  exact absurd label (by decide)

end Pets.Quizzler
