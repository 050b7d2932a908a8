import Pets.Quizzler.ViewController

set_option autoImplicit false

namespace Pets.Quizzler

open Pets.Transition

def answered (brain : QuizBrain) (userAnswer : String) : Option QuizBrain :=
  (checkAnswer brain userAnswer).map fun checked => nextQuestion checked.1

-- The question that is being asked once the earlier answers are in.
def givenFor (quiz : List Question) (earlier : List String) : Option Question :=
  (run answered (newBrain quiz) earlier).bind fun brain => brain.quiz[brain.questionNumber]?

def isRight (quiz : List Question) (answers : List String) (index : ℕ) : Bool :=
  (do
    let userAnswer ← answers[index]?
    let asked ← givenFor quiz (answers.take index)
    some (decide (userAnswer = asked.correctAnswer))) == some true

def rightAmongLast (quiz : List Question) (answers : List String) (count : ℕ) : ℕ :=
  (List.range' (answers.length - count) count).countP (isRight quiz answers)

structure ScoreKept (quiz : List Question) (answers : List String) (brain : QuizBrain) : Prop where
  same : brain.quiz = quiz
  number : brain.questionNumber = answers.length % quiz.length
  score : brain.score = rightAmongLast quiz answers (answers.length % quiz.length)

structure InRange (quiz : List Question) (brain : QuizBrain) : Prop where
  score : brain.score ≤ brain.questionNumber
  number : brain.questionNumber < quiz.length
  check : ∀ userAnswer, (checkAnswer brain userAnswer).isSome
  question : (getQuestion brain).isSome
  answers : (getAnswers brain).isSome
  progress : 2 ≤ quiz.length → ∃ ratio : ℚ, getProgress brain = .finite ratio ∧ 0 ≤ ratio ∧ ratio ≤ 1 ∧
    (ratio = 1 ↔ brain.questionNumber + 1 = quiz.length)

theorem answered_some (brain : QuizBrain) (asked : Question) (userAnswer : String)
    (current : brain.quiz[brain.questionNumber]? = some asked) :
    answered brain userAnswer = some (nextQuestion
      ⟨brain.quiz, brain.questionNumber, brain.score + (if userAnswer = asked.correctAnswer then 1 else 0)⟩) := by
  rw [answered, check_answer_some brain asked userAnswer current, Option.map_some]

theorem is_right_earlier (quiz : List Question) (answers : List String) (userAnswer : String) (index : ℕ)
    (earlier : index < answers.length) :
    isRight quiz (answers ++ [userAnswer]) index = isRight quiz answers index := by
  rw [isRight, isRight, List.getElem?_append_left earlier, List.take_append_of_le_length (Nat.le_of_lt earlier)]

theorem is_right_last (quiz : List Question) (answers : List String) (userAnswer : String) (asked : Question)
    (given : givenFor quiz answers = some asked) :
    isRight quiz (answers ++ [userAnswer]) answers.length = decide (userAnswer = asked.correctAnswer) := by
  have whole : (answers ++ [userAnswer]).take answers.length = answers := List.take_left
  rw [isRight, List.getElem?_concat_length, whole, given]
  simp

theorem right_among_last_snoc (quiz : List Question) (answers : List String) (userAnswer : String) (asked : Question)
    (count : ℕ) (within : count ≤ answers.length) (given : givenFor quiz answers = some asked) :
    rightAmongLast quiz (answers ++ [userAnswer]) (count + 1) =
      rightAmongLast quiz answers count + (if userAnswer = asked.correctAnswer then 1 else 0) := by
  have start : (answers ++ [userAnswer]).length - (count + 1) = answers.length - count := by
    rw [List.length_append, List.length_singleton]
    omega
  have last : answers.length - count + count = answers.length := by omega
  have earlier : (List.range' (answers.length - count) count).countP (isRight quiz (answers ++ [userAnswer])) =
      rightAmongLast quiz answers count := by
    apply List.countP_congr
    intro index member
    have bound := (List.mem_range'_1.mp member).2
    rw [is_right_earlier quiz answers userAnswer index (by omega)]
  rw [rightAmongLast, start, List.range'_1_concat, List.countP_append, earlier, last, List.countP_singleton,
    is_right_last quiz answers userAnswer asked given]
  simp only [decide_eq_true_eq]

theorem step_score_kept (quiz : List Question) (answers : List String) (brain : QuizBrain) (userAnswer : String)
    (nonempty : quiz ≠ []) (reached : run answered (newBrain quiz) answers = some brain)
    (kept : ScoreKept quiz answers brain) :
    ∃ next, answered brain userAnswer = some next ∧ ScoreKept quiz (answers ++ [userAnswer]) next := by
  have positive : 0 < quiz.length := List.length_pos_iff.mpr nonempty
  have bound : brain.questionNumber < quiz.length := by
    rw [kept.number]
    exact Nat.mod_lt _ positive
  have current : brain.quiz[brain.questionNumber]? = some quiz[brain.questionNumber] := by
    rw [kept.same]
    exact List.getElem?_eq_getElem bound
  have given : givenFor quiz answers = some quiz[brain.questionNumber] := by
    rw [givenFor, reached, Option.bind_some, current]
  refine ⟨_, answered_some brain _ userAnswer current, ?_⟩
  have longer : (answers ++ [userAnswer]).length % quiz.length = (brain.questionNumber + 1) % quiz.length := by
    rw [List.length_append, List.length_singleton, kept.number, Nat.mod_add_mod]
  refine ⟨?_, ?_, ?_⟩
  · rw [next_question_quiz]
    exact kept.same
  · rw [next_question_number _ (by rw [kept.same]; exact bound), kept.same, longer]
  · by_cases more : brain.questionNumber < brain.quiz.length - 1
    · have inside : (brain.questionNumber + 1) % quiz.length = brain.questionNumber + 1 :=
        Nat.mod_eq_of_lt (by rw [kept.same] at more; omega)
      have within : brain.questionNumber ≤ answers.length := by
        rw [kept.number]
        exact Nat.mod_le _ _
      rw [nextQuestion, if_pos more, longer, inside,
        right_among_last_snoc quiz answers userAnswer _ brain.questionNumber within given, kept.score, ← kept.number]
    · have wrapped : (brain.questionNumber + 1) % quiz.length = 0 := by
        have last : brain.questionNumber + 1 = quiz.length := by rw [kept.same] at more; omega
        rw [last, Nat.mod_self]
      rw [nextQuestion, if_neg more, longer, wrapped]
      rfl

theorem run_score_kept (quiz : List Question) (nonempty : quiz ≠ []) (answers : List String) :
    ∃ brain, run answered (newBrain quiz) answers = some brain ∧ ScoreKept quiz answers brain := by
  induction answers using List.reverseRecOn with
  | nil => exact ⟨newBrain quiz, rfl, rfl, (Nat.zero_mod _).symm, by rw [List.length_nil, Nat.zero_mod]; rfl⟩
  | append_singleton answers userAnswer ih =>
      obtain ⟨brain, reached, kept⟩ := ih
      obtain ⟨next, moved, counted⟩ := step_score_kept quiz answers brain userAnswer nonempty reached kept
      exact ⟨next, by rw [run_snoc, reached, Option.bind_some, moved], counted⟩

theorem given_for (quiz : List Question) (nonempty : quiz ≠ []) (earlier : List String) :
    givenFor quiz earlier = quiz[earlier.length % quiz.length]? := by
  obtain ⟨brain, reached, kept⟩ := run_score_kept quiz nonempty earlier
  rw [givenFor, reached, Option.bind_some, kept.same, kept.number]

theorem right_among_last_le (quiz : List Question) (answers : List String) (count : ℕ) :
    rightAmongLast quiz answers count ≤ count := by
  have bound := List.countP_le_length (p := isRight quiz answers) (l := List.range' (answers.length - count) count)
  rwa [List.length_range'] at bound

theorem progress_ratio (number count : ℕ) (many : 2 ≤ count) (bound : number < count) :
    ∃ ratio : ℚ, Extended.finite number / .finite (count - 1) = .finite ratio ∧ 0 ≤ ratio ∧ ratio ≤ 1 ∧
      (ratio = 1 ↔ number + 1 = count) := by
  have last : (1 : ℚ) < count := by exact_mod_cast many
  have positive : (0 : ℚ) < count - 1 := sub_pos.mpr last
  have below : (number : ℚ) ≤ count - 1 := by
    rw [le_sub_iff_add_le]
    exact_mod_cast bound
  refine ⟨number / (count - 1), Extended.finite_div _ _ positive.ne', ?_, ?_, ?_⟩
  · exact div_nonneg (Nat.cast_nonneg _) positive.le
  · exact (div_le_one positive).mpr below
  · rw [div_eq_one_iff_eq positive.ne', eq_sub_iff_add_eq]
    exact_mod_cast Iff.rfl

theorem kept_in_range (quiz : List Question) (answers : List String) (brain : QuizBrain) (nonempty : quiz ≠ [])
    (kept : ScoreKept quiz answers brain) : InRange quiz brain := by
  have bound : brain.questionNumber < quiz.length := by
    rw [kept.number]
    exact Nat.mod_lt _ (List.length_pos_iff.mpr nonempty)
  have current : brain.quiz[brain.questionNumber]? = some quiz[brain.questionNumber] := by
    rw [kept.same]
    exact List.getElem?_eq_getElem bound
  refine ⟨?_, bound, ?_, ?_, ?_, ?_⟩
  · rw [kept.score, kept.number]
    exact right_among_last_le quiz answers _
  · intro userAnswer
    rw [check_answer_some brain _ userAnswer current]
    rfl
  · rw [getQuestion, current]
    rfl
  · rw [getAnswers, current]
    rfl
  · intro many
    rw [getProgress, kept.same]
    exact progress_ratio brain.questionNumber quiz.length many bound

theorem score_of_answers (quiz : List Question) (nonempty : quiz ≠ []) (answers : List String) :
    ∃ brain, run answered (newBrain quiz) answers = some brain ∧ ScoreKept quiz answers brain ∧
      InRange quiz brain := by
  obtain ⟨brain, reached, kept⟩ := run_score_kept quiz nonempty answers
  exact ⟨brain, reached, kept, kept_in_range quiz answers brain nonempty kept⟩

theorem score_of_two_answers :
    ∃ brain, run answered (newBrain builtInQuiz) ["Skin", "25"] = some brain ∧
      ScoreKept builtInQuiz ["Skin", "25"] brain ∧ InRange builtInQuiz brain :=
  score_of_answers builtInQuiz (List.cons_ne_nil _ _) ["Skin", "25"]

theorem controller_answered (quiz : List Question) (playable : Playable quiz) (events : List Event)
    (controller : ViewController) (reached : run step (launched quiz playable) events = some controller) :
    ∃ answers, run answered (newBrain quiz) answers = some controller.quizBrain := by
  apply run_invariant step (launched quiz playable)
    (fun _ state => ∃ answers, run answered (newBrain quiz) answers = some state.quizBrain) _ _ events controller reached
  · obtain ⟨screen, _, same⟩ := launched_eq quiz playable
    rw [same]
    exact ⟨[], rfl⟩
  · intro before state event next ⟨answers, ran⟩ moved
    cases event with
    | tap sender =>
        obtain ⟨checked, verdict, rfl⟩ := Option.map_eq_some_iff.mp moved
        refine ⟨answers ++ [(state.screen.button sender).title], ?_⟩
        rw [run_snoc, ran, Option.bind_some, answered, verdict]
        rfl
    | fire =>
        rcases step_cases state next .fire moved with ⟨_, impossible, _⟩ | ⟨_, _, rfl⟩ | ⟨_, sameBrain, _⟩
        · cases impossible
        · exact ⟨answers, ran⟩
        · rw [sameBrain]
          exact ⟨answers, ran⟩

end Pets.Quizzler
