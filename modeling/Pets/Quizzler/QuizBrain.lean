import Pets.Library.Extended

set_option autoImplicit false

namespace Pets.Quizzler

structure Question where
  question : String
  answers : List String
  correctAnswer : String
deriving DecidableEq

def builtInQuiz : List Question := [
  ⟨"Which is the largest organ in the human body?", ["Heart", "Skin", "Large Intestine"], "Skin"⟩,
  ⟨"Five dollars is worth how many nickels?", ["25", "50", "100"], "100"⟩,
  ⟨"What do the letters in the GMT time zone stand for?",
    ["Global Meridian Time", "Greenwich Mean Time", "General Median Time"], "Greenwich Mean Time"⟩,
  ⟨"What is the French word for 'hat'?", ["Chapeau", "Écharpe", "Bonnet"], "Chapeau"⟩,
  ⟨"In past times, what would a gentleman keep in his fob pocket?", ["Notebook", "Handkerchief", "Watch"], "Watch"⟩,
  ⟨"How would one say goodbye in Spanish?", ["Au Revoir", "Adiós", "Salir"], "Adiós"⟩,
  ⟨"Which of these colours is NOT featured in the logo for Google?", ["Green", "Orange", "Blue"], "Orange"⟩,
  ⟨"What alcoholic drink is made from molasses?", ["Rum", "Whisky", "Gin"], "Rum"⟩,
  ⟨"What type of animal was Harambe?", ["Panda", "Gorilla", "Crocodile"], "Gorilla"⟩,
  ⟨"Where is Tasmania located?", ["Indonesia", "Australia", "Scotland"], "Australia"⟩]

structure QuizBrain where
  quiz : List Question
  questionNumber : ℕ
  score : ℕ
deriving DecidableEq

def newBrain (quiz : List Question) : QuizBrain := ⟨quiz, 0, 0⟩

/- Here and below none is the trap of an index out of range. The == of Swift is canonical
   equivalence; on the texts of a quiz, which are typed alike, it is equality. -/
def checkAnswer (brain : QuizBrain) (userAnswer : String) : Option (QuizBrain × Bool) :=
  brain.quiz[brain.questionNumber]?.map fun asked =>
    if userAnswer = asked.correctAnswer then ({ brain with score := brain.score + 1 }, true) else (brain, false)

def nextQuestion (brain : QuizBrain) : QuizBrain :=
  if brain.questionNumber < brain.quiz.length - 1 then { brain with questionNumber := brain.questionNumber + 1 }
  else { brain with questionNumber := 0, score := 0 }

def getProgress (brain : QuizBrain) : Extended :=
  .finite brain.questionNumber / .finite (brain.quiz.length - 1)

def getScore (brain : QuizBrain) : ℕ := brain.score

def getQuestion (brain : QuizBrain) : Option String := brain.quiz[brain.questionNumber]?.map Question.question

def getAnswers (brain : QuizBrain) : Option (List String) := brain.quiz[brain.questionNumber]?.map Question.answers

structure Playable (quiz : List Question) : Prop where
  nonempty : 0 < quiz.length
  threeAnswers : ∀ question ∈ quiz, question.answers.length = 3
  questions : (quiz.map Question.question).Nodup
  answers : (quiz.map Question.correctAnswer).Nodup

theorem built_in_playable : Playable builtInQuiz := by
  refine ⟨by decide, by decide, by decide, by decide⟩

theorem check_answer_some (brain : QuizBrain) (asked : Question) (userAnswer : String)
    (current : brain.quiz[brain.questionNumber]? = some asked) :
    checkAnswer brain userAnswer =
      some (⟨brain.quiz, brain.questionNumber, brain.score + (if userAnswer = asked.correctAnswer then 1 else 0)⟩,
        decide (userAnswer = asked.correctAnswer)) := by
  rw [checkAnswer, current, Option.map_some]
  by_cases right : userAnswer = asked.correctAnswer
  · rw [if_pos right, if_pos right, decide_eq_true right]
  · rw [if_neg right, if_neg right, decide_eq_false right]
    rfl

theorem next_question_quiz (brain : QuizBrain) : (nextQuestion brain).quiz = brain.quiz := by
  by_cases more : brain.questionNumber < brain.quiz.length - 1
  · rw [nextQuestion, if_pos more]
  · rw [nextQuestion, if_neg more]

theorem next_question_number (brain : QuizBrain) (bound : brain.questionNumber < brain.quiz.length) :
    (nextQuestion brain).questionNumber = (brain.questionNumber + 1) % brain.quiz.length := by
  by_cases more : brain.questionNumber < brain.quiz.length - 1
  · rw [nextQuestion, if_pos more, Nat.mod_eq_of_lt (by omega)]
  · have last : brain.questionNumber + 1 = brain.quiz.length := by omega
    rw [nextQuestion, if_neg more, last, Nat.mod_self]

end Pets.Quizzler
