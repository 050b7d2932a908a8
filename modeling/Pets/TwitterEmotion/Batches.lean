import Mathlib.Data.List.Forall2
import Pets.TwitterEmotion.ViewController

set_option autoImplicit false

namespace Pets.TwitterEmotion

open Pets.Transition

-- One call of the classifier: what it is given, and the labels or the error it answers.
structure Batch where
  tweets : List String
  answer : Except String (List String)

def predict (controller : ViewController) (batch : Batch) : Option ViewController :=
  some (makePrediction (fun _ => batch.answer) controller batch.tweets)

inductive Permuted : Batch → Batch → Prop where
  | succeeds (tweets tweets' labels labels' : List String) (same : labels.Perm labels') :
      Permuted ⟨tweets, .ok labels⟩ ⟨tweets', .ok labels'⟩
  | throws (tweets tweets' : List String) (error error' : String) :
      Permuted ⟨tweets, .error error⟩ ⟨tweets', .error error'⟩

def ScoreIsDifference (controller : ViewController) : Prop :=
  controller.score = (controller.positive : ℤ) - controller.negative

def ImageAgrees (display : Display) : Prop :=
  ∃ positive negative : ℕ, display.positiveLabel = "Positive: " ++ toString positive ∧
    display.negativeLabel = "Negative: " ++ toString negative ∧
    (display.emotionImage = some "Positive" ↔ negative < positive) ∧
    (display.emotionImage = some "Negative" ↔ positive < negative) ∧
    (display.emotionImage = some "Neutral" ↔ positive = negative)

structure Consistent (controller : ViewController) (batch : Batch) : Prop where
  shown : ∀ labels, batch.answer = .ok labels → ∀ next, predict controller batch = some next → ImageAgrees next.display
  order : ∀ other, Permuted batch other → predict controller other = predict controller batch
  thrown : ∀ error, batch.answer = .error error → predict controller batch = some controller

theorem predict_succeeds (controller : ViewController) (tweets labels : List String) :
    predict controller ⟨tweets, .ok labels⟩ = some (updateUI (labels.foldl tally controller)) := rfl

theorem predict_throws (controller : ViewController) (tweets : List String) (error : String) :
    predict controller ⟨tweets, .error error⟩ = some controller := rfl

def search (classify : List String → Except String (List String)) : Event → Option Batch
  | .results array => some ⟨tweets array, classify (tweets array)⟩
  | .failure _ => none

theorem searches_predict (classify : List String → Except String (List String)) (events : List Event)
    (start : ViewController) :
    run (step classify) start events = run predict start (events.filterMap (search classify)) := by
  induction events generalizing start with
  | nil => rfl
  | cons event rest ih =>
      cases event with
      | failure error => exact ih start
      | results array => exact ih (makePrediction classify start (tweets array))

theorem tally_score (controller : ViewController) (label : String) (inv : ScoreIsDifference controller) :
    ScoreIsDifference (tally controller label) := by
  rw [ScoreIsDifference] at inv ⊢
  unfold tally
  split_ifs
  · push_cast
    omega
  · push_cast
    omega
  · exact inv
  · exact inv

theorem batch_score (labels : List String) (controller : ViewController) (inv : ScoreIsDifference controller) :
    ScoreIsDifference (labels.foldl tally controller) := by
  induction labels generalizing controller with
  | nil => exact inv
  | cons label rest ih => exact ih (tally controller label) (tally_score controller label inv)

theorem step_score (controller next : ViewController) (batch : Batch) (inv : ScoreIsDifference controller)
    (moved : predict controller batch = some next) : ScoreIsDifference next := by
  obtain ⟨tweets, answer⟩ := batch
  cases answer with
  | error error =>
      cases moved
      exact inv
  | ok labels =>
      cases moved
      exact batch_score labels controller inv

theorem tally_comm (controller : ViewController) (first second : String) :
    tally (tally controller first) second = tally (tally controller second) first := by
  unfold tally
  split_ifs <;> simp

theorem batch_order (controller : ViewController) (labels other : List String) (same : labels.Perm other) :
    labels.foldl tally controller = other.foldl tally controller :=
  same.foldl_eq' (fun first _ second _ earlier => tally_comm earlier first second) controller

theorem permuted_same (controller : ViewController) (left right : Batch) (permuted : Permuted left right) :
    predict controller left = predict controller right := by
  cases permuted with
  | succeeds tweets tweets' labels labels' same =>
      rw [predict_succeeds, predict_succeeds, batch_order controller labels labels' same]
  | throws => rfl

theorem update_agrees (controller : ViewController) (inv : ScoreIsDifference controller) :
    ImageAgrees (updateUI controller).display := by
  rw [ScoreIsDifference] at inv
  refine ⟨controller.positive, controller.negative, rfl, rfl, ?_⟩
  simp only [updateUI, Option.some.injEq]
  rcases Int.lt_trichotomy controller.score 0 with below | none | above
  · rw [if_neg (by omega), if_pos below]
    refine ⟨by simp; omega, by simp; omega, by simp; omega⟩
  · rw [if_neg (by omega), if_neg (by omega)]
    refine ⟨by simp; omega, by simp; omega, by simp; omega⟩
  · rw [if_pos above]
    refine ⟨by simp; omega, by simp; omega, by simp; omega⟩

theorem step_consistent (controller : ViewController) (batch : Batch) (inv : ScoreIsDifference controller) :
    Consistent controller batch := by
  obtain ⟨tweets, answer⟩ := batch
  refine ⟨?_, fun other permuted => (permuted_same controller _ other permuted).symm, ?_⟩
  · intro labels success next moved
    cases success
    cases moved
    exact update_agrees _ (batch_score labels controller inv)
  · intro error failure
    cases failure
    exact predict_throws controller tweets error

theorem tally_consistent (batches : List Batch) :
    (run predict launched batches).isSome ∧ Always predict launched (fun _ => ScoreIsDifference) batches ∧
      Along predict launched (fun _ => Consistent) batches ∧
      ∀ other, List.Forall₂ Permuted batches other → run predict launched batches = run predict launched other := by
  have score : ∀ before state, run predict launched before = some state → ScoreIsDifference state :=
    run_invariant predict launched (fun _ => ScoreIsDifference) rfl
      (fun _ state batch next inv moved => step_score state next batch inv moved)
  refine ⟨run_total predict (fun _ _ => rfl) launched batches, ?_, ?_, ?_⟩
  · exact fun before _ state _ reached => score before state reached
  · exact fun before batch _ state _ reached => step_consistent state batch (score before state reached)
  · exact fun other aligned => run_exchanged predict Permuted permuted_same batches other aligned launched

end Pets.TwitterEmotion
