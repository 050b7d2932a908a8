import Pets.Library.Printed
import Pets.TwitterEmotion.ViewController

set_option autoImplicit false

namespace Pets.TwitterEmotion

open Pets.Transition

def counted : List String := ["Pos", "Neg", "Neutral"]

structure Tallied (labels : List String) (controller : ViewController) : Prop where
  positive : controller.positive = labels.count "Pos"
  negative : controller.negative = labels.count "Neg"
  neutral : controller.neutral = labels.count "Neutral"
  score : controller.score = (labels.count "Pos" : ℤ) - labels.count "Neg"

def standalone (predictions : List String) : Display :=
  let positive := predictions.count "Pos"
  let negative := predictions.count "Neg"
  { emotionImage := some (if negative < positive then "Positive" else if positive < negative then "Negative" else "Neutral")
    positiveLabel := "Positive: " ++ toString positive
    negativeLabel := "Negative: " ++ toString negative
    neutralLabel := "Neutral: " ++ toString (predictions.count "Neutral") }

def StandsAlone (classify : List String → Except String (List String)) (controller : ViewController) (event : Event) :
    Prop :=
  ∀ predictions, classified classify event = some predictions →
    ∀ next, step classify controller event = some next → next.display = standalone predictions

def earlierLabels (classify : List String → Except String (List String)) (history : List Event) : List String :=
  (history.filterMap (classified classify)).flatten

def NothingCountedBefore (classify : List String → Except String (List String)) (history : List Event) (event : Event) :
    Prop :=
  (classified classify event).isSome = true →
    ∀ earlier ∈ history, ∀ predictions, classified classify earlier = some predictions →
      ∀ label ∈ predictions, label ∉ counted

theorem tally_tallied (labels : List String) (label : String) (controller : ViewController)
    (inv : Tallied labels controller) : Tallied (labels ++ [label]) (tally controller label) := by
  obtain ⟨positive, negative, neutral, score⟩ := inv
  by_cases isPositive : label = "Pos"
  · subst isPositive
    rw [tally, if_pos rfl]
    refine ⟨?_, ?_, ?_, ?_⟩ <;> simp [*]
    omega
  · rw [tally, if_neg isPositive]
    by_cases isNegative : label = "Neg"
    · subst isNegative
      rw [if_pos rfl]
      refine ⟨?_, ?_, ?_, ?_⟩ <;> simp [*]
      omega
    · rw [if_neg isNegative]
      by_cases isNeutral : label = "Neutral"
      · subst isNeutral
        rw [if_pos rfl]
        refine ⟨?_, ?_, ?_, ?_⟩ <;> simp [*]
      · rw [if_neg isNeutral]
        refine ⟨?_, ?_, ?_, ?_⟩ <;> simp [*]

theorem batch_tallied (batch labels : List String) (controller : ViewController) (inv : Tallied labels controller) :
    Tallied (labels ++ batch) (batch.foldl tally controller) := by
  induction batch generalizing labels controller with
  | nil => simpa using inv
  | cons label rest ih =>
      have later := ih (labels ++ [label]) (tally controller label) (tally_tallied labels label controller inv)
      rw [List.append_assoc] at later
      exact later

theorem update_shows (labels : List String) (controller : ViewController) (inv : Tallied labels controller) :
    (updateUI controller).display = standalone labels := by
  have above : 0 < controller.score ↔ labels.count "Neg" < labels.count "Pos" := by
    rw [inv.score]
    omega
  have below : controller.score < 0 ↔ labels.count "Pos" < labels.count "Neg" := by
    rw [inv.score]
    omega
  simp only [updateUI, standalone, above, below, inv.positive, inv.negative, inv.neutral]

theorem launched_tallied : Tallied [] launched := ⟨rfl, rfl, rfl, rfl⟩

theorem earlier_snoc (classify : List String → Except String (List String)) (history : List Event) (event : Event) :
    earlierLabels classify (history ++ [event]) =
      earlierLabels classify history ++ (classified classify event).getD [] := by
  cases outcome : classified classify event <;> simp [earlierLabels, outcome]

theorem step_tallied (classify : List String → Except String (List String)) (history : List Event)
    (controller : ViewController) (event : Event) (next : ViewController)
    (inv : Tallied (earlierLabels classify history) controller) (moved : step classify controller event = some next) :
    Tallied (earlierLabels classify (history ++ [event])) next := by
  rw [earlier_snoc]
  cases outcome : classified classify event with
  | none =>
      cases (step_unclassified classify controller event outcome).symm.trans moved
      simpa using inv
  | some predictions =>
      cases (step_classified classify controller event predictions outcome).symm.trans moved
      have batch := batch_tallied predictions _ controller inv
      exact ⟨batch.positive, batch.negative, batch.neutral, batch.score⟩

theorem labels_same_iff (label : String) (left right : ℕ) :
    label ++ toString left = label ++ toString right ↔ left = right := by
  rw [String.append_right_inj]
  exact ⟨Printed.printed_same left right, congrArg toString⟩

theorem search_shows (classify : List String → Except String (List String)) (history : List Event)
    (controller next : ViewController) (event : Event) (predictions : List String)
    (inv : Tallied (earlierLabels classify history) controller)
    (success : classified classify event = some predictions) (moved : step classify controller event = some next) :
    next.display = standalone (earlierLabels classify history ++ predictions) := by
  cases (step_classified classify controller event predictions success).symm.trans moved
  exact update_shows _ _ (batch_tallied predictions _ controller inv)

theorem standalone_same_iff (left right batch : List String) :
    standalone (left ++ batch) = standalone (right ++ batch) ↔ ∀ label ∈ counted, left.count label = right.count label := by
  constructor
  · intro same
    have positive := (labels_same_iff _ _ _).mp (congrArg Display.positiveLabel same)
    have negative := (labels_same_iff _ _ _).mp (congrArg Display.negativeLabel same)
    have neutral := (labels_same_iff _ _ _).mp (congrArg Display.neutralLabel same)
    simp only [List.count_append] at positive negative neutral
    simp only [counted, List.forall_mem_cons, List.not_mem_nil, false_imp_iff, implies_true, and_true]
    omega
  · intro same
    have positive := same "Pos" (by simp [counted])
    have negative := same "Neg" (by simp [counted])
    have neutral := same "Neutral" (by simp [counted])
    simp [standalone, List.count_append, positive, negative, neutral]

theorem run_survives (classify : List String → Except String (List String)) (events : List Event) :
    ∃ controller, run (step classify) launched events = some controller := by
  apply Option.isSome_iff_exists.mp
  apply run_total
  intro controller event
  cases outcome : classified classify event with
  | none =>
      rw [step_unclassified classify controller event outcome]
      rfl
  | some predictions =>
      rw [step_classified classify controller event predictions outcome]
      rfl

def shownAfter (classify : List String → Except String (List String)) (events : List Event) : Option Display :=
  (run (step classify) launched events).map ViewController.display

theorem search_shown (classify : List String → Except String (List String)) (history : List Event) (event : Event)
    (predictions : List String) (success : classified classify event = some predictions) :
    shownAfter classify (history ++ [event]) = some (standalone (earlierLabels classify history ++ predictions)) := by
  obtain ⟨controller, ran⟩ := run_survives classify history
  have moved := step_classified classify controller event predictions success
  have tallied := run_invariant (step classify) launched (fun history => Tallied (earlierLabels classify history))
    launched_tallied (step_tallied classify) history controller ran
  rw [shownAfter, run_snoc, ran, Option.bind_some, moved, Option.map_some,
    search_shows classify history controller _ event predictions tallied success moved]

-- Two runs that end with the same search show the same result exactly when the
-- labels before it count alike.
theorem two_runs_same_iff (classify : List String → Except String (List String)) (left right : List Event)
    (event : Event) (searched : (classified classify event).isSome = true) :
    shownAfter classify (left ++ [event]) = shownAfter classify (right ++ [event]) ↔ ∀ label ∈ counted,
      (earlierLabels classify left).count label = (earlierLabels classify right).count label := by
  obtain ⟨predictions, success⟩ := Option.isSome_iff_exists.mp searched
  rw [search_shown classify left event predictions success, search_shown classify right event predictions success,
    Option.some_inj]
  exact standalone_same_iff _ _ predictions

theorem nothing_counted_iff (classify : List String → Except String (List String)) (history : List Event) :
    (∀ label ∈ counted, (earlierLabels classify history).count label = 0) ↔
      ∀ earlier ∈ history, ∀ predictions, classified classify earlier = some predictions →
        ∀ label ∈ predictions, label ∉ counted := by
  have member : ∀ label, label ∈ earlierLabels classify history ↔
      ∃ earlier ∈ history, ∃ predictions, classified classify earlier = some predictions ∧ label ∈ predictions := by
    intro label
    simp only [earlierLabels, List.mem_flatten, List.mem_filterMap]
    constructor
    · intro ⟨predictions, ⟨earlier, inHistory, success⟩, inBatch⟩
      exact ⟨earlier, inHistory, predictions, success, inBatch⟩
    · intro ⟨earlier, inHistory, predictions, success, inBatch⟩
      exact ⟨predictions, ⟨earlier, inHistory, success⟩, inBatch⟩
  constructor
  · intro none earlier inHistory predictions success label inBatch isCounted
    exact List.count_eq_zero.mp (none label isCounted) ((member label).mpr ⟨earlier, inHistory, predictions, success, inBatch⟩)
  · intro none label isCounted
    apply List.count_eq_zero.mpr
    intro earlier
    obtain ⟨event, inHistory, predictions, success, inBatch⟩ := (member label).mp earlier
    exact none event inHistory predictions success label inBatch isCounted

theorem always_alone_iff (classify : List String → Except String (List String)) (events : List Event) :
    Along (step classify) launched (fun _ => StandsAlone classify) events ↔
      Along (step classify) launched (fun history _ => NothingCountedBefore classify history) events := by
  apply along_congr (step classify) launched (fun history => Tallied (earlierLabels classify history))
    launched_tallied (step_tallied classify)
  intro history controller event inv
  cases outcome : classified classify event with
  | none => simp [StandsAlone, NothingCountedBefore, outcome]
  | some predictions =>
      have moved := step_classified classify controller event predictions outcome
      have shown := search_shows classify history controller _ event predictions inv outcome moved
      have same := standalone_same_iff (earlierLabels classify history) [] predictions
      simp only [List.nil_append, List.count_nil] at same
      rw [nothing_counted_iff] at same
      simp only [StandsAlone, NothingCountedBefore, outcome, moved, Option.some.injEq, forall_eq', shown, same,
        Option.isSome_some, forall_const]

theorem stands_alone_iff (classify : List String → Except String (List String)) (events : List Event) :
    (Along (step classify) launched (fun _ => StandsAlone classify) events ↔
        Along (step classify) launched (fun history _ => NothingCountedBefore classify history) events) ∧
      ∀ other event, (classified classify event).isSome = true →
        (shownAfter classify (events ++ [event]) = shownAfter classify (other ++ [event]) ↔ ∀ label ∈ counted,
          (earlierLabels classify events).count label = (earlierLabels classify other).count label) :=
  ⟨always_alone_iff classify events, fun other event => two_runs_same_iff classify events other event⟩

theorem second_search_not_alone :
    ¬ Along (step fun texts => .ok texts) launched (fun _ => StandsAlone fun texts => .ok texts)
      [.results (some [some "Pos"]), .results (some [])] := by
  intro alone
  have shown := alone [.results (some [some "Pos"])] (.results (some [])) [] _ rfl rfl [] rfl _ rfl
  exact absurd shown (by decide)

end Pets.TwitterEmotion
