import Pets.Quizzler.Judged

set_option autoImplicit false

namespace Pets.Quizzler

open Pets.Transition

structure SameTexts (screen drawn : Screen) : Prop where
  questionLabel : screen.questionLabel = drawn.questionLabel
  progress : screen.progress = drawn.progress
  scoreLabel : screen.scoreLabel = drawn.scoreLabel
  titles : ∀ sender, (screen.button sender).title = (drawn.button sender).title

-- updateUI last ran after the events before, and only the taps have come since:
-- everything on the screen is of the brain of that moment, and a button has a
-- colour exactly when it is among the taps.
structure DrawnAfter (start : ViewController) (before : List Event) (taps : List Sender) (controller : ViewController) :
    Prop where
  drawn : ∃ earlier screen, run step start before = some earlier ∧ updated earlier.quizBrain = some screen ∧
    SameTexts controller.screen screen ∧
    (taps = [] → controller.quizBrain = earlier.quizBrain ∧ controller.screen = screen)
  colors : ∀ sender, (controller.screen.button sender).backgroundColor = .black ↔ sender ∉ taps
  idle : controller.timers = 0 → taps = []

def Drawn (start : ViewController) (history : List Event) (controller : ViewController) : Prop :=
  ∃ before taps, history = before ++ taps.map .tap ∧ DrawnAfter start before taps controller

theorem same_texts_refl (screen : Screen) : SameTexts screen screen := ⟨rfl, rfl, rfl, fun _ => rfl⟩

theorem updated_black (brain : QuizBrain) (screen : Screen) (shown : updated brain = some screen) (sender : Sender) :
    (screen.button sender).backgroundColor = .black := by
  obtain ⟨question, _, rest⟩ := Option.bind_eq_some_iff.mp shown
  obtain ⟨answers, _, rest⟩ := Option.bind_eq_some_iff.mp rest
  obtain ⟨first, _, rest⟩ := Option.bind_eq_some_iff.mp rest
  obtain ⟨second, _, rest⟩ := Option.bind_eq_some_iff.mp rest
  obtain ⟨third, _, rest⟩ := Option.bind_eq_some_iff.mp rest
  cases rest
  cases sender <;> rfl

theorem paint_texts (screen : Screen) (sender : Sender) (color : Color) : SameTexts (paint screen sender color) screen := by
  cases sender <;> refine ⟨rfl, rfl, rfl, fun other => ?_⟩ <;> cases other <;> rfl

theorem paint_own (screen : Screen) (sender : Sender) (color : Color) :
    ((paint screen sender color).button sender).backgroundColor = color := by
  cases sender <;> rfl

theorem paint_other (screen : Screen) (sender other : Sender) (color : Color) (differs : other ≠ sender) :
    ((paint screen sender color).button other).backgroundColor = (screen.button other).backgroundColor := by
  cases sender <;> cases other <;> first | exact absurd rfl differs | rfl

theorem texts_trans (first second third : Screen) (left : SameTexts first second) (right : SameTexts second third) :
    SameTexts first third :=
  ⟨left.questionLabel.trans right.questionLabel, left.progress.trans right.progress,
    left.scoreLabel.trans right.scoreLabel, fun sender => (left.titles sender).trans (right.titles sender)⟩

theorem drawn_now (start : ViewController) (before : List Event) (controller : ViewController) (screen : Screen)
    (reached : run step start before = some controller) (shown : updated controller.quizBrain = some screen)
    (same : controller.screen = screen) : DrawnAfter start before [] controller := by
  refine ⟨⟨controller, screen, reached, shown, same ▸ same_texts_refl _, fun _ => ⟨rfl, same⟩⟩, ?_, fun _ => rfl⟩
  intro sender
  rw [same]
  exact iff_of_true (updated_black _ _ shown sender) List.not_mem_nil

theorem launched_drawn (quiz : List Question) (playable : Playable quiz) :
    Drawn (launched quiz playable) [] (launched quiz playable) := by
  obtain ⟨screen, shown, same⟩ := launched_eq quiz playable
  refine ⟨[], [], rfl, drawn_now _ [] _ screen rfl ?_ ?_⟩
  · rw [same]
    exact shown
  · rw [same]

theorem tap_drawn (start : ViewController) (before : List Event) (taps : List Sender) (sender : Sender)
    (controller next : ViewController) (inv : DrawnAfter start before taps controller)
    (moved : answerButtonPressed controller sender = some next) : DrawnAfter start before (taps ++ [sender]) next := by
  obtain ⟨⟨brain, right⟩, _, rfl⟩ := Option.map_eq_some_iff.mp moved
  obtain ⟨earlier, screen, reached, shown, texts, _⟩ := inv.drawn
  refine ⟨⟨earlier, screen, reached, shown, ?_, ?_⟩, ?_, ?_⟩
  · exact texts_trans _ _ _ (paint_texts _ _ _) texts
  · intro impossible
    exact absurd impossible (by simp)
  · intro other
    by_cases own : other = sender
    · subst own
      rw [paint_own]
      refine iff_of_false ?_ (not_not.mpr (List.mem_append_right _ (List.mem_singleton_self _)))
      cases right <;> exact Color.noConfusion
    · rw [paint_other _ _ _ _ own, inv.colors other, List.mem_append, List.mem_singleton, or_iff_left own]
  · intro impossible
    cases impossible

theorem step_drawn (start : ViewController) (history : List Event) (controller : ViewController) (event : Event)
    (next : ViewController) (reached : run step start history = some controller) (inv : Drawn start history controller)
    (moved : step controller event = some next) : Drawn start (history ++ [event]) next := by
  have later : run step start (history ++ [event]) = some next := by rw [run_snoc, reached, Option.bind_some, moved]
  obtain ⟨before, taps, rfl, drawn⟩ := inv
  cases event with
  | tap sender =>
      refine ⟨before, taps ++ [sender], ?_, tap_drawn start before taps sender controller next drawn moved⟩
      rw [List.map_append, List.append_assoc]
      rfl
  | fire =>
      by_cases idle : controller.timers = 0
      · rw [step, if_pos idle] at moved
        cases moved
        obtain ⟨earlier, screen, _, shown, _, current⟩ := drawn.drawn
        obtain ⟨brain, same⟩ := current (drawn.idle idle)
        exact ⟨_, [], (List.append_nil _).symm, drawn_now start _ controller screen later (brain ▸ shown) same⟩
      · rw [step, if_neg idle] at moved
        obtain ⟨screen, shown, rfl⟩ := Option.map_eq_some_iff.mp moved
        exact ⟨_, [], (List.append_nil _).symm, drawn_now start _ _ screen later shown rfl⟩

-- In every run the screen shows one moment of the quiz, never parts of two, and
-- when no timer is pending it shows the present one.
theorem screen_of_one_moment (quiz : List Question) (playable : Playable quiz) (events : List Event)
    (controller : ViewController) (ran : run step (launched quiz playable) events = some controller) :
    Drawn (launched quiz playable) events controller ∧
      (controller.timers = 0 → updated controller.quizBrain = some controller.screen) := by
  have both := run_invariant step (launched quiz playable)
    (fun history state => run step (launched quiz playable) history = some state ∧
      Drawn (launched quiz playable) history state)
    ⟨rfl, launched_drawn quiz playable⟩
    (fun history state event next inv moved =>
      ⟨by rw [run_snoc, inv.1, Option.bind_some, moved],
        step_drawn (launched quiz playable) history state event next inv.1 inv.2 moved⟩)
    events controller ran
  refine ⟨both.2, ?_⟩
  intro idle
  obtain ⟨before, taps, _, drawn⟩ := both.2
  obtain ⟨earlier, screen, _, shown, _, current⟩ := drawn.drawn
  obtain ⟨brain, same⟩ := current (drawn.idle idle)
  rw [brain, same]
  exact shown

theorem tapped_screen_of_one_moment :
    ∃ controller, run step (launched builtInQuiz built_in_playable) [.tap .first, .tap .second] = some controller ∧
      Drawn (launched builtInQuiz built_in_playable) [.tap .first, .tap .second] controller := by
  obtain ⟨controller, reached⟩ := Option.isSome_iff_exists.mp
    (run_some builtInQuiz built_in_playable [.tap .first, .tap .second])
  exact ⟨controller, reached, (screen_of_one_moment builtInQuiz built_in_playable _ controller reached).1⟩

end Pets.Quizzler
