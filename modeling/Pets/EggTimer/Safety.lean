import Pets.Library.Lists
import Pets.EggTimer.ViewController

set_option autoImplicit false

namespace Pets.EggTimer

open Pets.Lists Pets.Transition

-- The selections made so far, numbered from one, and the last of them if it
-- has been neither stopped nor replaced.
structure Selection where
  count : ℕ
  current : Option ℕ

def Selection.after (selection : Selection) : Event → Selection
  | .select _ => ⟨selection.count + 1, some (selection.count + 1)⟩
  | .stop => { selection with current := none }
  | .tick _ => selection

def selected (history : List Event) : Selection := history.foldl Selection.after ⟨0, none⟩

structure Safe (controller : ViewController) : Prop where
  oneLive : controller.runLoop.OnlyLive controller.timer
  bounded : controller.secondsPassed ≤ controller.totalTime
  progress : ∃ ratio : ℚ, controller.progressView = .finite ratio ∧ 0 ≤ ratio ∧ ratio ≤ 1
  alarms : controller.alarms.Nodup

def AlarmIsDue (times : List (String × ℕ)) (history : List Event) (controller : ViewController) (event : Event) : Prop :=
  ∀ next, step times controller event = some next →
    next.alarms = controller.alarms ∨
      ∃ timer, event = .tick timer ∧ (selected history).current = some timer ∧ timer ∉ controller.alarms ∧
        next.alarms = controller.alarms ++ [timer]

structure Timing (history : List Event) (controller : ViewController) : Prop where
  safe : Safe controller
  numbered : controller.runLoop.next = (selected history).count + 1
  current : ∀ title, controller.runLoop.live = [(controller.timer, title)] →
    (selected history).current = some controller.timer ∧ controller.timer ∉ controller.alarms
  sounded : ∀ timer ∈ controller.alarms, timer < controller.runLoop.next
  stored : controller.timer < controller.runLoop.next

theorem selected_snoc (history : List Event) (event : Event) :
    selected (history ++ [event]) = (selected history).after event := List.foldl_concat ..

theorem launched_timing : Timing [] launched := by
  refine ⟨⟨Or.inl rfl, Nat.le_refl 0, ⟨0, rfl, le_refl 0, zero_le_one⟩, List.nodup_nil⟩, rfl, ?_, ?_,
    Nat.zero_lt_one⟩
  · intro title impossible
    cases impossible
  · intro timer sounded
    cases sounded

theorem reset_idle (controller : ViewController) (only : controller.runLoop.OnlyLive controller.timer) :
    (reset controller).runLoop.live = [] :=
  RunLoop.only_live_invalidate controller.runLoop controller.timer only

theorem select_timing (times : List (String × ℕ)) (history : List Event) (controller next : ViewController)
    (title : String) (inv : Timing history controller)
    (moved : hardnessSelected times controller title = some next) : Timing (history ++ [.select title]) next := by
  obtain ⟨totalTime, _, rfl⟩ := Option.map_eq_some_iff.mp moved
  have idle := reset_idle controller inv.safe.oneLive
  have live := RunLoop.scheduled_live (reset controller).runLoop title idle
  have fresh : controller.runLoop.next ∉ controller.alarms :=
    fun sounded => Nat.lt_irrefl _ (inv.sounded _ sounded)
  refine ⟨⟨Or.inr ⟨title, live⟩, Nat.zero_le _, ⟨0, rfl, le_refl 0, zero_le_one⟩, inv.safe.alarms⟩, ?_, ?_, ?_,
    Nat.lt_succ_self _⟩
  · rw [selected_snoc]
    exact congrArg Nat.succ inv.numbered
  · intro _ _
    rw [selected_snoc]
    exact ⟨congrArg some inv.numbered.symm, fresh⟩
  · intro timer sounded
    exact Nat.lt_succ_of_lt (inv.sounded timer sounded)

theorem stop_timing (history : List Event) (controller : ViewController) (inv : Timing history controller) :
    Timing (history ++ [.stop]) (stop controller) := by
  have idle := reset_idle controller inv.safe.oneLive
  refine ⟨⟨Or.inl idle, Nat.zero_le _, ⟨0, rfl, le_refl 0, zero_le_one⟩, inv.safe.alarms⟩, ?_, ?_, inv.sounded,
    inv.stored⟩
  · rw [selected_snoc]
    exact inv.numbered
  · intro title live
    exact absurd (idle.symm.trans live) (List.cons_ne_nil _ _).symm

theorem progress_in_range (passed total : ℕ) (running : passed < total) :
    ∃ ratio : ℚ, Extended.finite ((passed + 1 : ℕ) : ℚ) / .finite total = .finite ratio ∧ 0 ≤ ratio ∧ ratio ≤ 1 := by
  have positive : (0 : ℚ) < total := Nat.cast_pos.mpr (Nat.zero_lt_of_lt running)
  have bound : ((passed + 1 : ℕ) : ℚ) ≤ total := Nat.cast_le.mpr running
  refine ⟨((passed + 1 : ℕ) : ℚ) / total, Extended.finite_div _ _ positive.ne', ?_, ?_⟩
  · exact div_nonneg (Nat.cast_nonneg _) positive.le
  · exact (div_le_one positive).mpr bound

theorem countdown_timing (history : List Event) (controller : ViewController) (title : String) (timer : ℕ)
    (inv : Timing history controller) (found : controller.runLoop.closure? timer = some title) :
    Timing (history ++ [.tick timer]) (countdown controller title timer) := by
  obtain ⟨rfl, live⟩ := RunLoop.only_live_closure _ _ _ _ inv.safe.oneLive found
  have kept : selected (history ++ [.tick controller.timer]) = selected history := selected_snoc history _
  by_cases running : controller.secondsPassed < controller.totalTime
  · rw [countdown_counts _ _ _ running]
    have progress := progress_in_range controller.secondsPassed controller.totalTime running
    exact ⟨⟨inv.safe.oneLive, running, progress, inv.safe.alarms⟩, by rw [kept]; exact inv.numbered,
      by rw [kept]; exact inv.current, inv.sounded, inv.stored⟩
  · rw [countdown_finishes _ _ _ running]
    have idle := reset_idle controller inv.safe.oneLive
    obtain ⟨_, silent⟩ := inv.current title live
    refine ⟨⟨Or.inl idle, inv.safe.bounded, inv.safe.progress, nodup_snoc _ _ inv.safe.alarms silent⟩,
      by rw [kept]; exact inv.numbered, ?_, ?_, inv.stored⟩
    · intro other impossible
      exact absurd (idle.symm.trans impossible) (List.cons_ne_nil _ _).symm
    · intro other sounded
      rcases List.mem_append.mp sounded with earlier | now
      · exact inv.sounded other earlier
      · rw [List.mem_singleton.mp now]
        exact inv.stored

theorem step_timing (times : List (String × ℕ)) (history : List Event) (controller : ViewController) (event : Event)
    (next : ViewController) (inv : Timing history controller) (moved : step times controller event = some next) :
    Timing (history ++ [event]) next := by
  cases event with
  | select title => exact select_timing times history controller next title inv moved
  | stop =>
      cases moved
      exact stop_timing history controller inv
  | tick timer =>
      cases found : controller.runLoop.closure? timer with
      | none =>
          simp only [step, found] at moved
          cases moved
          have kept : selected (history ++ [.tick timer]) = selected history := selected_snoc history _
          exact ⟨inv.safe, by rw [kept]; exact inv.numbered, by rw [kept]; exact inv.current, inv.sounded, inv.stored⟩
      | some title =>
          simp only [step, found] at moved
          cases moved
          exact countdown_timing history controller title timer inv found

theorem alarm_is_due (times : List (String × ℕ)) (history : List Event) (controller : ViewController) (event : Event)
    (inv : Timing history controller) : AlarmIsDue times history controller event := by
  intro next moved
  cases event with
  | select title =>
      obtain ⟨totalTime, _, rfl⟩ := Option.map_eq_some_iff.mp moved
      exact Or.inl rfl
  | stop =>
      cases moved
      exact Or.inl rfl
  | tick timer =>
      cases found : controller.runLoop.closure? timer with
      | none =>
          simp only [step, found] at moved
          cases moved
          exact Or.inl rfl
      | some title =>
          simp only [step, found] at moved
          cases moved
          obtain ⟨rfl, live⟩ := RunLoop.only_live_closure _ _ _ _ inv.safe.oneLive found
          by_cases running : controller.secondsPassed < controller.totalTime
          · rw [countdown_counts _ _ _ running]
            exact Or.inl rfl
          · rw [countdown_finishes _ _ _ running]
            obtain ⟨current, silent⟩ := inv.current title live
            exact Or.inr ⟨controller.timer, rfl, current, silent, rfl⟩

theorem run_is_safe (times : List (String × ℕ)) (events : List Event) :
    Always (step times) launched (fun _ => Safe) events ∧
      Along (step times) launched (AlarmIsDue times) events := by
  refine ⟨?_, ?_⟩
  · intro before after controller _ reached
    exact (run_invariant (step times) launched Timing launched_timing (step_timing times) before controller reached).safe
  · intro before event after controller _ reached
    have inv := run_invariant (step times) launched Timing launched_timing (step_timing times) before controller reached
    exact alarm_is_due times before controller event inv

end Pets.EggTimer
