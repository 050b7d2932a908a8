import Pets.EggTimer.Safety

set_option autoImplicit false

namespace Pets.EggTimer

open Pets.Lists Pets.Transition

structure SelectedAt (times : List (String × ℕ)) (title : String) (duration : ℕ) (start : ViewController) : Prop where
  known : times.lookup title = some duration
  reached : ∃ history before, run (step times) launched history = some before ∧
    step times before (.select title) = some start

def Undisturbed (events : List Event) : Prop := ∀ event ∈ events, ∃ timer, event = .tick timer

def ticks (timer : ℕ) (events : List Event) : ℕ := events.count (.tick timer)

def Rings (times : List (String × ℕ)) (controller : ViewController) (event : Event) : Prop :=
  ∃ next, step times controller event = some next ∧ next.alarms ≠ controller.alarms ∧ next.titleLabel = "Done!"

def RingsOnlyOn (times : List (String × ℕ)) (timer nth : ℕ) (since : List Event) (controller : ViewController)
    (event : Event) : Prop :=
  Rings times controller event ↔ event = .tick timer ∧ ticks timer since + 1 = nth

-- The state since the selection: its timer lives for one tick more than its duration.
structure Counting (title : String) (duration timer : ℕ) (since : List Event) (controller : ViewController) : Prop where
  stored : controller.timer = timer
  total : controller.totalTime = duration
  running : ticks timer since ≤ duration →
    controller.runLoop.live = [(timer, title)] ∧ controller.secondsPassed = ticks timer since
  expired : duration < ticks timer since → controller.runLoop.live = []

theorem selected_counting (times : List (String × ℕ)) (title : String) (duration : ℕ) (start : ViewController)
    (selection : SelectedAt times title duration start) : Counting title duration start.timer [] start := by
  obtain ⟨history, before, reached, selected⟩ := selection.reached
  have inv := run_invariant (step times) launched Timing launched_timing (step_timing times) history before reached
  obtain ⟨totalTime, found, rfl⟩ := Option.map_eq_some_iff.mp selected
  cases found.symm.trans selection.known
  have live := RunLoop.scheduled_live (reset before).runLoop title (reset_idle before inv.safe.oneLive)
  exact ⟨rfl, rfl, fun _ => ⟨live, rfl⟩, fun impossible => absurd impossible (Nat.not_lt_zero _)⟩

theorem ticks_same (timer : ℕ) (since : List Event) :
    ticks timer (since ++ [.tick timer]) = ticks timer since + 1 := by
  rw [ticks, ticks, List.count_append, List.count_singleton_self]

theorem ticks_other (timer other : ℕ) (since : List Event) (differs : other ≠ timer) :
    ticks timer (since ++ [.tick other]) = ticks timer since := by
  rw [ticks, ticks, List.count_append, List.count_singleton, if_neg (by simpa using differs), Nat.add_zero]

theorem other_tick_ignored (times : List (String × ℕ)) (title : String) (duration timer other : ℕ) (since : List Event)
    (controller : ViewController) (counting : Counting title duration timer since controller)
    (ignored : other ≠ timer ∨ duration < ticks timer since) : step times controller (.tick other) = some controller := by
  have none : controller.runLoop.closure? other = none := by
    rcases Nat.lt_or_ge duration (ticks timer since) with late | early
    · rw [RunLoop.closure?, counting.expired late]
      rfl
    · have differs : (other == timer) = false := beq_false_of_ne (ignored.resolve_right (by omega))
      rw [RunLoop.closure?, (counting.running early).1, List.lookup_cons, differs]
      rfl
  rw [step, none]

theorem own_tick (times : List (String × ℕ)) (title : String) (duration timer : ℕ) (since : List Event)
    (controller : ViewController) (counting : Counting title duration timer since controller)
    (early : ticks timer since ≤ duration) :
    step times controller (.tick timer) = some (countdown controller title timer) := by
  have found : controller.runLoop.closure? timer = some title := by
    rw [RunLoop.closure?, (counting.running early).1, List.lookup_cons_self]
  rw [step, found]

theorem tick_counting (times : List (String × ℕ)) (title : String) (duration timer other : ℕ) (since : List Event)
    (controller : ViewController) (counting : Counting title duration timer since controller) :
    ∃ next, step times controller (.tick other) = some next ∧
      Counting title duration timer (since ++ [.tick other]) next := by
  by_cases own : other = timer
  · subst own
    rcases Nat.lt_trichotomy (ticks other since) duration with before | now | late
    · obtain ⟨live, passed⟩ := counting.running before.le
      refine ⟨_, own_tick times title duration other since controller counting before.le, ?_⟩
      rw [countdown_counts _ _ _ (by rw [passed, counting.total]; exact before)]
      refine ⟨counting.stored, counting.total, fun _ => ⟨live, ?_⟩, ?_⟩
      · rw [ticks_same, ← passed]
      · intro impossible
        rw [ticks_same] at impossible
        omega
    · obtain ⟨live, passed⟩ := counting.running now.le
      refine ⟨_, own_tick times title duration other since controller counting now.le, ?_⟩
      rw [countdown_finishes _ _ _ (by rw [passed, counting.total]; omega)]
      have idle : (controller.runLoop.invalidate controller.timer).live = [] :=
        RunLoop.only_live_invalidate _ _ (Or.inr ⟨title, by rw [counting.stored]; exact live⟩)
      refine ⟨counting.stored, counting.total, ?_, fun _ => idle⟩
      intro impossible
      rw [ticks_same] at impossible
      omega
    · refine ⟨controller, other_tick_ignored times title duration other other since controller counting (Or.inr late),
        counting.stored, counting.total, ?_, fun _ => counting.expired late⟩
      intro impossible
      rw [ticks_same] at impossible
      omega
  · have same := ticks_other timer other since own
    exact ⟨controller, other_tick_ignored times title duration timer other since controller counting (Or.inl own),
      counting.stored, counting.total, by rw [same]; exact counting.running, by rw [same]; exact counting.expired⟩

theorem undisturbed_counting (times : List (String × ℕ)) (title : String) (duration : ℕ) (start : ViewController)
    (selection : SelectedAt times title duration start) (events : List Event) (undisturbed : Undisturbed events) :
    ∃ controller, run (step times) start events = some controller ∧
      Counting title duration start.timer events controller := by
  induction events using List.reverseRecOn with
  | nil => exact ⟨start, rfl, selected_counting times title duration start selection⟩
  | append_singleton events event ih =>
      obtain ⟨controller, ran, counting⟩ := ih (fun earlier member => undisturbed earlier (List.mem_append_left _ member))
      obtain ⟨other, rfl⟩ := undisturbed event (List.mem_append_right _ List.mem_cons_self)
      obtain ⟨next, moved, counted⟩ :=
        tick_counting times title duration start.timer other events controller counting
      exact ⟨next, by rw [run_snoc, ran, Option.bind_some, moved], counted⟩

theorem rings_iff (times : List (String × ℕ)) (title : String) (duration timer other : ℕ) (since : List Event)
    (controller : ViewController) (counting : Counting title duration timer since controller) :
    Rings times controller (.tick other) ↔ other = timer ∧ ticks timer since = duration := by
  by_cases silent : other ≠ timer ∨ duration < ticks timer since
  · have ignored := other_tick_ignored times title duration timer other since controller counting silent
    refine iff_of_false ?_ (by omega)
    intro ⟨next, moved, changed, _⟩
    cases moved.symm.trans ignored
    exact changed rfl
  · obtain ⟨own, early⟩ := not_or.mp silent
    rw [not_not] at own
    subst own
    have moved := own_tick times title duration other since controller counting (by omega)
    have passed := (counting.running (by omega)).2
    by_cases running : controller.secondsPassed < controller.totalTime
    · refine iff_of_false ?_ (by rw [passed, counting.total] at running; omega)
      intro ⟨next, stepped, changed, _⟩
      cases stepped.symm.trans moved
      rw [countdown_counts _ _ _ running] at changed
      exact changed rfl
    · refine iff_of_true ⟨_, moved, ?_, ?_⟩ ⟨rfl, by rw [passed, counting.total] at running; omega⟩
      · rw [countdown_finishes _ _ _ running]
        exact fun same => absurd same (by simp)
      · rw [countdown_finishes _ _ _ running]

-- What the code does do: the alarm is one tick late, on that tick only.
theorem alarm_one_tick_late (times : List (String × ℕ)) (title : String) (duration : ℕ) (start : ViewController)
    (selection : SelectedAt times title duration start) (events : List Event) (undisturbed : Undisturbed events) :
    Along (step times) start (RingsOnlyOn times start.timer (duration + 1)) events := by
  intro since event after controller split reached
  have part : Undisturbed since := fun earlier member => undisturbed earlier (split ▸ List.mem_append_left _ member)
  obtain ⟨state, ran, counting⟩ := undisturbed_counting times title duration start selection since part
  cases ran.symm.trans reached
  obtain ⟨other, rfl⟩ := undisturbed event (split ▸ List.mem_append_right _ List.mem_cons_self)
  rw [RingsOnlyOn, rings_iff times title duration start.timer other since controller counting, Event.tick.injEq,
    Nat.add_right_cancel_iff]

theorem duration_reached_not_on_time (times : List (String × ℕ)) (title : String) (duration : ℕ)
    (start : ViewController) (selection : SelectedAt times title duration start) (positive : 0 < duration)
    (events : List Event) (undisturbed : Undisturbed events) (reaches : duration ≤ ticks start.timer events) :
    ¬ Along (step times) start (RingsOnlyOn times start.timer duration) events := by
  intro onTime
  have late := alarm_one_tick_late times title duration start selection events undisturbed
  obtain ⟨since, after, split, count⟩ := nth_occurrence events (.tick start.timer) duration positive reaches
  have part : Undisturbed since := fun earlier member => undisturbed earlier (split ▸ List.mem_append_left _ member)
  obtain ⟨controller, ran, _⟩ := undisturbed_counting times title duration start selection since part
  have rings := (onTime since _ after controller split ran).mpr ⟨rfl, count⟩
  have tooLate := ((late since _ after controller split ran).mp rings).2
  change since.count _ + 1 = duration + 1 at tooLate
  omega

theorem alarm_on_time_iff (times : List (String × ℕ)) (title : String) (duration : ℕ) (start : ViewController)
    (selection : SelectedAt times title duration start) (positive : 0 < duration) (events : List Event)
    (undisturbed : Undisturbed events) :
    (Along (step times) start (RingsOnlyOn times start.timer duration) events ↔ ticks start.timer events < duration) ∧
      Along (step times) start (RingsOnlyOn times start.timer (duration + 1)) events := by
  refine ⟨⟨?_, ?_⟩, alarm_one_tick_late times title duration start selection events undisturbed⟩
  · intro onTime
    by_contra reaches
    exact duration_reached_not_on_time times title duration start selection positive events undisturbed
      (not_lt.mp reaches) onTime
  · intro few since event after controller split reached
    have late := alarm_one_tick_late times title duration start selection events undisturbed
    refine iff_of_false ?_ ?_
    · intro rings
      obtain ⟨_, count⟩ := (late since event after controller split reached).mp rings
      have bound : ticks start.timer since ≤ ticks start.timer events := by
        rw [split, ticks, ticks, List.count_append]
        omega
      omega
    · intro ⟨same, count⟩
      subst same
      have bound : ticks start.timer since + 1 ≤ ticks start.timer events := by
        rw [split, ticks, ticks, List.count_append, List.count_cons_self]
        omega
      omega

def softSelected : ViewController := ⟨question, 0, true, 1, 300, 0, [], ⟨[(1, "Soft")], 2⟩⟩

theorem soft_selected : SelectedAt eggTimes "Soft" 300 softSelected :=
  ⟨rfl, [], launched, rfl, by decide +kernel⟩

theorem soft_on_time_iff :
    Along (step eggTimes) softSelected (RingsOnlyOn eggTimes 1 300) [.tick 1, .tick 1] ↔
      ticks 1 [.tick 1, .tick 1] < 300 :=
  (alarm_on_time_iff eggTimes "Soft" 300 softSelected soft_selected (by decide) [.tick 1, .tick 1] (by
    intro event member
    have same : event = .tick 1 := by simpa using member
    exact ⟨1, same⟩)).1

-- After 300 ticks the screen still counts: the alarm waits for the next one.
theorem soft_egg_is_late :
    ¬ Along (step eggTimes) softSelected (RingsOnlyOn eggTimes 1 300) (List.replicate 300 (.tick 1)) ∧
      (run (step eggTimes) launched (.select "Soft" :: List.replicate 300 (.tick 1))).map (fun controller =>
        (controller.titleLabel, controller.secondsPassed, controller.alarms)) =
          some ("Soft Level\n300 seconds passed", 300, []) := by
  refine ⟨?_, by decide +kernel⟩
  apply duration_reached_not_on_time eggTimes "Soft" 300 softSelected soft_selected (by decide)
  · exact fun event member => ⟨1, List.eq_of_mem_replicate member⟩
  · exact List.count_replicate_self.ge

end Pets.EggTimer
