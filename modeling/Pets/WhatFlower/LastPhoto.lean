import Pets.WhatFlower.OneAnswer

set_option autoImplicit false

namespace Pets.WhatFlower

open Pets.Transition

variable {JSON : Type} (foundation : Foundation JSON)

def ShowsLastPhoto (controller : ViewController) : Prop :=
  (∀ request, ¬ controller.requests.Outstanding request) → controller.requests.queue.Drained →
    ∀ last ∈ controller.asked.getLast?, controller.screen.map Screen.placeholderImage = some last.1

theorem show_page_photo (photo : Photo) (page : Page) :
    (showPage foundation photo page).map Screen.placeholderImage = some photo := by
  obtain ⟨short, shortened⟩ := get_short_string_some foundation page.description
  rw [showPage, shortened]
  rfl

-- A failed request is answered as well, with an empty page.
theorem step_complete (controller : ViewController) (event : Event) (next : ViewController)
    (counted : controller.requests.issued = controller.asked.length) (complete : controller.requests.Complete)
    (moved : step foundation controller event = some next) : next.requests.Complete := by
  cases event with
  | picked info =>
      rcases picking_cases controller next info moved with rfl | ⟨picked, identifier, rest, _, _, rfl⟩ <;> exact complete
  | response request value =>
      cases moved
      by_cases outstanding : controller.requests.Outstanding request
      · have known : request < controller.asked.length := counted ▸ outstanding.1
        rw [responded, if_pos outstanding, List.getElem?_eq_getElem known]
        exact Session.answer_complete _ request _ complete
      · rw [responded, if_neg outstanding]
        exact complete
  | turn =>
      obtain ⟨requests, turned, ⟨_, rfl⟩ | ⟨_, _, _, _, rfl⟩⟩ := updating_cases foundation controller next moved
      · exact Session.turn_complete _ _ complete turned
      · exact Session.turn_complete _ _ complete turned
  | goPressed =>
      cases moved
      obtain ⟨opened, same⟩ := go_pressed_only_opens foundation controller
      rw [same]
      exact complete

theorem run_complete (events : List Event) (controller : ViewController)
    (ran : run (step foundation) launched events = some controller) : controller.requests.Complete := by
  have both := run_invariant (step foundation) launched
    (fun history state => Kept foundation history state ∧ state.requests.Complete)
    ⟨launched_kept foundation, fun request impossible => (List.not_mem_nil impossible).elim⟩
    (fun history state event next both moved =>
      ⟨step_kept foundation history state event next both.1 moved,
        step_complete foundation state event next both.1.counted both.2 moved⟩)
    events controller ran
  exact both.2

theorem ordered_shows_last_photo (history : List Event) (controller : ViewController)
    (kept : Kept foundation history controller) (complete : controller.requests.Complete)
    (ordered : controller.requests.Ordered) : ShowsLastPhoto controller := by
  intro quiet drained last newest
  have nonempty : controller.asked ≠ [] := by
    intro none
    rw [none] at newest
    cases newest
  have positive : 0 < controller.requests.issued := by
    rw [kept.counted]
    exact List.length_pos_iff.mpr nonempty
  obtain ⟨shown, isShown, number⟩ :=
    Session.settled_shows_newest _ kept.sound complete ordered positive quiet drained
  obtain ⟨value, identifier, _, found, _⟩ := Session.traced_shown _ _ kept.sound kept.answered shown isShown
  have lastIndex : shown.1 = controller.asked.length - 1 := by
    have counted := kept.counted
    omega
  have same : last = (shown.2.1, identifier) := by
    rw [lastIndex, ← List.getLast?_eq_getElem?] at found
    exact Option.some.inj ((Option.mem_def.mp newest).symm.trans found)
  have shows := kept.shows
  rw [Shows, isShown] at shows
  rw [shows.1, show_page_photo, same]

-- The last photo taken is the one that stays, and no earlier one comes back,
-- exactly when the answers are shown in the order of the questions.
theorem last_photo_shown_iff (events : List Event) :
    (Always (step foundation) launched (fun _ => ShowsLastPhoto) events ∧
        Along (step foundation) launched (client foundation).NeverReplacedByOlder events) ↔
      Always (step foundation) launched (client foundation).DeliversInOrder events := by
  have newer_iff := (client foundation).never_replaced_iff events
  refine ⟨fun both => newer_iff.mp both.2, fun inOrder => ⟨?_, newer_iff.mpr inOrder⟩⟩
  intro before after controller split reached
  have counted := (client foundation).run_kept before controller reached
  have ordered := ((client foundation).kept_ordered_iff before controller counted).mp
    (inOrder before after controller split reached)
  exact ordered_shows_last_photo foundation before controller (run_kept foundation before controller reached)
    (run_complete foundation before controller reached) ordered

end Pets.WhatFlower
