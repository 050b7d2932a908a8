import Mathlib.Logic.Function.Basic
import Pets.Library.Delayed
import Pets.Library.Transition

set_option autoImplicit false

namespace Pets.Xylophone

open Pets.Transition

structure Bundle (Key : Type*) where
  currentTitle : Key → Option String
  url : String → Option String
  plays : String → Bool

-- The alpha of each key in tenths; the time is in milliseconds.
structure ViewController (Key : Type*) where
  alpha : Key → ℕ
  player : Option String
  timers : Delayed Key

variable {Key : Type*} [DecidableEq Key] (bundle : Bundle Key)

def launched : ViewController Key := ⟨fun _ => 10, none, Delayed.start⟩

-- The traps are those of url! and of try!.
def playSound (controller : ViewController Key) (soundName : String) : Option (ViewController Key) :=
  (bundle.url soundName).bind fun url =>
    if bundle.plays url then some { controller with player := some url } else none

def keyPressed (controller : ViewController Key) (sender : Key) : Option (ViewController Key) :=
  let dimmed := { controller with alpha := Function.update controller.alpha sender 5 }
  (bundle.currentTitle sender).bind fun title =>
    (playSound bundle dimmed title).map fun playing =>
      { playing with timers := playing.timers.after 200 sender }

inductive Event (Key : Type*) where
  | press (sender : Key)
  | wait (elapsed : ℕ)
  | fire
deriving DecidableEq

def step (controller : ViewController Key) : Event Key → Option (ViewController Key)
  | .press sender => keyPressed bundle controller sender
  | .wait elapsed => some { controller with timers := controller.timers.wait elapsed }
  | .fire =>
      match controller.timers.fire with
      | some (sender, timers) => some { controller with alpha := Function.update controller.alpha sender 10, timers }
      | none => some controller

structure Brightening (controller : ViewController Key) : Prop where
  dim : ∀ key, controller.alpha key = 10 ∨ key ∈ controller.timers.pending.map Prod.snd
  soon : ∀ waiting ∈ controller.timers.pending, waiting.1 ≤ controller.timers.now + 200

def Event.sounds : Event Key → Prop
  | .press sender => ∃ title url, bundle.currentTitle sender = some title ∧ bundle.url title = some url ∧
      bundle.plays url = true
  | _ => True

theorem press_cases (controller next : ViewController Key) (sender : Key)
    (pressed : keyPressed bundle controller sender = some next) :
    ∃ url, next = ⟨Function.update controller.alpha sender 5, some url, controller.timers.after 200 sender⟩ := by
  obtain ⟨title, _, started⟩ := Option.bind_eq_some_iff.mp pressed
  obtain ⟨playing, played, rfl⟩ := Option.map_eq_some_iff.mp started
  obtain ⟨url, _, plays⟩ := Option.bind_eq_some_iff.mp played
  split at plays
  · cases plays
    exact ⟨url, rfl⟩
  · cases plays

theorem step_sounds_iff (controller : ViewController Key) (event : Event Key) :
    (step bundle controller event).isSome ↔ event.sounds bundle := by
  cases event with
  | press sender =>
      rw [step, keyPressed, Event.sounds]
      cases bundle.currentTitle sender with
      | none => simp
      | some title =>
          cases found : bundle.url title with
          | none => simp [playSound, found]
          | some url => by_cases plays : bundle.plays url <;> simp [playSound, found, plays]
  | wait elapsed => exact iff_of_true rfl trivial
  | fire =>
      rw [step]
      cases controller.timers.fire <;> exact iff_of_true rfl trivial

theorem press_brightening (controller next : ViewController Key) (sender : Key) (inv : Brightening controller)
    (pressed : keyPressed bundle controller sender = some next) : Brightening next := by
  obtain ⟨url, rfl⟩ := press_cases bundle controller next sender pressed
  refine ⟨?_, ?_⟩
  · intro key
    by_cases same : key = sender
    · rw [same]
      exact Or.inr (List.mem_map.mpr ⟨_, (Delayed.mem_after ..).mpr (Or.inl rfl), rfl⟩)
    · rcases inv.dim key with bright | waiting
      · exact Or.inl ((Function.update_of_ne same ..).trans bright)
      · obtain ⟨task, member, rfl⟩ := List.mem_map.mp waiting
        exact Or.inr (List.mem_map.mpr ⟨task, (Delayed.mem_after ..).mpr (Or.inr member), rfl⟩)
  · intro waiting member
    rcases (Delayed.mem_after ..).mp member with rfl | before
    · exact Nat.le_refl _
    · exact inv.soon waiting before

theorem fire_brightening (controller : ViewController Key) (sender : Key) (timers : Delayed Key)
    (inv : Brightening controller) (fired : controller.timers.fire = some (sender, timers)) :
    Brightening { controller with alpha := Function.update controller.alpha sender 10, timers } := by
  obtain ⟨deadline, pending, _, now⟩ := Delayed.fire_cases _ _ _ fired
  refine ⟨?_, ?_⟩
  · intro key
    by_cases same : key = sender
    · rw [same]
      exact Or.inl (Function.update_self ..)
    · rcases inv.dim key with bright | waiting
      · exact Or.inl ((Function.update_of_ne same ..).trans bright)
      · rw [pending, List.map_cons, List.mem_cons, or_iff_right same] at waiting
        exact Or.inr waiting
  · intro waiting member
    rw [now]
    exact inv.soon waiting (by rw [pending]; exact List.mem_cons_of_mem _ member)

theorem step_brightening (controller next : ViewController Key) (event : Event Key) (inv : Brightening controller)
    (moved : step bundle controller event = some next) : Brightening next := by
  cases event with
  | press sender => exact press_brightening bundle controller next sender inv moved
  | wait elapsed =>
      cases moved
      refine ⟨inv.dim, ?_⟩
      intro waiting member
      have due := inv.soon waiting member
      simp only [Delayed.wait]
      omega
  | fire =>
      rw [step] at moved
      cases fired : controller.timers.fire with
      | none =>
          rw [fired] at moved
          cases moved
          exact inv
      | some pair =>
          rw [fired] at moved
          cases moved
          exact fire_brightening controller pair.1 pair.2 inv fired

theorem run_brightening (events : List (Event Key)) (controller : ViewController Key)
    (ran : run (step bundle) launched events = some controller) : Brightening controller := by
  apply run_invariant (step bundle) launched (fun _ => Brightening) ⟨fun _ => Or.inl rfl, ?_⟩ _ events controller ran
  · intro _ impossible
    cases impossible
  · exact fun _ state event next inv moved => step_brightening bundle state next event inv moved

theorem fires_brighten (controller : ViewController Key) (inv : Brightening controller)
    (due : ∀ waiting ∈ controller.timers.pending, waiting.1 ≤ controller.timers.now) :
    ∃ final, run (step bundle) controller (List.replicate controller.timers.pending.length .fire) = some final ∧
      final.timers.pending = [] ∧ ∀ key, final.alpha key = 10 := by
  generalize counted : controller.timers.pending.length = count
  induction count generalizing controller with
  | zero =>
      have empty := List.length_eq_zero_iff.mp counted
      refine ⟨controller, rfl, empty, ?_⟩
      intro key
      rcases inv.dim key with bright | waiting
      · exact bright
      · rw [empty] at waiting
        cases waiting
  | succ count ih =>
      obtain ⟨⟨deadline, sender⟩, rest, first⟩ := List.exists_cons_of_length_eq_add_one counted
      obtain ⟨timers, fired, pending, now⟩ := Delayed.fire_due _ deadline sender rest first
        (due _ (by rw [first]; exact List.mem_cons_self))
      have stepped : step bundle controller .fire =
          some { controller with alpha := Function.update controller.alpha sender 10, timers } := by
        rw [step, fired]
      rw [List.replicate_succ, run, stepped]
      apply ih _ (fire_brightening controller sender timers inv fired)
      · intro waiting member
        rw [pending] at member
        rw [now]
        exact due waiting (by rw [first]; exact List.mem_cons_of_mem _ member)
      · rw [pending]
        rw [first, List.length_cons] at counted
        exact Nat.succ.inj counted

-- The app survives as long as every key that is pressed has its sound, and wherever it has
-- got to, 0.2 s without a press later the closures that wait leave no key dim.
theorem keys_brighten (events : List (Event Key)) :
    ((run (step bundle) launched events).isSome ↔ ∀ event ∈ events, event.sounds bundle) ∧
      ∀ controller, run (step bundle) launched events = some controller →
        ∃ final, run (step bundle) controller (.wait 200 :: List.replicate controller.timers.pending.length .fire) =
            some final ∧ final.timers.pending = [] ∧ ∀ key, final.alpha key = 10 := by
  refine ⟨run_survives_events_iff (step bundle) (Event.sounds bundle) (step_sounds_iff bundle) launched events, ?_⟩
  intro controller ran
  have inv := run_brightening bundle events controller ran
  have waited : step bundle controller (.wait 200) = some { controller with timers := controller.timers.wait 200 } := rfl
  rw [run, waited]
  exact fires_brighten bundle _ (step_brightening bundle controller _ (.wait 200) inv waited) inv.soon

end Pets.Xylophone
