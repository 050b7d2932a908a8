import Mathlib.Data.List.Basic

set_option autoImplicit false

namespace Pets

-- Repeating timers: one ticks until it is invalidated and never afterwards. A
-- timer is known by the number it was made under.
structure RunLoop (Closure : Type*) where
  live : List (ℕ × Closure)
  next : ℕ
deriving DecidableEq

namespace RunLoop

variable {Closure : Type*}

def scheduledTimer (loop : RunLoop Closure) (closure : Closure) : RunLoop Closure :=
  ⟨loop.live ++ [(loop.next, closure)], loop.next + 1⟩

def invalidate (loop : RunLoop Closure) (timer : ℕ) : RunLoop Closure :=
  { loop with live := loop.live.filter fun scheduled => scheduled.1 ≠ timer }

def closure? (loop : RunLoop Closure) (timer : ℕ) : Option Closure := loop.live.lookup timer

def OnlyLive (loop : RunLoop Closure) (timer : ℕ) : Prop :=
  loop.live = [] ∨ ∃ closure, loop.live = [(timer, closure)]

theorem only_live_invalidate (loop : RunLoop Closure) (timer : ℕ) (only : loop.OnlyLive timer) :
    (loop.invalidate timer).live = [] := by
  rcases only with idle | ⟨closure, live⟩
  · rw [invalidate, idle, List.filter_nil]
  · simp [invalidate, live]

theorem scheduled_live (loop : RunLoop Closure) (closure : Closure) (idle : loop.live = []) :
    (loop.scheduledTimer closure).live = [(loop.next, closure)] := by
  rw [scheduledTimer, idle, List.nil_append]

theorem only_live_closure (loop : RunLoop Closure) (stored timer : ℕ) (closure : Closure)
    (only : loop.OnlyLive stored) (found : loop.closure? timer = some closure) :
    timer = stored ∧ loop.live = [(stored, closure)] := by
  obtain ⟨before, after, split, _⟩ := List.lookup_eq_some_iff.mp found
  have member : (timer, closure) ∈ loop.live := by
    rw [split]
    exact List.mem_append_right _ List.mem_cons_self
  rcases only with idle | ⟨other, live⟩
  · rw [idle] at member
    cases member
  · rw [live] at member
    obtain ⟨rfl, rfl⟩ := Prod.mk.inj (List.mem_singleton.mp member)
    exact ⟨rfl, live⟩

end RunLoop

end Pets
