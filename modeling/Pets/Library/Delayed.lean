import Mathlib.Data.List.Pairwise

set_option autoImplicit false

namespace Pets

-- Tasks that run once each, none before its deadline, the earliest deadline
-- first and of equal deadlines the one that was scheduled first.
structure Delayed (Task : Type*) where
  now : ℕ
  pending : List (ℕ × Task)
  inOrder : (pending.map Prod.fst).Pairwise (· ≤ ·)
deriving DecidableEq

namespace Delayed

variable {Task : Type*}

def start : Delayed Task := ⟨0, [], List.Pairwise.nil⟩

def insert (deadline : ℕ) (task : Task) : List (ℕ × Task) → List (ℕ × Task)
  | [] => [(deadline, task)]
  | first :: rest => if deadline < first.1 then (deadline, task) :: first :: rest else first :: insert deadline task rest

theorem mem_insert (deadline : ℕ) (task : Task) (pending : List (ℕ × Task)) (waiting : ℕ × Task) :
    waiting ∈ insert deadline task pending ↔ waiting = (deadline, task) ∨ waiting ∈ pending := by
  induction pending with
  | nil => simp [insert]
  | cons first rest ih =>
      rw [insert]
      split
      · simp
      · rw [List.mem_cons, ih, List.mem_cons]
        exact or_left_comm

theorem insert_deadlines (deadline : ℕ) (task : Task) (pending : List (ℕ × Task)) (other : ℕ) :
    other ∈ (insert deadline task pending).map Prod.fst ↔ other = deadline ∨ other ∈ pending.map Prod.fst := by
  simp only [List.mem_map, mem_insert]
  constructor
  · rintro ⟨waiting, rfl | before, rfl⟩
    · exact Or.inl rfl
    · exact Or.inr ⟨waiting, before, rfl⟩
  · rintro (rfl | ⟨waiting, before, rfl⟩)
    · exact ⟨_, Or.inl rfl, rfl⟩
    · exact ⟨waiting, Or.inr before, rfl⟩

theorem insert_in_order (deadline : ℕ) (task : Task) (pending : List (ℕ × Task))
    (inOrder : (pending.map Prod.fst).Pairwise (· ≤ ·)) :
    ((insert deadline task pending).map Prod.fst).Pairwise (· ≤ ·) := by
  induction pending with
  | nil => exact List.pairwise_singleton _ _
  | cons first rest ih =>
      have parts := List.pairwise_cons.mp inOrder
      rw [insert]
      split
      · rename_i earlier
        refine List.pairwise_cons.mpr ⟨?_, inOrder⟩
        intro other member
        rcases List.mem_cons.mp member with rfl | later
        · exact Nat.le_of_lt earlier
        · exact Nat.le_trans (Nat.le_of_lt earlier) (parts.1 other later)
      · rename_i notEarlier
        refine List.pairwise_cons.mpr ⟨?_, ih parts.2⟩
        intro other member
        rcases (insert_deadlines deadline task rest other).mp member with rfl | later
        · exact Nat.le_of_not_lt notEarlier
        · exact parts.1 other later

def after (tasks : Delayed Task) (delay : ℕ) (task : Task) : Delayed Task :=
  ⟨tasks.now, insert (tasks.now + delay) task tasks.pending, insert_in_order _ task _ tasks.inOrder⟩

def wait (tasks : Delayed Task) (elapsed : ℕ) : Delayed Task := { tasks with now := tasks.now + elapsed }

def fire (tasks : Delayed Task) : Option (Task × Delayed Task) :=
  match tasks with
  | ⟨now, (deadline, task) :: rest, inOrder⟩ =>
      if deadline ≤ now then some (task, ⟨now, rest, (List.pairwise_cons.mp inOrder).2⟩) else none
  | ⟨_, [], _⟩ => none

theorem fire_cases (tasks next : Delayed Task) (task : Task) (fired : tasks.fire = some (task, next)) :
    ∃ deadline, tasks.pending = (deadline, task) :: next.pending ∧ deadline ≤ tasks.now ∧ next.now = tasks.now := by
  obtain ⟨now, pending, inOrder⟩ := tasks
  cases pending with
  | nil => cases fired
  | cons first rest =>
      obtain ⟨deadline, due⟩ := first
      rw [fire] at fired
      split at fired
      · rename_i early
        cases fired
        exact ⟨deadline, rfl, early, rfl⟩
      · cases fired

theorem fire_due (tasks : Delayed Task) (deadline : ℕ) (task : Task) (rest : List (ℕ × Task))
    (first : tasks.pending = (deadline, task) :: rest) (due : deadline ≤ tasks.now) :
    ∃ next, tasks.fire = some (task, next) ∧ next.pending = rest ∧ next.now = tasks.now := by
  obtain ⟨now, pending, inOrder⟩ := tasks
  cases first
  exact ⟨_, if_pos due, rfl, rfl⟩

theorem mem_after (tasks : Delayed Task) (delay : ℕ) (task : Task) (waiting : ℕ × Task) :
    waiting ∈ (tasks.after delay task).pending ↔ waiting = (tasks.now + delay, task) ∨ waiting ∈ tasks.pending :=
  mem_insert ..

theorem insert_last (deadline : ℕ) (task : Task) (pending : List (ℕ × Task))
    (latest : ∀ waiting ∈ pending, waiting.1 ≤ deadline) :
    insert deadline task pending = pending ++ [(deadline, task)] := by
  induction pending with
  | nil => rfl
  | cons first rest ih =>
      rw [insert, if_neg (Nat.not_lt.mpr (latest first List.mem_cons_self)),
        ih fun waiting member => latest waiting (List.mem_cons_of_mem _ member)]
      rfl

theorem after_last (tasks : Delayed Task) (delay : ℕ) (task : Task)
    (latest : ∀ waiting ∈ tasks.pending, waiting.1 ≤ tasks.now + delay) :
    (tasks.after delay task).pending = tasks.pending ++ [(tasks.now + delay, task)] :=
  insert_last _ task _ latest

end Delayed

end Pets
