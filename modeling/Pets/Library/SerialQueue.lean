import Mathlib.Data.List.Basic

set_option autoImplicit false

namespace Pets

-- A FIFO queue that performs one task at a time over a shared state. The
-- performed list is history: it is what the tasks did, not something they read.
structure SerialQueue (State Task : Type*) where
  state : State
  pending : List Task
  performed : List Task
deriving DecidableEq

namespace SerialQueue

variable {State Task : Type*}

def start (state : State) : SerialQueue State Task := ⟨state, [], []⟩

def post (queue : SerialQueue State Task) (task : Task) : SerialQueue State Task :=
  { queue with pending := queue.pending ++ [task] }

-- One turn performs the oldest pending task; the tasks it posts go to the back.
def turn (perform : State → Task → Option (State × List Task)) (queue : SerialQueue State Task) :
    Option (SerialQueue State Task) :=
  match queue.pending with
  | [] => some queue
  | task :: rest =>
      (perform queue.state task).map fun result => ⟨result.1, rest ++ result.2, queue.performed ++ [task]⟩

def Drained (queue : SerialQueue State Task) : Prop := queue.pending = []

theorem mem_post_pending (queue : SerialQueue State Task) (task other : Task) :
    other ∈ (queue.post task).pending ↔ other ∈ queue.pending ∨ other = task := by
  simp [post]

theorem turn_cases (perform : State → Task → Option (State × List Task)) (queue next : SerialQueue State Task)
    (turned : queue.turn perform = some next) :
    (queue.pending = [] ∧ next = queue) ∨
      ∃ task rest state posted, queue.pending = task :: rest ∧
        perform queue.state task = some (state, posted) ∧
        next = ⟨state, rest ++ posted, queue.performed ++ [task]⟩ := by
  cases pending : queue.pending with
  | nil =>
      simp only [turn, pending] at turned
      exact Or.inl ⟨rfl, (Option.some.inj turned).symm⟩
  | cons task rest =>
      simp only [turn, pending] at turned
      obtain ⟨⟨state, posted⟩, done, built⟩ := Option.map_eq_some_iff.mp turned
      exact Or.inr ⟨task, rest, state, posted, rfl, done, built.symm⟩

theorem turn_front (perform : State → Task → Option (State × List Task)) (queue next : SerialQueue State Task)
    (turned : queue.turn perform = some next) (task : Task) (rest : List Task) (pending : queue.pending = task :: rest) :
    next.performed = queue.performed ++ [task] ∧ ∃ posted, next.pending = rest ++ posted := by
  rcases turn_cases perform queue next turned with ⟨idle, _⟩ | ⟨first, later, _, posted, head, _, rfl⟩
  · cases idle.symm.trans pending
  · cases head.symm.trans pending
    exact ⟨rfl, posted, rfl⟩

end SerialQueue

end Pets
