import Mathlib.Data.List.Basic
import Mathlib.Data.List.Forall2
import Mathlib.Data.List.Induction

set_option autoImplicit false

namespace Pets.Transition

variable {State Event Output : Type*}

-- A step that answers none has trapped: the process is gone and no later
-- event of the list reaches it.
def run (step : State → Event → Option State) (start : State) : List Event → Option State
  | [] => some start
  | event :: rest => (step start event).bind (fun next => run step next rest)

theorem run_append (step : State → Event → Option State) (start : State) (before after : List Event) :
    run step start (before ++ after) = (run step start before).bind (fun state => run step state after) := by
  induction before generalizing start with
  | nil => rfl
  | cons event rest ih =>
      cases moved : step start event with
      | none => simp [run, moved]
      | some next => simpa [run, moved] using ih next

theorem run_snoc (step : State → Event → Option State) (start : State) (before : List Event) (event : Event) :
    run step start (before ++ [event]) = (run step start before).bind (fun state => step state event) := by
  rw [run_append]
  cases run step start before with
  | none => rfl
  | some state => simp [run]

theorem run_snoc_some (step : State → Event → Option State) (start final : State) (before : List Event)
    (event : Event) (ran : run step start (before ++ [event]) = some final) :
    ∃ state, run step start before = some state ∧ step state event = some final := by
  rw [run_snoc] at ran
  exact Option.bind_eq_some_iff.mp ran

-- The rule every run result below rests on: what holds of the empty history
-- and survives one step holds of every history and the state it leads to.
theorem run_invariant (step : State → Event → Option State) (start : State)
    (invariant : List Event → State → Prop) (initial : invariant [] start)
    (keep : ∀ before state event next, invariant before state → step state event = some next →
      invariant (before ++ [event]) next)
    (events : List Event) (final : State) (ran : run step start events = some final) :
    invariant events final := by
  induction events using List.reverseRecOn generalizing final with
  | nil =>
      cases ran
      exact initial
  | append_singleton before event ih =>
      obtain ⟨state, reached, moved⟩ := run_snoc_some step start final before event ran
      exact keep before state event final (ih state reached) moved

-- Every event of the run is taken in a state, and after a history, of which
-- the property holds.
def Along (step : State → Event → Option State) (start : State)
    (property : List Event → State → Event → Prop) (events : List Event) : Prop :=
  ∀ before event after state, events = before ++ event :: after → run step start before = some state →
    property before state event

def Always (step : State → Event → Option State) (start : State)
    (property : List Event → State → Prop) (events : List Event) : Prop :=
  ∀ before after state, events = before ++ after → run step start before = some state → property before state

theorem along_cons (step : State → Event → Option State) (start : State) (property : State → Event → Prop)
    (event : Event) (rest : List Event) :
    Along step start (fun _ => property) (event :: rest) ↔
      property start event ∧ ∀ next, step start event = some next → Along step next (fun _ => property) rest := by
  constructor
  · intro holds
    refine ⟨holds [] event rest start rfl rfl, ?_⟩
    intro next moved before later after state split reached
    exact holds (event :: before) later after state (by rw [split]; rfl) (by simpa [run, moved] using reached)
  · intro ⟨first, later⟩ before other after state split reached
    cases before with
    | nil =>
        cases reached
        cases split
        exact first
    | cons head before =>
        cases split
        obtain ⟨next, moved, remaining⟩ := Option.bind_eq_some_iff.mp reached
        exact later next moved before other after state rfl remaining

theorem run_survives_iff (step : State → Event → Option State) (start : State) (events : List Event) :
    (run step start events).isSome ↔ Along step start (fun _ state event => (step state event).isSome) events := by
  induction events generalizing start with
  | nil =>
      refine ⟨?_, fun _ => rfl⟩
      intro _ before event after state split
      exact absurd split (by simp)
  | cons event rest ih =>
      rw [along_cons step start (fun state event => (step state event).isSome)]
      cases moved : step start event with
      | none => simp [run, moved]
      | some next => simpa [run, moved] using ih next

theorem run_survives_events_iff (step : State → Event → Option State) (good : Event → Prop)
    (decided : ∀ state event, (step state event).isSome ↔ good event) (start : State) (events : List Event) :
    (run step start events).isSome ↔ ∀ event ∈ events, good event := by
  induction events generalizing start with
  | nil => exact iff_of_true rfl fun _ impossible => (List.not_mem_nil impossible).elim
  | cons event rest ih =>
      rw [List.forall_mem_cons, ← decided start event]
      cases moved : step start event with
      | none => simp [run, moved]
      | some next => simpa [run, moved] using ih next

theorem run_total (step : State → Event → Option State) (total : ∀ state event, (step state event).isSome)
    (start : State) (events : List Event) : (run step start events).isSome :=
  (run_survives_iff step start events).mpr (fun _ event _ state _ _ => total state event)

theorem run_exchanged (step : State → Event → Option State) (alike : Event → Event → Prop)
    (same : ∀ state left right, alike left right → step state left = step state right) (left right : List Event)
    (aligned : List.Forall₂ alike left right) (start : State) : run step start left = run step start right := by
  induction aligned generalizing start with
  | nil => rfl
  | cons first _ ih =>
      rw [run, run, same start _ _ first]
      congr 1
      funext next
      exact ih next

theorem split_snoc (events before after : List Event) (last event : Event)
    (split : events ++ [last] = before ++ event :: after) :
    (after = [] ∧ events = before ∧ last = event) ∨ ∃ rest, after = rest ++ [last] ∧ events = before ++ event :: rest := by
  rcases List.eq_nil_or_concat' after with rfl | ⟨rest, final, rfl⟩
  · have ends := List.append_inj' split rfl
    exact Or.inl ⟨rfl, ends.1, List.cons.inj ends.2 |>.1⟩
  · have ends := List.append_inj' (split.trans (by simp : _ = (before ++ event :: rest) ++ [final])) rfl
    exact Or.inr ⟨rest, by rw [(List.cons.inj ends.2).1], ends.1⟩

theorem along_snoc (step : State → Event → Option State) (start : State)
    (property : List Event → State → Event → Prop) (events : List Event) (last : Event) :
    Along step start property (events ++ [last]) ↔
      Along step start property events ∧ ∀ state, run step start events = some state → property events state last := by
  constructor
  · intro holds
    refine ⟨?_, fun state reached => holds events last [] state rfl reached⟩
    intro before event after state split reached
    exact holds before event (after ++ [last]) state (by rw [split]; simp) reached
  · intro ⟨earlier, final⟩ before event after state split reached
    rcases split_snoc events before after last event split with ⟨_, rfl, rfl⟩ | ⟨rest, _, inside⟩
    · exact final state reached
    · exact earlier before event rest state inside reached

theorem always_snoc (step : State → Event → Option State) (start : State)
    (property : List Event → State → Prop) (events : List Event) (last : Event) :
    Always step start property (events ++ [last]) ↔ Always step start property events ∧
      ∀ state, run step start (events ++ [last]) = some state → property (events ++ [last]) state := by
  constructor
  · intro holds
    refine ⟨?_, fun state reached => holds (events ++ [last]) [] state (by simp) reached⟩
    intro before after state split reached
    exact holds before (after ++ [last]) state (by rw [split]; simp) reached
  · intro ⟨earlier, final⟩ before after state split reached
    cases after with
    | nil =>
        rw [List.append_nil] at split
        subst split
        exact final state reached
    | cons event rest =>
        rcases split_snoc events before rest last event split with ⟨_, rfl, _⟩ | ⟨inner, _, inside⟩
        · exact earlier events [] state (by simp) reached
        · exact earlier before (event :: inner) state inside reached

theorem along_prefix (step : State → Event → Option State) (start : State)
    (property : List Event → State → Event → Prop) (first rest : List Event)
    (holds : Along step start property (first ++ rest)) : Along step start property first := by
  intro before event after state split reached
  exact holds before event (after ++ rest) state (by rw [split]; simp) reached

-- The run invariant again, for one list of events: what is known of the whole
-- list may be used at each of its steps.
theorem always_from_steps (step : State → Event → Option State) (start : State)
    (good : List Event → State → Prop) (events : List Event) (initial : good [] start)
    (keep : ∀ before event after state next, events = before ++ event :: after →
      run step start before = some state → step state event = some next → good before state →
      good (before ++ [event]) next) : Always step start good events := by
  intro before after state split reached
  induction before using List.reverseRecOn generalizing after state with
  | nil =>
      cases reached
      exact initial
  | append_singleton before event ih =>
      obtain ⟨middle, earlier, moved⟩ := run_snoc_some step start state before event reached
      have resplit : events = before ++ event :: after := by
        rw [split, List.append_assoc]
        rfl
      exact keep before event after middle state resplit earlier moved (ih (event :: after) middle resplit earlier)

theorem always_next (step : State → Event → Option State) (start : State) (good : List Event → State → Prop)
    (events : List Event) (holds : Always step start good events) (before after : List Event) (event : Event)
    (state next : State) (split : events = before ++ event :: after)
    (reached : run step start before = some state) (moved : step state event = some next) :
    good (before ++ [event]) next := by
  apply holds (before ++ [event]) after next
  · rw [split, List.append_assoc]
    rfl
  · rw [run_snoc, reached]
    exact moved

section Rules

variable (step : State → Event → Option State) (start : State) (invariant : List Event → State → Prop)

theorem along_congr (initial : invariant [] start)
    (keep : ∀ before state event next, invariant before state → step state event = some next →
      invariant (before ++ [event]) next)
    (left right : List Event → State → Event → Prop)
    (same : ∀ before state event, invariant before state → (left before state event ↔ right before state event))
    (events : List Event) : Along step start left events ↔ Along step start right events := by
  constructor
  · intro holds before event after state split reached
    have inv := run_invariant step start invariant initial keep before state reached
    exact (same before state event inv).mp (holds before event after state split reached)
  · intro holds before event after state split reached
    have inv := run_invariant step start invariant initial keep before state reached
    exact (same before state event inv).mpr (holds before event after state split reached)

theorem always_congr (initial : invariant [] start)
    (keep : ∀ before state event next, invariant before state → step state event = some next →
      invariant (before ++ [event]) next)
    (left right : List Event → State → Prop)
    (same : ∀ before state, invariant before state → (left before state ↔ right before state))
    (events : List Event) : Always step start left events ↔ Always step start right events := by
  constructor
  · intro holds before after state split reached
    have inv := run_invariant step start invariant initial keep before state reached
    exact (same before state inv).mp (holds before after state split reached)
  · intro holds before after state split reached
    have inv := run_invariant step start invariant initial keep before state reached
    exact (same before state inv).mpr (holds before after state split reached)

end Rules

def recorded {Record : Type*} (step : State → Event → Option State) (note : State → Event → Record → Record)
    (state : State) (record : Record) : List Event → Record
  | [] => record
  | event :: rest =>
      match step state event with
      | none => record
      | some next => recorded step note next (note state event record) rest

theorem recorded_snoc {Record : Type*} (step : State → Event → Option State)
    (note : State → Event → Record → Record) (start state next : State) (record : Record) (before : List Event)
    (event : Event) (reached : run step start before = some state) (moved : step state event = some next) :
    recorded step note start record (before ++ [event]) = note state event (recorded step note start record before) := by
  induction before generalizing start record with
  | nil =>
      cases reached
      simp only [List.nil_append, recorded, moved]
  | cons first rest ih =>
      obtain ⟨middle, stepped, remaining⟩ := Option.bind_eq_some_iff.mp reached
      simp only [List.cons_append, recorded, stepped]
      exact ih middle (note start first record) remaining

theorem rel_some {Other : Type*} (related : State → Other → Prop) (state : Option State) (other : Other)
    (relation : Option.Rel related state (some other)) : ∃ value, state = some value ∧ related value other := by
  cases relation with
  | some holds => exact ⟨_, rfl, holds⟩

theorem rel_none {Other : Type*} (related : State → Other → Prop) (state : Option State)
    (relation : Option.Rel related state none) : state = none := by
  cases relation
  rfl

theorem rel_mono {Other : Type*} (strong weak : State → Other → Prop) (weaker : ∀ a b, strong a b → weak a b)
    (state : Option State) (other : Option Other) (relation : Option.Rel strong state other) :
    Option.Rel weak state other := by
  cases relation with
  | none => exact Option.Rel.none
  | some holds => exact Option.Rel.some (weaker _ _ holds)

theorem rel_unique {Other : Type*} (related : State → Other → Prop)
    (unique : ∀ state left right, related state left → related state right → left = right) (state : Option State)
    (left right : Option Other) (first : Option.Rel related state left) (second : Option.Rel related state right) :
    left = right := by
  cases first with
  | none =>
      cases second
      rfl
  | some one =>
      cases second with
      | some two => rw [unique _ _ _ one two]

theorem run_simulated {Other : Type*} (left : State → Event → Option State) (right : Other → Event → Option Other)
    (related : State → Other → Prop)
    (matched : ∀ state other event, related state other → Option.Rel related (left state event) (right other event))
    (state : State) (other : Other) (initial : related state other) (events : List Event) :
    Option.Rel related (run left state events) (run right other events) := by
  induction events generalizing state other with
  | nil => exact Option.Rel.some initial
  | cons event rest ih =>
      rw [run, run]
      generalize left state event = a, right other event = b, matched state other event initial = moved
      cases moved with
      | none => exact Option.Rel.none
      | some stays => exact ih _ _ stays

def tally (step : State → Event → Option State) (counted : State → Event → Bool) (start : State) : List Event → ℕ
  | [] => 0
  | event :: rest =>
      (counted start event).toNat +
        match step start event with
        | some next => tally step counted next rest
        | none => 0

theorem tally_snoc (step : State → Event → Option State) (counted : State → Event → Bool) (start state : State)
    (before : List Event) (event : Event) (reached : run step start before = some state) :
    tally step counted start (before ++ [event]) =
      tally step counted start before + (counted state event).toNat := by
  induction before generalizing start with
  | nil =>
      cases reached
      rw [List.nil_append, tally, tally, Nat.zero_add]
      cases step state event with
      | none => rfl
      | some next => rfl
  | cons first rest ih =>
      obtain ⟨next, moved, remaining⟩ := Option.bind_eq_some_iff.mp reached
      rw [List.cons_append, tally, tally, moved]
      simp only [ih next remaining, Nat.add_assoc]

-- Where every step that does not lead home leads to a lower rank, no run
-- stays away from home for longer than the rank it starts at.
theorem ranked_returns (step : State → Event → Option State) (home : State) (rank : State → ℕ)
    (descends : ∀ state event next, step state event = some next → next = home ∨ rank next < rank state)
    (start final : State) (events : List Event) (ran : run step start events = some final)
    (long : rank start < events.length) :
    ∃ before after, events = before ++ after ∧ before ≠ [] ∧ before.length ≤ rank start + 1 ∧
      run step start before = some home := by
  induction events generalizing start with
  | nil => exact absurd long (Nat.not_lt_zero _)
  | cons event rest ih =>
      obtain ⟨next, moved, remaining⟩ := Option.bind_eq_some_iff.mp ran
      rcases descends start event next moved with rfl | lower
      · refine ⟨[event], rest, rfl, List.cons_ne_nil _ _, by simp, ?_⟩
        simp [run, moved]
      · have enough : rank next < rest.length := by
          rw [List.length_cons] at long
          omega
        obtain ⟨before, after, rfl, _, short, home⟩ := ih next remaining enough
        refine ⟨event :: before, after, rfl, List.cons_ne_nil _ _, ?_, ?_⟩
        · rw [List.length_cons]
          omega
        · rw [run, moved]
          exact home

end Pets.Transition
