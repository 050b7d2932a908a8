import Pets.Library.Session
import Pets.Library.Transition

set_option autoImplicit false

namespace Pets

/- An account of the responses that is kept apart from the session: what the completions
   brought, in their order, and how much of it has had its turn of the main queue. -/
structure Ledger (Response : Type*) where
  waiting : List (ℕ × Response)
  delivered : List (ℕ × Response)

namespace Ledger

variable {Response : Type*}

def empty : Ledger Response := ⟨[], []⟩

def record (ledger : Ledger Response) (turning : Bool) (brought : Option (ℕ × Response)) : Ledger Response :=
  if turning then
    match ledger.waiting with
    | [] => ledger
    | update :: rest => ⟨rest, ledger.delivered ++ [update]⟩
  else { ledger with waiting := ledger.waiting ++ brought.toList }

def arrived (ledger : Ledger Response) : List (ℕ × Response) := ledger.delivered ++ ledger.waiting

def InOrder (ledger : Ledger Response) : Prop := (ledger.delivered.map Prod.fst).Pairwise (· < ·)

end Ledger

namespace Session

variable {Response : Type*}

def account (session : Session Response) : Ledger Response := ⟨session.queue.pending, session.performed⟩

theorem moves_recorded (session next : Session Response) (turning : Bool) (brought : Option (ℕ × Response))
    (moved : session.Moves turning brought next) : next.account = session.account.record turning brought := by
  cases moved with
  | stays => exact congrArg (Ledger.mk · session.performed) (List.append_nil _).symm
  | issues => exact congrArg (Ledger.mk · session.performed) (List.append_nil _).symm
  | answers request response _ =>
      cases response with
      | none => exact congrArg (Ledger.mk · session.performed) (List.append_nil _).symm
      | some written => rfl
  | turns _ turned =>
      rcases turn_cases session next turned with ⟨idle, rfl⟩ | ⟨update, rest, head, rfl⟩
      · simp only [Ledger.record, account, idle, if_true]
      · simp only [Ledger.record, account, head, if_true]
        rfl

end Session

/- A program that sends requests and shows what they bring. brought is what its source makes
   of an event, and moves is the proof that the session is told of nothing else. -/
structure Client (State Event Response : Type*) where
  step : State → Event → Option State
  launched : State
  requests : State → Session Response
  turning : Event → Bool
  brought : State → Event → Option (ℕ × Response)
  initial : requests launched = Session.start
  moves : ∀ state event next, step state event = some next →
    (requests state).Moves (turning event) (brought state event) (requests next)

namespace Client

open Pets.Transition

variable {State Event Response View : Type*} (client : Client State Event Response)

def ledger (history : List Event) : Ledger Response :=
  recorded client.step (fun state event ledger => ledger.record (client.turning event) (client.brought state event))
    client.launched Ledger.empty history

def DeliversInOrder (history : List Event) (_ : State) : Prop := (client.ledger history).InOrder

def NeverReplacedByOlder (_ : List Event) (state : State) (event : Event) : Prop :=
  ∀ next, client.step state event = some next → (client.requests state).NeverOlder (client.requests next)

def ShowsLatest (screen : State → View) (blank : View) (render : Response → View) (history : List Event)
    (state : State) : Prop :=
  ((client.ledger history).delivered = [] ∧ screen state = blank) ∨
    ∃ latest ∈ (client.ledger history).delivered,
      (∀ other ∈ (client.ledger history).delivered, other.1 ≤ latest.1) ∧ screen state = render latest.2

theorem ledger_snoc (before : List Event) (event : Event) (state next : State)
    (reached : run client.step client.launched before = some state) (moved : client.step state event = some next) :
    client.ledger (before ++ [event]) =
      (client.ledger before).record (client.turning event) (client.brought state event) :=
  recorded_snoc client.step _ client.launched state next Ledger.empty before event reached moved

structure Kept (history : List Event) (state : State) : Prop where
  sound : (client.requests state).Sound
  accounted : (client.requests state).account = client.ledger history

theorem launched_kept : client.Kept [] client.launched := by
  refine ⟨?_, ?_⟩
  · rw [client.initial]
    exact Session.start_sound
  · rw [client.initial]
    rfl

theorem run_kept (history : List Event) (state : State)
    (reached : run client.step client.launched history = some state) : client.Kept history state := by
  induction history using List.reverseRecOn generalizing state with
  | nil =>
      cases reached
      exact client.launched_kept
  | append_singleton before event ih =>
      obtain ⟨middle, earlier, moved⟩ := run_snoc_some client.step client.launched state before event reached
      have kept := ih middle earlier
      have moves := client.moves middle event state moved
      refine ⟨Session.moves_sound _ _ _ _ kept.sound moves, ?_⟩
      rw [Session.moves_recorded _ _ _ _ moves, kept.accounted, client.ledger_snoc before event middle state earlier moved]

theorem kept_delivered (history : List Event) (state : State) (kept : client.Kept history state) :
    (client.ledger history).delivered = (client.requests state).performed :=
  congrArg Ledger.delivered kept.accounted.symm

theorem kept_ordered_iff (history : List Event) (state : State) (kept : client.Kept history state) :
    client.DeliversInOrder history state ↔ (client.requests state).Ordered := by
  rw [DeliversInOrder, Ledger.InOrder, client.kept_delivered history state kept]
  rfl

theorem never_replaced_iff (events : List Event) :
    Along client.step client.launched client.NeverReplacedByOlder events ↔
      Always client.step client.launched client.DeliversInOrder events := by
  constructor
  · intro newer
    apply always_from_steps client.step client.launched client.DeliversInOrder events
    · exact List.Pairwise.nil
    · intro before event after state next split reached moved inOrder
      have kept := client.run_kept before state reached
      have keptNext := client.run_kept (before ++ [event]) next (by rw [run_snoc, reached]; exact moved)
      rw [client.kept_ordered_iff before state kept] at inOrder
      rw [client.kept_ordered_iff (before ++ [event]) next keptNext]
      exact Session.never_older_ordered _ _ _ _ kept.sound keptNext.sound (client.moves state event next moved) inOrder
        (newer before event after state split reached next moved)
  · intro inOrder before event after state split reached next moved
    have kept := client.run_kept before state reached
    have keptNext := client.run_kept (before ++ [event]) next (by rw [run_snoc, reached]; exact moved)
    have ordered := always_next _ _ _ events inOrder before after event state next split reached moved
    rw [client.kept_ordered_iff (before ++ [event]) next keptNext] at ordered
    exact Session.ordered_never_older _ _ _ _ kept.sound (client.moves state event next moved) ordered

theorem in_order_shows_latest (screen : State → View) (blank : View) (render : Response → View)
    (history : List Event) (state : State) (reached : run client.step client.launched history = some state)
    (rendered : screen state = ((client.requests state).shown.map fun shown => render shown.2).getD blank)
    (inOrder : client.DeliversInOrder history state) : client.ShowsLatest screen blank render history state := by
  have kept := client.run_kept history state reached
  rw [client.kept_ordered_iff history state kept] at inOrder
  rw [ShowsLatest, client.kept_delivered history state kept]
  cases written : (client.requests state).shown with
  | none =>
      rw [written] at rendered
      exact Or.inl ⟨List.getLast?_eq_none_iff.mp (kept.sound.last.symm.trans written), rendered⟩
  | some shown =>
      rw [written] at rendered
      exact Or.inr ⟨shown, List.mem_of_getLast? (kept.sound.last.symm.trans written),
        Session.last_is_greatest _ kept.sound inOrder shown written, rendered⟩

theorem shows_latest_iff (screen : State → View) (blank : View) (render : Response → View)
    (rendered : ∀ history state, run client.step client.launched history = some state →
      screen state = ((client.requests state).shown.map fun shown => render shown.2).getD blank)
    (events : List Event) :
    (Always client.step client.launched (client.ShowsLatest screen blank render) events ∧
        Along client.step client.launched client.NeverReplacedByOlder events) ↔
      Always client.step client.launched client.DeliversInOrder events := by
  rw [client.never_replaced_iff events]
  refine ⟨And.right, fun inOrder => ⟨?_, inOrder⟩⟩
  intro before after state split reached
  exact client.in_order_shows_latest screen blank render before state reached (rendered before state reached)
    (inOrder before after state split reached)

theorem overwritten (events : List Event) (event : Event) (newer older : ℕ)
    (before : (run client.step client.launched events).map (fun state => (client.requests state).shown.map Prod.fst) =
      some (some newer))
    (after : (run client.step client.launched (events ++ [event])).map
      (fun state => (client.requests state).shown.map Prod.fst) = some (some older)) (less : older < newer) :
    ¬ Along client.step client.launched client.NeverReplacedByOlder (events ++ [event]) := by
  intro kept
  obtain ⟨state, reached, shownBefore⟩ := Option.map_eq_some_iff.mp before
  obtain ⟨next, reachedNext, shownAfter⟩ := Option.map_eq_some_iff.mp after
  obtain ⟨shown, isShown, rfl⟩ := Option.map_eq_some_iff.mp shownBefore
  obtain ⟨later, isLater, rfl⟩ := Option.map_eq_some_iff.mp shownAfter
  rw [run_snoc, reached] at reachedNext
  exact kept events event [] state rfl reached next reachedNext shown isShown later isLater less

end Client

end Pets
