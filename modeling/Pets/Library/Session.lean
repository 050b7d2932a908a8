import Pets.Library.Lists
import Pets.Library.SerialQueue

set_option autoImplicit false

namespace Pets

-- Requests that overlap, numbered in the order of issue. Each is answered once,
-- in any order; a response goes through the main queue to one place that shows
-- the response written last.
structure Session (Response : Type*) where
  issued : ℕ
  answered : List ℕ
  queue : SerialQueue (Option (ℕ × Response)) (ℕ × Response)
deriving DecidableEq

namespace Session

open Pets.Lists

variable {Response : Type*}

def start : Session Response := ⟨0, [], SerialQueue.start none⟩

def shown (session : Session Response) : Option (ℕ × Response) := session.queue.state

def performed (session : Session Response) : List (ℕ × Response) := session.queue.performed

def issue (session : Session Response) : Session Response := { session with issued := session.issued + 1 }

def Outstanding (session : Session Response) (request : ℕ) : Prop :=
  request < session.issued ∧ request ∉ session.answered

instance (session : Session Response) (request : ℕ) : Decidable (session.Outstanding request) :=
  inferInstanceAs (Decidable (_ ∧ _))

def answer (session : Session Response) (request : ℕ) : Option Response → Session Response
  | some response =>
      { session with
        answered := session.answered ++ [request]
        queue := session.queue.post (request, response) }
  | none => { session with answered := session.answered ++ [request] }

def write (_ : Option (ℕ × Response)) (update : ℕ × Response) :
    Option (Option (ℕ × Response) × List (ℕ × Response)) := some (some update, [])

def turn (session : Session Response) : Option (Session Response) :=
  (session.queue.turn write).map fun queue => { session with queue }

/- The moves of a program that leaves the session to these operations, told apart by
   whether the main queue turns and by the response that the move brought, if it did. -/
inductive Moves (session : Session Response) : Bool → Option (ℕ × Response) → Session Response → Prop where
  | stays : Moves session false none session
  | issues : Moves session false none session.issue
  | answers (request : ℕ) (response : Option Response) (outstanding : session.Outstanding request) :
      Moves session false (response.map fun written => (request, written)) (session.answer request response)
  | turns (next : Session Response) (turned : session.turn = some next) : Moves session true none next

structure Sound (session : Session Response) : Prop where
  last : session.shown = session.performed.getLast?
  arrived : ∀ update ∈ session.performed ++ session.queue.pending, update.1 ∈ session.answered
  distinct : ((session.performed ++ session.queue.pending).map Prod.fst).Nodup
  known : ∀ request ∈ session.answered, request < session.issued

def Ordered (session : Session Response) : Prop := (session.performed.map Prod.fst).Pairwise (· < ·)

def NeverOlder (session next : Session Response) : Prop :=
  ∀ shown ∈ session.shown, ∀ later ∈ next.shown, ¬ later.1 < shown.1

theorem answer_shown (session : Session Response) (request : ℕ) (response : Option Response) :
    (session.answer request response).shown = session.shown := by
  cases response <;> rfl

theorem answer_issued (session : Session Response) (request : ℕ) (response : Option Response) :
    (session.answer request response).issued = session.issued := by
  cases response <;> rfl

theorem start_sound : (start : Session Response).Sound := by
  refine ⟨rfl, ?_, List.nodup_nil, ?_⟩
  · intro update impossible
    cases impossible
  · intro request impossible
    cases impossible

theorem turn_cases (session next : Session Response) (turned : session.turn = some next) :
    (session.queue.pending = [] ∧ next = session) ∨ ∃ update rest, session.queue.pending = update :: rest ∧
      next = { session with queue := ⟨some update, rest, session.performed ++ [update]⟩ } := by
  obtain ⟨queue, moved, rfl⟩ := Option.map_eq_some_iff.mp turned
  rcases SerialQueue.turn_cases write session.queue queue moved with
    ⟨idle, rfl⟩ | ⟨update, rest, state, posted, head, written, rfl⟩
  · exact Or.inl ⟨idle, rfl⟩
  · cases written
    exact Or.inr ⟨update, rest, head, by rw [List.append_nil]; rfl⟩

theorem turn_issued (session next : Session Response) (turned : session.turn = some next) :
    next.issued = session.issued := by
  obtain ⟨_, _, rfl⟩ := Option.map_eq_some_iff.mp turned
  rfl

theorem turn_survives (session : Session Response) : ∃ next, session.turn = some next := by
  cases pending : session.queue.pending with
  | nil => exact ⟨session, by rw [turn, SerialQueue.turn, pending]; rfl⟩
  | cons update rest => exact ⟨_, by rw [turn, SerialQueue.turn, pending]; rfl⟩

theorem answer_sound (session : Session Response) (request : ℕ) (response : Option Response)
    (outstanding : session.Outstanding request) (inv : session.Sound) : (session.answer request response).Sound := by
  have known : ∀ other ∈ session.answered ++ [request], other < session.issued := by
    intro other member
    rcases List.mem_append.mp member with earlier | now
    · exact inv.known other earlier
    · rw [List.mem_singleton.mp now]
      exact outstanding.1
  cases response with
  | none =>
      exact ⟨inv.last, fun update member => List.mem_append_left _ (inv.arrived update member), inv.distinct, known⟩
  | some response =>
      have unanswered : request ∉ (session.performed ++ session.queue.pending).map Prod.fst := by
        intro used
        obtain ⟨update, member, same⟩ := List.mem_map.mp used
        exact outstanding.2 (same ▸ inv.arrived update member)
      have grown : (session.answer request (some response)).performed ++
          (session.answer request (some response)).queue.pending =
            (session.performed ++ session.queue.pending) ++ [(request, response)] := (List.append_assoc ..).symm
      refine ⟨inv.last, ?_, ?_, known⟩
      · intro update member
        rw [grown] at member
        rcases List.mem_append.mp member with earlier | now
        · exact List.mem_append_left _ (inv.arrived update earlier)
        · rw [List.mem_singleton.mp now]
          exact List.mem_append_right _ (List.mem_singleton_self _)
      · rw [grown, List.map_append, List.map_singleton]
        exact nodup_snoc _ _ inv.distinct unanswered

theorem turn_sound (session next : Session Response) (inv : session.Sound) (turned : session.turn = some next) :
    next.Sound := by
  rcases turn_cases session next turned with ⟨_, rfl⟩ | ⟨update, rest, head, rfl⟩
  · exact inv
  · have same : (session.performed ++ [update]) ++ rest = session.performed ++ session.queue.pending := by
      rw [head, List.append_assoc]
      rfl
    refine ⟨List.getLast?_concat.symm, ?_, ?_, inv.known⟩
    · intro other member
      exact inv.arrived other (same ▸ member)
    · exact (congrArg (fun updates => (updates.map Prod.fst).Nodup) same).mpr inv.distinct

theorem moves_sound (session next : Session Response) (turning : Bool) (brought : Option (ℕ × Response))
    (inv : session.Sound) (moved : session.Moves turning brought next) : next.Sound := by
  cases moved with
  | stays => exact inv
  | issues =>
      exact ⟨inv.last, inv.arrived, inv.distinct, fun request known => Nat.lt_succ_of_lt (inv.known request known)⟩
  | answers request response outstanding => exact answer_sound session request response outstanding inv
  | turns _ turned => exact turn_sound session next inv turned

theorem moves_cases (session next : Session Response) (turning : Bool) (brought : Option (ℕ × Response))
    (moved : session.Moves turning brought next) :
    (next.performed = session.performed ∧ next.shown = session.shown) ∨
      ∃ update, turning = true ∧ next.performed = session.performed ++ [update] ∧ next.shown = some update := by
  cases moved with
  | stays => exact Or.inl ⟨rfl, rfl⟩
  | issues => exact Or.inl ⟨rfl, rfl⟩
  | answers request response _ => cases response <;> exact Or.inl ⟨rfl, rfl⟩
  | turns _ turned =>
      rcases turn_cases session next turned with ⟨_, rfl⟩ | ⟨update, rest, _, rfl⟩
      · exact Or.inl ⟨rfl, rfl⟩
      · exact Or.inr ⟨update, rfl, rfl, rfl⟩

theorem quiet_shown (session next : Session Response) (brought : Option (ℕ × Response))
    (moved : session.Moves false brought next) : next.shown = session.shown := by
  rcases moves_cases session next false brought moved with ⟨_, same⟩ | ⟨_, turning, _⟩
  · exact same
  · exact absurd turning Bool.false_ne_true

theorem performed_distinct (session : Session Response) (inv : session.Sound) :
    (session.performed.map Prod.fst).Nodup := by
  have distinct := inv.distinct
  rw [List.map_append] at distinct
  exact distinct.of_append_left

theorem ordered_snoc (session next : Session Response) (update : ℕ × Response)
    (grown : next.performed = session.performed ++ [update]) :
    next.Ordered ↔ session.Ordered ∧ ∀ earlier ∈ session.performed, earlier.1 < update.1 := by
  rw [Ordered, grown, List.map_append, List.map_singleton, List.pairwise_append]
  simp [Ordered]

theorem last_is_greatest (session : Session Response) (inv : session.Sound) (ordered : session.Ordered)
    (shown : ℕ × Response) (last : session.shown = some shown) :
    ∀ update ∈ session.performed, update.1 ≤ shown.1 := by
  obtain ⟨rest, split⟩ := List.getLast?_eq_some_iff.mp (inv.last.symm.trans last)
  rw [Ordered, split, List.map_append, List.pairwise_append] at ordered
  intro update member
  rw [split] at member
  rcases List.mem_append.mp member with earlier | now
  · exact Nat.le_of_lt (ordered.2.2 update.1 (List.mem_map_of_mem earlier) shown.1 (by simp))
  · exact Nat.le_of_eq (congrArg Prod.fst (List.mem_singleton.mp now))

theorem ordered_never_older (session next : Session Response) (turning : Bool) (brought : Option (ℕ × Response))
    (inv : session.Sound) (moved : session.Moves turning brought next) (ordered : next.Ordered) :
    session.NeverOlder next := by
  intro shown before later after
  rcases moves_cases session next turning brought moved with ⟨_, same⟩ | ⟨update, _, grown, written⟩
  · rw [same] at after
    cases Option.mem_unique before after
    exact Nat.lt_irrefl _
  · have newest : later = update := Option.some.inj (after.symm.trans written)
    have member : shown ∈ session.performed := List.mem_of_getLast? (inv.last.symm.trans before)
    rw [newest]
    exact Nat.lt_asymm (((ordered_snoc session next update grown).mp ordered).2 shown member)

theorem never_older_ordered (session next : Session Response) (turning : Bool) (brought : Option (ℕ × Response))
    (inv : session.Sound) (invNext : next.Sound) (moved : session.Moves turning brought next)
    (ordered : session.Ordered) (newer : session.NeverOlder next) : next.Ordered := by
  rcases moves_cases session next turning brought moved with ⟨same, _⟩ | ⟨update, _, grown, written⟩
  · rw [Ordered, same]
    exact ordered
  · refine (ordered_snoc session next update grown).mpr ⟨ordered, ?_⟩
    intro earlier member
    have distinct := performed_distinct next invNext
    rw [grown, List.map_append, List.map_singleton] at distinct
    have different : earlier.1 ≠ update.1 := by
      intro same
      exact (List.nodup_append.mp distinct).2.2 earlier.1 (List.mem_map_of_mem member) update.1 (by simp) same
    cases last : session.shown with
    | none =>
        have none := List.getLast?_eq_none_iff.mp (inv.last.symm.trans last)
        rw [none] at member
        cases member
    | some shown =>
        have bound := last_is_greatest session inv ordered shown last earlier member
        have notOlder := newer shown last update written
        omega

theorem performed_known (session : Session Response) (inv : session.Sound) (update : ℕ × Response)
    (member : update ∈ session.performed) : update.1 < session.issued :=
  inv.known update.1 (inv.arrived update (List.mem_append_left _ member))

theorem ordered_shows_newest (session : Session Response) (inv : session.Sound) (ordered : session.Ordered)
    (last : ℕ × Response) (member : last ∈ session.performed) (newest : last.1 + 1 = session.issued) :
    session.shown = some last := by
  cases written : session.shown with
  | none =>
      rw [List.getLast?_eq_none_iff.mp (inv.last.symm.trans written)] at member
      cases member
  | some shown =>
      have inside := List.mem_of_getLast? (inv.last.symm.trans written)
      have known := performed_known session inv shown inside
      have bound := last_is_greatest session inv ordered shown written last member
      have same : shown.1 = last.1 := by omega
      exact congrArg some (List.inj_on_of_nodup_map (performed_distinct session inv) inside member same)

def Traced (given : ℕ → Response → Prop) (session : Session Response) : Prop :=
  ∀ update ∈ session.performed ++ session.queue.pending, given update.1 update.2

theorem start_traced (given : ℕ → Response → Prop) : (start : Session Response).Traced given :=
  fun _ impossible => (List.not_mem_nil impossible).elim

theorem traced_mono (given more : ℕ → Response → Prop) (weaker : ∀ request response, given request response →
    more request response) (session : Session Response) (traced : session.Traced given) : session.Traced more :=
  fun update member => weaker update.1 update.2 (traced update member)

theorem answer_traced (given : ℕ → Response → Prop) (session : Session Response) (request : ℕ)
    (response : Option Response) (answers : ∀ written, response = some written → given request written)
    (traced : session.Traced given) : (session.answer request response).Traced given := by
  cases response with
  | none => exact traced
  | some written =>
      intro update member
      rcases List.mem_append.mp member with performed | waiting
      · exact traced update (List.mem_append_left _ performed)
      · rcases List.mem_append.mp waiting with before | now
        · exact traced update (List.mem_append_right _ before)
        · rw [List.mem_singleton.mp now]
          exact answers written rfl

theorem turn_traced (given : ℕ → Response → Prop) (session next : Session Response) (traced : session.Traced given)
    (turned : session.turn = some next) : next.Traced given := by
  rcases turn_cases session next turned with ⟨_, rfl⟩ | ⟨update, rest, head, rfl⟩
  · exact traced
  · intro other member
    apply traced other
    rw [head, List.append_cons]
    exact member

theorem traced_shown (given : ℕ → Response → Prop) (session : Session Response) (sound : session.Sound)
    (traced : session.Traced given) (shown : ℕ × Response) (isShown : session.shown = some shown) :
    given shown.1 shown.2 := by
  have member := List.mem_of_getLast? (sound.last.symm.trans isShown)
  exact traced shown (List.mem_append_left _ member)

def Complete (session : Session Response) : Prop :=
  ∀ request ∈ session.answered, request ∈ (session.performed ++ session.queue.pending).map Prod.fst

theorem answer_complete (session : Session Response) (request : ℕ) (response : Response) (complete : session.Complete) :
    (session.answer request (some response)).Complete := by
  intro other member
  have grown : (session.answer request (some response)).performed ++
      (session.answer request (some response)).queue.pending =
        (session.performed ++ session.queue.pending) ++ [(request, response)] := (List.append_assoc ..).symm
  rw [grown, List.map_append]
  rcases List.mem_append.mp member with earlier | now
  · exact List.mem_append_left _ (complete other earlier)
  · rw [List.mem_singleton.mp now]
    exact List.mem_append_right _ (List.mem_singleton_self _)

theorem turn_complete (session next : Session Response) (complete : session.Complete)
    (turned : session.turn = some next) : next.Complete := by
  rcases turn_cases session next turned with ⟨_, rfl⟩ | ⟨update, rest, head, rfl⟩
  · exact complete
  · intro request member
    have written := complete request member
    rw [head, List.append_cons] at written
    exact written

theorem settled_shows_newest (session : Session Response) (sound : session.Sound) (complete : session.Complete)
    (ordered : session.Ordered) (asked : 0 < session.issued)
    (quiet : ∀ request, ¬ session.Outstanding request) (drained : session.queue.Drained) :
    ∃ shown, session.shown = some shown ∧ shown.1 + 1 = session.issued := by
  have answered : session.issued - 1 ∈ session.answered := by
    by_contra unanswered
    exact quiet (session.issued - 1) ⟨by omega, unanswered⟩
  have written := complete _ answered
  have nothingWaits : session.queue.pending = [] := drained
  rw [nothingWaits, List.append_nil] at written
  obtain ⟨update, member, newest⟩ := List.mem_map.mp written
  exact ⟨update, ordered_shows_newest session sound ordered update member (by omega), by omega⟩

end Session

end Pets
