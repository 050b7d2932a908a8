import Pets.Library.Transition
import Pets.Library.SerialQueue
import Pets.FlashChat.Snapshot

set_option autoImplicit false

namespace Pets.FlashChat

open Pets.Transition

inductive WriteStatus where
  | pending
  | acknowledged
  | failed
deriving DecidableEq

inductive FieldChange where
  | edit (text : String)
  | clear
deriving DecidableEq

def FieldChange.result : FieldChange → String
  | .edit text => text
  | .clear => ""

-- One addDocument call. The stamp counts the field changes made before the tap.
structure Send where
  body : String
  sender : String
  date : TimeInterval
  status : WriteStatus
  stamp : Nat
deriving DecidableEq

-- changes is history: no function of the view controller reads it.
structure Composer where
  text : Option String
  sends : List Send
  changes : List FieldChange
deriving DecidableEq

def editText (composer : Composer) (text : String) : Composer :=
  { composer with text := some text, changes := composer.changes ++ [.edit text] }

def sendPressed (composer : Composer) (currentUser : Option String) (now : TimeInterval) : Composer :=
  match composer.text, currentUser with
  | some messageBody, some messageSender =>
      { composer with
        sends := composer.sends ++ [⟨messageBody, messageSender, now, .pending, composer.changes.length⟩] }
  | _, _ => composer

def settle (composer : Composer) (send : Nat) (status : WriteStatus) : Composer :=
  { composer with sends := composer.sends.modify send fun record => { record with status := status } }

def clearField (composer : Composer) : Composer :=
  { composer with text := some "", changes := composer.changes ++ [.clear] }

-- The main queue holds the indices of the sends whose success posted a clear.
abbrev ComposeQueue := SerialQueue Composer Nat

inductive ComposeEvent where
  | edit (text : String)
  | tap (currentUser : Option String) (now : TimeInterval)
  | complete (send : Nat) (error : Option String)
  | turn
deriving DecidableEq

-- A completion handler runs once, so only a pending write can complete.
def completeSend (queue : ComposeQueue) (send : Nat) (error : Option String) : ComposeQueue :=
  if (queue.state.sends[send]?).map Send.status = some .pending then
    match error with
    | some _ => { queue with state := settle queue.state send .failed }
    | none => { queue with state := settle queue.state send .acknowledged }.post send
  else queue

def performClear (composer : Composer) (_ : Nat) : Option (Composer × List Nat) := some (clearField composer, [])

def composeStep (queue : ComposeQueue) : ComposeEvent → Option ComposeQueue
  | .edit text => some { queue with state := editText queue.state text }
  | .tap currentUser now => some { queue with state := sendPressed queue.state currentUser now }
  | .complete send error => some (completeSend queue send error)
  | .turn => queue.turn performClear

def composing : ComposeQueue := SerialQueue.start ⟨some "", [], []⟩

def fieldText (changes : List FieldChange) : String := (changes.getLast?.map FieldChange.result).getD ""

theorem field_text_append (before after : List FieldChange) :
    fieldText (before ++ after) = (after.getLast?.map FieldChange.result).getD (fieldText before) := by
  cases after.eq_nil_or_concat with
  | inl empty => simp [empty, fieldText]
  | inr ending =>
      obtain ⟨rest, change, rfl⟩ := ending
      simp [fieldText]

structure SendInvariant (queue : ComposeQueue) : Prop where
  shown : queue.state.text = some (fieldText queue.state.changes)
  stamped : ∀ (i : Nat) (record : Send), queue.state.sends[i]? = some record →
    record.stamp ≤ queue.state.changes.length ∧ record.body = fieldText (queue.state.changes.take record.stamp)
  ordered : ∀ (i j : Nat) (first second : Send), i < j → queue.state.sends[i]? = some first →
    queue.state.sends[j]? = some second → first.stamp ≤ second.stamp
  queued : ∀ i ∈ queue.pending, ∃ record : Send, queue.state.sends[i]? = some record

theorem composing_invariant : SendInvariant composing := by
  refine ⟨rfl, ?_, ?_, ?_⟩
  · intro i record stored
    cases stored
  · intro i j first second less stored
    cases stored
  · intro i member
    cases member

theorem settle_origin (composer : Composer) (send : Nat) (status : WriteStatus) (i : Nat) (record : Send)
    (stored : (settle composer send status).sends[i]? = some record) :
    ∃ old, composer.sends[i]? = some old ∧ record.body = old.body ∧ record.stamp = old.stamp := by
  simp only [settle, List.getElem?_modify] at stored
  obtain ⟨old, found, rfl⟩ := Option.map_eq_some_iff.mp stored
  refine ⟨old, found, ?_⟩
  split <;> exact ⟨rfl, rfl⟩

theorem settle_invariant (queue : ComposeQueue) (send : Nat) (status : WriteStatus) (inv : SendInvariant queue) :
    SendInvariant { queue with state := settle queue.state send status } := by
  refine ⟨inv.shown, ?_, ?_, ?_⟩
  · intro i record stored
    obtain ⟨old, found, body, stamp⟩ := settle_origin queue.state send status i record stored
    rw [body, stamp]
    exact inv.stamped i old found
  · intro i j first second less storedFirst storedSecond
    obtain ⟨oldFirst, foundFirst, _, stampFirst⟩ := settle_origin queue.state send status i first storedFirst
    obtain ⟨oldSecond, foundSecond, _, stampSecond⟩ := settle_origin queue.state send status j second storedSecond
    rw [stampFirst, stampSecond]
    exact inv.ordered i j oldFirst oldSecond less foundFirst foundSecond
  · intro i member
    obtain ⟨record, stored⟩ := inv.queued i member
    exact ⟨_, by simp only [settle, List.getElem?_modify, stored]; rfl⟩

theorem complete_invariant (queue : ComposeQueue) (send : Nat) (error : Option String) (inv : SendInvariant queue) :
    SendInvariant (completeSend queue send error) := by
  unfold completeSend
  by_cases waiting : (queue.state.sends[send]?).map Send.status = some .pending
  · rw [if_pos waiting]
    cases error with
    | some text => exact settle_invariant queue send .failed inv
    | none =>
        have settled := settle_invariant queue send .acknowledged inv
        refine ⟨settled.shown, settled.stamped, settled.ordered, ?_⟩
        intro i member
        rcases (SerialQueue.mem_post_pending _ _ _).mp member with earlier | rfl
        · exact settled.queued i earlier
        · obtain ⟨old, found, _⟩ := Option.map_eq_some_iff.mp waiting
          exact ⟨_, by simp only [SerialQueue.post, settle, List.getElem?_modify, found]; rfl⟩
  · rw [if_neg waiting]
    exact inv

-- An edit and a clear change the field in the same way: the list of changes
-- grows, and every stamp still points into the part that was there.
theorem change_invariant (queue : ComposeQueue) (pending performed : List Nat) (change : FieldChange)
    (inv : SendInvariant queue) (kept : ∀ i ∈ pending, i ∈ queue.pending) :
    SendInvariant ⟨{ queue.state with text := some change.result, changes := queue.state.changes ++ [change] },
      pending, performed⟩ := by
  refine ⟨?_, ?_, inv.ordered, ?_⟩
  · simp [fieldText]
  · intro i record stored
    obtain ⟨bound, body⟩ := inv.stamped i record stored
    rw [List.length_append, List.take_append_of_le_length bound]
    exact ⟨Nat.le_add_right_of_le bound, body⟩
  · intro i member
    exact inv.queued i (kept i member)

theorem send_pressed_stored (composer : Composer) (currentUser : Option String) (now : TimeInterval) (i : Nat)
    (record : Send) (stored : (sendPressed composer currentUser now).sends[i]? = some record) :
    composer.sends[i]? = some record ∨
      (i = composer.sends.length ∧ composer.text = some record.body ∧ record.stamp = composer.changes.length) := by
  cases typed : composer.text with
  | none => exact Or.inl (by simpa [sendPressed, typed] using stored)
  | some messageBody =>
      cases currentUser with
      | none => exact Or.inl (by simpa [sendPressed, typed] using stored)
      | some messageSender =>
          simp only [sendPressed, typed] at stored
          rw [List.getElem?_append] at stored
          split at stored
          · exact Or.inl stored
          · rename_i past
            have index : i = composer.sends.length := by
              by_contra later
              have beyond : i - composer.sends.length ≠ 0 := by omega
              simp [beyond] at stored
            subst index
            simp only [Nat.sub_self, List.getElem?_cons_zero, Option.some.injEq] at stored
            subst stored
            exact Or.inr ⟨rfl, rfl, rfl⟩

theorem send_pressed_keeps (composer : Composer) (currentUser : Option String) (now : TimeInterval) :
    (sendPressed composer currentUser now).text = composer.text ∧
      (sendPressed composer currentUser now).changes = composer.changes := by
  unfold sendPressed
  split <;> exact ⟨rfl, rfl⟩

theorem send_pressed_retains (composer : Composer) (currentUser : Option String) (now : TimeInterval) (i : Nat)
    (record : Send) (stored : composer.sends[i]? = some record) :
    (sendPressed composer currentUser now).sends[i]? = some record := by
  unfold sendPressed
  split
  · have bound := (List.getElem?_eq_some_iff.mp stored).1
    simpa only [List.getElem?_append_left bound] using stored
  · exact stored

theorem tap_invariant (queue : ComposeQueue) (currentUser : Option String) (now : TimeInterval)
    (inv : SendInvariant queue) : SendInvariant { queue with state := sendPressed queue.state currentUser now } := by
  obtain ⟨text, changes⟩ := send_pressed_keeps queue.state currentUser now
  refine ⟨?_, ?_, ?_, ?_⟩
  · simpa only [text, changes] using inv.shown
  · intro i record stored
    simp only [changes]
    rcases send_pressed_stored queue.state currentUser now i record stored with old | ⟨_, typed, stamp⟩
    · exact inv.stamped i record old
    · have body := Option.some.inj (typed.symm.trans inv.shown)
      rw [stamp, List.take_length]
      exact ⟨Nat.le_refl _, body⟩
  · intro i j first second less storedFirst storedSecond
    rcases send_pressed_stored queue.state currentUser now i first storedFirst with oldFirst | ⟨atEnd, _, _⟩
    · rcases send_pressed_stored queue.state currentUser now j second storedSecond with oldSecond | ⟨_, _, stamp⟩
      · exact inv.ordered i j first second less oldFirst oldSecond
      · rw [stamp]
        exact (inv.stamped i first oldFirst).1
    · rcases send_pressed_stored queue.state currentUser now j second storedSecond with oldSecond | ⟨atEndToo, _, _⟩
      · have bound := (List.getElem?_eq_some_iff.mp oldSecond).1
        omega
      · omega
  · intro i member
    obtain ⟨record, stored⟩ := inv.queued i member
    exact ⟨record, send_pressed_retains queue.state currentUser now i record stored⟩

theorem compose_step_invariant (queue next : ComposeQueue) (event : ComposeEvent) (inv : SendInvariant queue)
    (moved : composeStep queue event = some next) : SendInvariant next := by
  cases event with
  | edit text =>
      cases moved
      exact change_invariant queue queue.pending queue.performed (.edit text) inv (fun _ member => member)
  | tap currentUser now =>
      cases moved
      exact tap_invariant queue currentUser now inv
  | complete send error =>
      cases moved
      exact complete_invariant queue send error inv
  | turn =>
      rcases SerialQueue.turn_cases performClear queue next moved with ⟨_, rfl⟩ | ⟨send, rest, composer, posted, head, ran, rfl⟩
      · exact inv
      · cases ran
        rw [List.append_nil]
        apply change_invariant queue rest (queue.performed ++ [send]) .clear inv
        intro i member
        rw [head]
        exact List.mem_cons_of_mem send member

end Pets.FlashChat
