import Pets.Library.Transition
import Pets.Library.SerialQueue
import Pets.FlashChat.Snapshot

set_option autoImplicit false

namespace Pets.FlashChat

open Pets.Transition

-- rows is what the table view remembers of its last reloadData.
structure ChatViewController where
  messages : List Message
  rows : Nat
deriving DecidableEq

inductive MainTask where
  | snapshotListener (callback : Callback)
  | reload
deriving DecidableEq

def numberOfRowsInSection (chat : ChatViewController) : Nat := chat.messages.length

inductive Side where
  | own
  | other
deriving DecidableEq

-- The two branches of cellForRowAt differ in colours and alignment alone once
-- the sender line is fixed, so the side stands for them.
structure MessageCell where
  body : String
  senderLine : String
  side : Side
deriving DecidableEq

-- none is the trap of `messages[indexPath.row]`.
def cellForRowAt (currentUser : Option String) (chat : ChatViewController) (row : Nat) : Option MessageCell :=
  (chat.messages[row]?).map fun message =>
    if some message.sender = currentUser then ⟨message.body, "You at " ++ message.date, .own⟩
    else ⟨message.body, message.sender ++ " at " ++ message.date, .other⟩

variable (getDate : TimeInterval → String)

-- The body of the for loop: the closure it enqueues captures nothing of the document.
def appendDocument (progress : ChatViewController × List MainTask) (document : Document) :
    Option (ChatViewController × List MainTask) :=
  match readMessage getDate document with
  | none => none
  | some none => some progress
  | some (some message) =>
      some ({ progress.1 with messages := progress.1.messages ++ [message] }, progress.2 ++ [.reload])

def snapshotListener (chat : ChatViewController) (callback : Callback) :
    Option (ChatViewController × List MainTask) :=
  let cleared := { chat with messages := [] }
  match callback.error with
  | some _ => some (cleared, [])
  | none =>
      match callback.querySnapshot with
      | none => some (cleared, [])
      | some documents => documents.foldlM (appendDocument getDate) (cleared, [])

def scrollRow (chat : ChatViewController) : Int := (chat.messages.length : Int) - 1

-- scrollToRow raises on a row outside the table that was just reloaded.
def reloadAndScroll (chat : ChatViewController) : Option ChatViewController :=
  let reloaded := { chat with rows := numberOfRowsInSection chat }
  if 0 ≤ scrollRow reloaded ∧ scrollRow reloaded < reloaded.rows then some reloaded else none

def perform (chat : ChatViewController) : MainTask → Option (ChatViewController × List MainTask)
  | .snapshotListener callback => snapshotListener getDate chat callback
  | .reload => (reloadAndScroll chat).map fun reloaded => (reloaded, [])

abbrev MainQueue := SerialQueue ChatViewController MainTask

-- Firestore may deliver a callback at any moment; only the queue decides when
-- it runs and what stands in front of it.
inductive MainEvent where
  | deliver (callback : Callback)
  | turn
deriving DecidableEq

def mainStep (queue : MainQueue) : MainEvent → Option MainQueue
  | .deliver callback => some (queue.post (.snapshotListener callback))
  | .turn => queue.turn (perform getDate)

def launched : MainQueue := SerialQueue.start ⟨[], 0⟩

def listened : MainTask → Option Callback
  | .snapshotListener callback => some callback
  | .reload => none

def callbacks (tasks : List MainTask) : List Callback := tasks.filterMap listened

def AcceptedLast (tasks : List MainTask) : Prop :=
  ∃ callback, (callbacks tasks).getLast? = some callback ∧ callback.AcceptsSome

def AcceptedEver (tasks : List MainTask) : Prop :=
  ∃ callback ∈ callbacks tasks, callback.AcceptsSome

theorem callbacks_listener (tasks : List MainTask) (callback : Callback) :
    callbacks (tasks ++ [.snapshotListener callback]) = callbacks tasks ++ [callback] := by
  simp [callbacks, listened]

theorem callbacks_reload (tasks : List MainTask) : callbacks (tasks ++ [.reload]) = callbacks tasks := by
  simp [callbacks, listened]

theorem accepted_last_listener (tasks : List MainTask) (callback : Callback) :
    AcceptedLast (tasks ++ [.snapshotListener callback]) ↔ callback.AcceptsSome := by
  simp [AcceptedLast, callbacks_listener]

theorem accepted_ever_listener (tasks : List MainTask) (callback : Callback) :
    AcceptedEver (tasks ++ [.snapshotListener callback]) ↔ AcceptedEver tasks ∨ callback.AcceptsSome := by
  constructor
  · intro ⟨seen, member, accepting⟩
    rw [callbacks_listener, List.mem_append, List.mem_singleton] at member
    rcases member with earlier | rfl
    · exact Or.inl ⟨seen, earlier, accepting⟩
    · exact Or.inr accepting
  · rintro (⟨seen, member, accepting⟩ | accepting)
    · exact ⟨seen, by simp [callbacks_listener, member], accepting⟩
    · exact ⟨callback, by simp [callbacks_listener], accepting⟩

theorem accepted_ever_reload (tasks : List MainTask) : AcceptedEver (tasks ++ [.reload]) ↔ AcceptedEver tasks := by
  simp only [AcceptedEver, callbacks_reload]

theorem accepted_last_ever (tasks : List MainTask) (last : AcceptedLast tasks) : AcceptedEver tasks := by
  obtain ⟨callback, atEnd, accepting⟩ := last
  exact ⟨callback, List.mem_of_getLast? atEnd, accepting⟩

theorem append_documents (documents : List Document) (chat : ChatViewController) (posted : List MainTask)
    (result : ChatViewController × List MainTask)
    (ran : documents.foldlM (appendDocument getDate) (chat, posted) = some result) :
    result.1.messages = chat.messages ++ documents.filterMap (acceptedMessage getDate) ∧
      result.1.rows = chat.rows ∧
      result.2 = posted ++ List.replicate (documents.filterMap (acceptedMessage getDate)).length .reload := by
  induction documents generalizing chat posted with
  | nil =>
      cases ran
      simp
  | cons document rest ih =>
      rw [List.foldlM_cons] at ran
      obtain ⟨next, appended, remaining⟩ := Option.bind_eq_some_iff.mp ran
      unfold appendDocument at appended
      split at appended
      · cases appended
      · rename_i read
        have skipped := read_message_accepted getDate document none read
        cases appended
        simpa [List.filterMap_cons, ← skipped] using ih chat posted remaining
      · rename_i message read
        have kept := read_message_accepted getDate document (some message) read
        cases appended
        obtain ⟨messages, rows, tasks⟩ := ih _ _ remaining
        refine ⟨?_, rows, ?_⟩
        · simpa [List.filterMap_cons, ← kept, List.append_assoc] using messages
        · simpa [List.filterMap_cons, ← kept, List.append_assoc, List.replicate_succ] using tasks

theorem snapshot_listener_result (chat next : ChatViewController) (callback : Callback) (posted : List MainTask)
    (ran : snapshotListener getDate chat callback = some (next, posted)) :
    next.messages = callback.accepted getDate ∧ next.rows = chat.rows ∧
      posted = List.replicate (callback.accepted getDate).length .reload := by
  cases callback with
  | mk querySnapshot error =>
      cases error with
      | some text =>
          simp only [snapshotListener, Option.some.injEq, Prod.mk.injEq] at ran
          obtain ⟨rfl, rfl⟩ := ran
          exact ⟨rfl, rfl, rfl⟩
      | none =>
          cases querySnapshot with
          | none =>
              simp only [snapshotListener, Option.some.injEq, Prod.mk.injEq] at ran
              obtain ⟨rfl, rfl⟩ := ran
              exact ⟨rfl, rfl, rfl⟩
          | some documents =>
              simpa [Callback.accepted, Callback.documents] using
                append_documents getDate documents { chat with messages := [] } [] (next, posted) ran

theorem scroll_row_in_range_iff (chat : ChatViewController) :
    (0 ≤ scrollRow chat ∧ scrollRow chat < chat.messages.length) ↔ chat.messages ≠ [] := by
  rw [← List.length_pos_iff]
  simp only [scrollRow]
  omega

theorem reload_and_scroll_result (chat next : ChatViewController) (ran : reloadAndScroll chat = some next) :
    chat.messages ≠ [] ∧ next = { chat with rows := chat.messages.length } := by
  simp only [reloadAndScroll] at ran
  split at ran
  · rename_i bounds
    exact ⟨(scroll_row_in_range_iff chat).mp bounds, (Option.some.inj ran).symm⟩
  · cases ran

end Pets.FlashChat
