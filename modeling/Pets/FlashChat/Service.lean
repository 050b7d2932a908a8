import Mathlib.Data.List.Perm.Subperm
import Mathlib.Logic.Function.Basic
import Pets.FlashChat.SendMessage
import Pets.FlashChat.Table

set_option autoImplicit false

namespace Pets.FlashChat

open Pets.Transition

structure ChatScreen where
  composer : Composer
  chat : ChatViewController
deriving DecidableEq

inductive ScreenTask where
  | main (task : MainTask)
  | clear (send : ℕ)
deriving DecidableEq

def mainTask : ScreenTask → Option MainTask
  | .main task => some task
  | .clear _ => none

-- A process that has trapped is not running.
structure Phone where
  queue : SerialQueue ChatScreen ScreenTask
  running : Bool
deriving DecidableEq

def heardIn (queue : MainQueue) : List Callback := callbacks queue.performed ++ callbacks queue.pending

namespace Phone

def opened : Phone := ⟨SerialQueue.start ⟨composing.state, launched.state⟩, true⟩

def composer (phone : Phone) : Composer := phone.queue.state.composer

def chat (phone : Phone) : ChatViewController := phone.queue.state.chat

def main (phone : Phone) : MainQueue :=
  ⟨phone.chat, phone.queue.pending.filterMap mainTask, phone.queue.performed.filterMap mainTask⟩

def heard (phone : Phone) : List Callback := heardIn phone.main

def compose (phone : Phone) (composer : Composer) : Phone :=
  { phone with queue := { phone.queue with state := { phone.queue.state with composer } } }

def post (phone : Phone) (task : ScreenTask) : Phone := { phone with queue := phone.queue.post task }

end Phone

inductive PhoneEvent where
  | edit (text : String)
  | tap (currentUser : Option String) (now : TimeInterval)
  | complete (send : ℕ) (error : Option String)
  | listen (documents : List Document)
  | fail (error : String)
  | turn
deriving DecidableEq

section Screen

variable (getDate : TimeInterval → String)

def performScreen (screen : ChatScreen) : ScreenTask → Option (ChatScreen × List ScreenTask)
  | .main task =>
      (perform getDate screen.chat task).map fun result =>
        ({ screen with chat := result.1 }, result.2.map ScreenTask.main)
  | .clear _ => some ({ screen with composer := clearField screen.composer }, [])

def completed (phone : Phone) (send : ℕ) (error : Option String) : Phone :=
  if (phone.composer.sends[send]?).map Send.status = some .pending then
    match error with
    | some _ => phone.compose (settle phone.composer send .failed)
    | none => (phone.compose (settle phone.composer send .acknowledged)).post (.clear send)
  else phone

def respond (phone : Phone) : PhoneEvent → Phone
  | .edit text => phone.compose (editText phone.composer text)
  | .tap currentUser now => phone.compose (sendPressed phone.composer currentUser now)
  | .complete send error => completed phone send error
  | .listen documents => phone.post (.main (.snapshotListener ⟨some documents, none⟩))
  | .fail error => phone.post (.main (.snapshotListener ⟨none, some error⟩))
  | .turn =>
      match phone.queue.turn (performScreen getDate) with
      | some queue => { phone with queue }
      | none => { phone with running := false }

def phoneStep (phone : Phone) (event : PhoneEvent) : Phone := if phone.running then respond getDate phone event else phone

end Screen

variable {Device : Type*} [DecidableEq Device]

inductive Write (Device : Type*) where
  | sent (device : Device) (send : ℕ)
  | foreign (document : Document)
deriving DecidableEq

-- The collection is in the order of the commits; seen is history: the writes behind the last
-- snapshot that a phone was called with.
structure Service (Device : Type*) where
  collection : List (Write Device)
  seen : Device → List (Write Device)
  phones : Device → Phone

def Service.start : Service Device := ⟨[], fun _ => [], fun _ => Phone.opened⟩

def Send.document (send : Send) : Document :=
  [(bodyField, .string send.body), (senderField, .string send.sender), (dateField, .number send.date)]

def Send.message (getDate : TimeInterval → String) (send : Send) : Message :=
  ⟨send.sender, send.body, getDate send.date⟩

namespace Service

def sends (service : Service Device) (device : Device) : List Send := (service.phones device).composer.sends

def send? (service : Service Device) : Write Device → Option Send
  | .sent device send => (service.sends device)[send]?
  | .foreign _ => none

def document? (service : Service Device) : Write Device → Option Document
  | .sent device send => ((service.sends device)[send]?).map Send.document
  | .foreign document => some document

def status? (service : Service Device) (write : Write Device) : Option WriteStatus :=
  (service.send? write).map Send.status

def unsettled (service : Service Device) (device : Device) : List (Write Device) :=
  ((List.range (service.sends device).length).map (Write.sent device)).filter fun write =>
    service.status? write ≠ some .failed ∧ write ∉ service.collection

-- What a snapshot may be of: committed writes and, as Firestore shows local ones before they
-- are committed, those of the phone that have not failed.
def visible (service : Service Device) (device : Device) : List (Write Device) :=
  service.collection ++ service.unsettled device

end Service

-- Firestore takes part in a run through store, complete, deliver and fail. Whatever it reports
-- is carried by the event.
inductive ServiceEvent (Device : Type*) where
  | edit (device : Device) (text : String)
  | tap (device : Device) (currentUser : Option String) (now : TimeInterval)
  | store (device : Device) (send : ℕ)
  | foreign (document : Document)
  | complete (device : Device) (send : ℕ) (error : Option String)
  | deliver (device : Device) (seen : List (Write Device)) (documents : List Document)
  | fail (device : Device) (error : String)
  | turn (device : Device)
deriving DecidableEq

-- order(by: dateField) over the writes: the documents that have the field, in the order of
-- its numbers.
structure ReadsSnapshot (service : Service Device) (device : Device) (seen : List (Write Device))
    (documents : List Document) : Prop where
  known : seen.Subperm (service.visible device)
  dated : documents.Perm ((seen.filterMap service.document?).filter fun document =>
    (document.lookup dateField).isSome)
  ordered : documents.Pairwise fun left right => ∀ first second,
    left.lookup dateField = some (.number first) → right.lookup dateField = some (.number second) → first ≤ second

-- The service of Firestore is not part of the repository. What is assumed of it at an event: it
-- commits a write once and while the call is open, completes a call without an error exactly
-- when the write is committed, and calls a listener with snapshots of what is visible to the
-- phone, in which no write is missing that an earlier one had, unless it has failed.
structure Firestore (service : Service Device) (event : ServiceEvent Device) : Prop where
  commits : ∀ device send, event = .store device send →
    service.status? (.sent device send) = some .pending ∧ .sent device send ∉ service.collection
  acknowledges : ∀ device send error, event = .complete device send error →
    service.status? (.sent device send) = some .pending → (error = none ↔ .sent device send ∈ service.collection)
  reads : ∀ device seen documents, event = .deliver device seen documents →
    ReadsSnapshot service device seen documents
  forward : ∀ device seen documents, event = .deliver device seen documents →
    ∀ write ∈ service.seen device, service.status? write ≠ some .failed → write ∈ seen

theorem firestore_edit (service : Service Device) (device : Device) (text : String) :
    Firestore service (.edit device text) := ⟨nofun, nofun, nofun, nofun⟩

theorem firestore_tap (service : Service Device) (device : Device) (currentUser : Option String) (now : TimeInterval) :
    Firestore service (.tap device currentUser now) := ⟨nofun, nofun, nofun, nofun⟩

theorem firestore_turn (service : Service Device) (device : Device) : Firestore service (.turn device) :=
  ⟨nofun, nofun, nofun, nofun⟩

theorem firestore_store (service : Service Device) (device : Device) (send : ℕ)
    (waiting : service.status? (.sent device send) = some .pending) (new : .sent device send ∉ service.collection) :
    Firestore service (.store device send) := by
  refine ⟨?_, nofun, nofun, nofun⟩
  intro other another same
  cases same
  exact ⟨waiting, new⟩

theorem firestore_deliver (service : Service Device) (device : Device) (seen : List (Write Device))
    (documents : List Document) (reads : ReadsSnapshot service device seen documents)
    (forward : ∀ write ∈ service.seen device, service.status? write ≠ some .failed → write ∈ seen) :
    Firestore service (.deliver device seen documents) := by
  refine ⟨nofun, nofun, ?_, ?_⟩
  · intro other later more same
    cases same
    exact reads
  · intro other later more same
    cases same
    exact forward

def phoneEvent : ServiceEvent Device → Option (Device × PhoneEvent)
  | .edit device text => some (device, .edit text)
  | .tap device currentUser now => some (device, .tap currentUser now)
  | .store _ _ => none
  | .foreign _ => none
  | .complete device send error => some (device, .complete send error)
  | .deliver device _ documents => some (device, .listen documents)
  | .fail device error => some (device, .fail error)
  | .turn device => some (device, .turn)

inductive Answers (device : Device) : ServiceEvent Device → PhoneEvent → Prop where
  | edit (text : String) : Answers device (.edit device text) (.edit text)
  | tap (currentUser : Option String) (now : TimeInterval) :
      Answers device (.tap device currentUser now) (.tap currentUser now)
  | complete (send : ℕ) (error : Option String) : Answers device (.complete device send error) (.complete send error)
  | deliver (seen : List (Write Device)) (documents : List Document) :
      Answers device (.deliver device seen documents) (.listen documents)
  | fail (error : String) : Answers device (.fail device error) (.fail error)
  | turn : Answers device (.turn device) .turn

omit [DecidableEq Device] in
theorem phone_event_answers (event : ServiceEvent Device) (device : Device) (answer : PhoneEvent)
    (posted : phoneEvent event = some (device, answer)) : Answers device event answer := by
  cases event with
  | edit other text => cases posted; exact .edit text
  | tap other currentUser now => cases posted; exact .tap currentUser now
  | store other send => cases posted
  | foreign document => cases posted
  | complete other send error => cases posted; exact .complete send error
  | deliver other seen documents => cases posted; exact .deliver seen documents
  | fail other error => cases posted; exact .fail error
  | turn other => cases posted; exact .turn

def committed : ServiceEvent Device → List (Write Device)
  | .store device send => [.sent device send]
  | .foreign document => [.foreign document]
  | _ => []

def reported (seen : Device → List (Write Device)) : ServiceEvent Device → Device → List (Write Device)
  | .deliver device writes _ => Function.update seen device writes
  | _ => seen

variable (getDate : TimeInterval → String)

def serviceStep (service : Service Device) (event : ServiceEvent Device) : Service Device where
  collection := service.collection ++ committed event
  seen := reported service.seen event
  phones :=
    match phoneEvent event with
    | some (device, event) =>
        Function.update service.phones device (phoneStep getDate (service.phones device) event)
    | none => service.phones

def serviceAfter (events : List (ServiceEvent Device)) : Service Device :=
  events.foldl (serviceStep getDate) Service.start

def FirestoreKept (service : Service Device) (events : List (ServiceEvent Device)) : Prop :=
  Along (fun service event => some (serviceStep getDate service event)) service (fun _ => Firestore) events

theorem firestore_kept_cons (service : Service Device) (event : ServiceEvent Device) (rest : List (ServiceEvent Device)) :
    FirestoreKept getDate service (event :: rest) ↔
      Firestore service event ∧ FirestoreKept getDate (serviceStep getDate service event) rest := by
  rw [FirestoreKept, along_cons]
  exact and_congr_right fun _ => ⟨fun holds => holds _ rfl, fun holds _ moved => Option.some.inj moved ▸ holds⟩

theorem firestore_kept_nil (service : Service Device) : FirestoreKept getDate service [] := by
  intro before event after state split
  exact absurd split (by simp)

theorem service_after_snoc (events : List (ServiceEvent Device)) (event : ServiceEvent Device) :
    serviceAfter getDate (events ++ [event]) = serviceStep getDate (serviceAfter getDate events) event :=
  List.foldl_concat ..

theorem service_run (events : List (ServiceEvent Device)) :
    run (fun service event => some (serviceStep getDate service event)) Service.start events =
      some (serviceAfter getDate events) := by
  induction events using List.reverseRecOn with
  | nil => rfl
  | append_singleton events event ih => rw [run_snoc, ih, service_after_snoc, Option.bind_some]

theorem firestore_kept_snoc (events : List (ServiceEvent Device)) (event : ServiceEvent Device) :
    FirestoreKept getDate Service.start (events ++ [event]) ↔
      FirestoreKept getDate Service.start events ∧ Firestore (serviceAfter getDate events) event := by
  rw [FirestoreKept, along_snoc, service_run]
  exact and_congr_right fun _ => ⟨fun holds => holds _ rfl, fun holds _ reached => Option.some.inj reached ▸ holds⟩

theorem service_induction (motive : ∀ events, FirestoreKept getDate (Service.start : Service Device) events → Prop)
    (start : ∀ kept, motive [] kept)
    (next : ∀ events event kept all, Firestore (serviceAfter getDate events) event → motive events kept →
      motive (events ++ [event]) all)
    (events : List (ServiceEvent Device)) (kept : FirestoreKept getDate Service.start events) : motive events kept := by
  induction events using List.reverseRecOn with
  | nil => exact start kept
  | append_singleton events event ih =>
      obtain ⟨earlier, now⟩ := (firestore_kept_snoc getDate events event).mp kept
      exact next events event earlier kept now (ih earlier)

section PhoneSteps

variable (phone : Phone)

theorem phone_turn_cases (queue : SerialQueue ChatScreen ScreenTask)
    (turned : phone.queue.turn (performScreen getDate) = some queue) :
    (phone.queue.pending = [] ∧ queue = phone.queue) ∨
      (∃ send rest, phone.queue.pending = .clear send :: rest ∧
        queue = ⟨⟨clearField phone.composer, phone.chat⟩, rest, phone.queue.performed ++ [.clear send]⟩) ∨
      ∃ task rest chat posted, phone.queue.pending = .main task :: rest ∧
        perform getDate phone.chat task = some (chat, posted) ∧
        queue = ⟨⟨phone.composer, chat⟩, rest ++ posted.map ScreenTask.main, phone.queue.performed ++ [.main task]⟩ := by
  rcases SerialQueue.turn_cases (performScreen getDate) phone.queue queue turned with
    idle | ⟨task, rest, screen, posted, head, ran, rfl⟩
  · exact Or.inl idle
  · cases task with
    | clear send =>
        cases ran
        exact Or.inr (Or.inl ⟨send, rest, head, by rw [List.append_nil]; rfl⟩)
    | main task =>
        obtain ⟨⟨chat, tasks⟩, performed, built⟩ := Option.map_eq_some_iff.mp ran
        cases built
        exact Or.inr (Or.inr ⟨task, rest, chat, tasks, head, performed, rfl⟩)

theorem main_task_main : mainTask ∘ ScreenTask.main = some := rfl

def PhoneEvent.heard : PhoneEvent → List Callback
  | .listen documents => [⟨some documents, none⟩]
  | .fail error => [⟨none, some error⟩]
  | _ => []

def called : MainEvent → List Callback
  | .deliver callback => [callback]
  | .turn => []

-- The table of a phone goes through a run of its own, in which the clears of the field do not occur.
theorem respond_main (event : PhoneEvent) :
    ((respond getDate phone event).main = phone.main ∧ event.heard = []) ∨
      ∃ mainEvent, mainStep getDate phone.main mainEvent = some (respond getDate phone event).main ∧
        event.heard = called mainEvent := by
  cases event with
  | edit text => exact Or.inl ⟨rfl, rfl⟩
  | tap currentUser now => exact Or.inl ⟨rfl, rfl⟩
  | complete send error =>
      refine Or.inl ⟨?_, rfl⟩
      simp only [respond, completed]
      split
      · cases error with
        | some text => rfl
        | none => simp [Phone.main, Phone.post, Phone.compose, SerialQueue.post, Phone.chat, mainTask]
      · rfl
  | listen documents =>
      refine Or.inr ⟨.deliver ⟨some documents, none⟩, ?_, rfl⟩
      simp [respond, mainStep, Phone.main, Phone.post, SerialQueue.post, Phone.chat, mainTask]
  | fail error =>
      refine Or.inr ⟨.deliver ⟨none, some error⟩, ?_, rfl⟩
      simp [respond, mainStep, Phone.main, Phone.post, SerialQueue.post, Phone.chat, mainTask]
  | turn =>
      rw [respond]
      cases turned : phone.queue.turn (performScreen getDate) with
      | none => exact Or.inl ⟨rfl, rfl⟩
      | some queue =>
          rcases phone_turn_cases getDate phone queue turned with
            ⟨_, rfl⟩ | ⟨send, rest, head, rfl⟩ | ⟨task, rest, chat, posted, head, performed, rfl⟩
          · exact Or.inl ⟨rfl, rfl⟩
          · refine Or.inl ⟨?_, rfl⟩
            simp [Phone.main, Phone.chat, head, mainTask, List.filterMap_cons]
          · refine Or.inr ⟨.turn, ?_, rfl⟩
            have headed : phone.main.pending = task :: rest.filterMap mainTask := by
              rw [Phone.main, head]
              rfl
            rw [mainStep, SerialQueue.turn, headed]
            simp only [Phone.main, Phone.chat] at performed ⊢
            simp [performed, main_task_main, mainTask]

theorem respond_load (event : PhoneEvent) (inv : LoadInvariant getDate phone.main) :
    LoadInvariant getDate (respond getDate phone event).main := by
  rcases respond_main getDate phone event with ⟨same, _⟩ | ⟨mainEvent, moved, _⟩
  · rw [same]
    exact inv
  · exact main_step_invariant getDate phone.main _ mainEvent inv moved

theorem callbacks_append (before after : List MainTask) :
    callbacks (before ++ after) = callbacks before ++ callbacks after := List.filterMap_append

theorem posted_callbacks (task : MainTask) (chat next : ChatViewController) (posted : List MainTask)
    (ran : perform getDate chat task = some (next, posted)) : callbacks posted = [] := by
  cases task with
  | snapshotListener callback =>
      rw [(snapshot_listener_result getDate chat next callback posted ran).2.2, callbacks, List.filterMap_eq_nil_iff]
      intro task member
      rw [List.eq_of_mem_replicate member]
      rfl
  | reload =>
      obtain ⟨reloaded, _, built⟩ := Option.map_eq_some_iff.mp ran
      cases built
      rfl

theorem main_step_heard (queue next : MainQueue) (event : MainEvent) (moved : mainStep getDate queue event = some next) :
    heardIn next = heardIn queue ++ called event := by
  cases event with
  | deliver callback =>
      cases moved
      rw [heardIn, SerialQueue.post, callbacks_listener, ← List.append_assoc]
      rfl
  | turn =>
      rw [called, List.append_nil]
      rcases SerialQueue.turn_cases (perform getDate) queue next moved with
        ⟨_, rfl⟩ | ⟨task, rest, chat, posted, head, ran, rfl⟩
      · rfl
      · simp only [heardIn, callbacks_append, posted_callbacks getDate task queue.state chat posted ran, List.append_nil]
        rw [head, List.append_assoc, ← callbacks_append]
        rfl

theorem respond_heard (event : PhoneEvent) : (respond getDate phone event).heard = phone.heard ++ event.heard := by
  rcases respond_main getDate phone event with ⟨same, silent⟩ | ⟨mainEvent, moved, alike⟩
  · rw [Phone.heard, Phone.heard, same, silent, List.append_nil]
  · rw [alike]
    exact main_step_heard getDate phone.main _ mainEvent moved

def settled : Option String → WriteStatus
  | some _ => .failed
  | none => .acknowledged

-- A send was there before, and at most its status has changed, or it is what the tap has made of the field.
inductive Sends (phone : Phone) (event : PhoneEvent) (i : ℕ) (record : Send) : Prop where
  | kept (stored : phone.composer.sends[i]? = some record)
  | settled (old : Send) (error : Option String) (stored : phone.composer.sends[i]? = some old)
      (pending : old.status = .pending) (completes : event = .complete i error)
      (settles : record = { old with status := FlashChat.settled error })
  | tapped (new : phone.composer.sends.length ≤ i) (taps : event = .tap (some record.sender) record.date)
      (typed : phone.composer.text = some record.body) (pending : record.status = .pending)

theorem settle_sends (composer : Composer) (send : ℕ) (status : WriteStatus) (i : ℕ) (record : Send)
    (stored : (settle composer send status).sends[i]? = some record) :
    (i ≠ send ∧ composer.sends[i]? = some record) ∨
      ∃ old, i = send ∧ composer.sends[i]? = some old ∧ record = { old with status } := by
  rw [settle, List.getElem?_modify] at stored
  by_cases here : send = i
  · obtain ⟨old, found, rfl⟩ := Option.map_eq_some_iff.mp stored
    exact Or.inr ⟨old, here.symm, found, by rw [if_pos here]⟩
  · simp only [if_neg here, Option.map_eq_map, Option.map_id'] at stored
    exact Or.inl ⟨Ne.symm here, stored⟩

theorem respond_sends (event : PhoneEvent) (i : ℕ) (record : Send)
    (stored : (respond getDate phone event).composer.sends[i]? = some record) : Sends phone event i record := by
  cases event with
  | edit text => exact .kept stored
  | tap currentUser now =>
      simp only [respond, Phone.compose, Phone.composer, sendPressed] at stored
      split at stored
      · rename_i body sender typed
        rw [List.getElem?_append] at stored
        split at stored
        · exact .kept stored
        · rename_i beyond
          rw [List.getElem?_singleton] at stored
          split at stored
          · cases stored
            exact .tapped (Nat.le_of_not_lt beyond) rfl typed rfl
          · cases stored
      · exact .kept stored
  | complete send error =>
      simp only [respond, completed] at stored
      split at stored
      · rename_i waiting
        obtain ⟨old, found, pending⟩ := Option.map_eq_some_iff.mp waiting
        have settles : (settle phone.composer send (settled error)).sends[i]? = some record := by
          cases error <;> exact stored
        rcases settle_sends _ _ _ i record settles with ⟨_, same⟩ | ⟨before, rfl, same, changed⟩
        · exact .kept same
        · cases found.symm.trans same
          exact .settled old error same pending rfl changed
      · exact .kept stored
  | listen documents => exact .kept stored
  | fail error => exact .kept stored
  | turn =>
      rw [respond] at stored
      cases turned : phone.queue.turn (performScreen getDate) with
      | none =>
          rw [turned] at stored
          exact .kept stored
      | some queue =>
          rw [turned] at stored
          rcases phone_turn_cases getDate phone queue turned with
            ⟨_, rfl⟩ | ⟨_, _, _, rfl⟩ | ⟨_, _, _, _, _, _, rfl⟩ <;> exact .kept stored

theorem respond_length (event : PhoneEvent) :
    phone.composer.sends.length ≤ (respond getDate phone event).composer.sends.length := by
  cases event with
  | edit text => exact Nat.le_refl _
  | tap currentUser now =>
      simp only [respond, Phone.compose, Phone.composer, sendPressed]
      split
      · simp
      · exact Nat.le_refl _
  | complete send error =>
      simp only [respond, completed]
      split
      · cases error <;> simp [Phone.post, Phone.compose, Phone.composer, SerialQueue.post, settle]
      · exact Nat.le_refl _
  | listen documents => exact Nat.le_refl _
  | fail error => exact Nat.le_refl _
  | turn =>
      rw [respond]
      cases turned : phone.queue.turn (performScreen getDate) with
      | none => exact Nat.le_refl _
      | some queue =>
          rcases phone_turn_cases getDate phone queue turned with
            ⟨_, rfl⟩ | ⟨_, _, _, rfl⟩ | ⟨_, _, _, _, _, _, rfl⟩ <;> exact Nat.le_refl _

end PhoneSteps

end Pets.FlashChat
