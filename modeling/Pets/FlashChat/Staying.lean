import Pets.FlashChat.Survival
import Pets.Library.Lists

set_option autoImplicit false

namespace Pets.FlashChat

open Pets.Lists

variable {Device : Type*} [DecidableEq Device] (getDate : TimeInterval → String)

def Service.documents (service : Service Device) (device : Device) : List Document :=
  (service.seen device).filterMap service.document?

section Steps

variable (service : Service Device) (calm : Undisturbed service) (event : ServiceEvent Device)
  (firestore : Firestore service event) (device : Device)

include firestore

theorem step_document (author : Device) (i : ℕ) (record : Send) (stored : (service.sends author)[i]? = some record) :
    ∃ after, ((serviceStep getDate service event).sends author)[i]? = some after ∧
      after.document = record.document := by
  have known := (List.getElem?_eq_some_iff.mp stored).1
  obtain ⟨after, found⟩ := step_retains getDate service event author i known
  refine ⟨after, found, ?_⟩
  rcases step_sends getDate service event firestore author i after found with
    same | ⟨old, error, same, _, rfl, _⟩ | ⟨new, _⟩
  · cases stored.symm.trans same
    rfl
  · cases stored.symm.trans same
    rfl
  · exact absurd known (Nat.not_lt.mpr new)

theorem same_documents (writes : List (Write Device))
    (sent : ∀ write ∈ writes, ∃ record, service.send? write = some record) :
    writes.filterMap (serviceStep getDate service event).document? = writes.filterMap service.document? := by
  apply List.filterMap_congr
  intro write member
  obtain ⟨record, read⟩ := sent write member
  cases write with
  | foreign document => rfl
  | sent author i =>
      obtain ⟨after, found, unchanged⟩ := step_document getDate service event firestore author i record read
      have stored : (service.sends author)[i]? = some record := read
      rw [Service.document?, Service.document?, stored, found, Option.map_some, Option.map_some, unchanged]

include calm

theorem step_documents (nodup : (service.seen device).Nodup) :
    (service.documents device).Subperm ((serviceStep getDate service event).documents device) := by
  rw [Service.documents, ← same_documents getDate service event firestore _ (calm.known device)]
  exact subperm_filter_map _ _ _ (nodup.subperm (seen_kept getDate service calm event firestore device))

end Steps

-- Each snapshot a phone is called with holds all that the ones before it held, and so
-- will every one that it can still be called with.
structure Growing (service : Service Device) : Prop where
  nodup : ∀ device, (service.seen device).Nodup
  heard : ∀ device, (service.phones device).heard.Pairwise fun earlier later => earlier.documents.Subperm later.documents
  known : ∀ device, ∀ callback ∈ (service.phones device).heard, callback.documents.Subperm (service.documents device)

theorem read_documents (service : Service Device) (inv : Consistent service) (calm : Undisturbed service)
    (seen : List (Write Device)) (documents : List Document) (device : Device)
    (firestore : Firestore service (.deliver device seen documents)) :
    documents.Perm ((serviceStep getDate service (.deliver device seen documents)).documents device) := by
  have reads := firestore.reads device seen documents rfl
  have perm := reads.dated
  rw [seen_documents service inv calm.own device seen reads.known, dated_sends,
    ← seen_documents service inv calm.own device seen reads.known] at perm
  rw [← same_documents getDate service _ firestore seen fun write member =>
    (seen_alive service inv calm.own device seen reads.known write member).imp fun _ => And.left] at perm
  rwa [Service.documents, show (serviceStep getDate service _).seen device = seen by simp [serviceStep, reported]]

section Growth

variable (service : Service Device) (inv : Consistent service) (calm : Undisturbed service) (growing : Growing service)
  (event : ServiceEvent Device) (firestore : Firestore service event) (ordinary : event.ordinary = true)
  (device : Device)

include calm growing firestore

theorem known_kept : ∀ callback ∈ (service.phones device).heard,
    callback.documents.Subperm ((serviceStep getDate service event).documents device) :=
  fun callback member => (growing.known device callback member).trans
    (step_documents getDate service calm event firestore device (growing.nodup device))

include inv

theorem step_nodup : ((serviceStep getDate service event).seen device).Nodup := by
  rcases step_seen getDate service event device with same | ⟨seen, documents, rfl, same⟩
  · rw [same]
    exact growing.nodup device
  · rw [same]
    exact seen_nodup service inv calm.own device seen (firestore.reads device seen documents rfl).known

include ordinary

theorem step_growing : Growing (serviceStep getDate service event) := by
  refine ⟨step_nodup getDate service inv calm growing event firestore, ?_, ?_⟩
  · intro device
    have still := known_kept getDate service calm growing event firestore device
    rcases step_phone getDate service event device with same | ⟨answer, answers, _, moved⟩
    · rw [same]
      exact growing.heard device
    · rw [moved, respond_heard]
      rcases ordinary_answer getDate service event ordinary device answer answers with
        silent | ⟨seen, documents, rfl, rfl, _⟩
      · rw [silent, List.append_nil]
        exact growing.heard device
      · refine List.pairwise_append.mpr ⟨growing.heard device, List.pairwise_singleton _ _, ?_⟩
        intro callback member new same
        rw [List.mem_singleton.mp same]
        exact (still callback member).trans
          (read_documents getDate service inv calm seen documents device firestore).symm.subperm
  · intro device callback member
    have still := known_kept getDate service calm growing event firestore device
    rcases step_phone getDate service event device with same | ⟨answer, answers, _, moved⟩
    · rw [same] at member
      exact still callback member
    · rw [moved, respond_heard] at member
      rcases List.mem_append.mp member with old | new
      · exact still callback old
      · rcases ordinary_answer getDate service event ordinary device answer answers with
          silent | ⟨seen, documents, rfl, rfl, _⟩
        · rw [silent] at new
          cases new
        · rw [List.mem_singleton.mp new]
          exact (read_documents getDate service inv calm seen documents device firestore).subperm

end Growth

theorem run_growing (events : List (ServiceEvent Device)) (kept : FirestoreKept getDate Service.start events)
    (ordinary : ∀ event ∈ events, event.ordinary = true) : Growing (serviceAfter getDate events) := by
  induction events, kept using service_induction getDate with
  | start _ =>
      refine ⟨fun _ => List.nodup_nil, fun _ => List.Pairwise.nil, ?_⟩
      intro device callback impossible
      cases impossible
  | next events event kept _ firestore ih =>
      have earlier : ∀ event ∈ events, event.ordinary = true :=
        fun event member => ordinary event (List.mem_append_left _ member)
      rw [service_after_snoc]
      exact step_growing getDate _ (run_consistent getDate events kept) (run_undisturbed getDate events kept earlier)
        (ih earlier) event firestore (ordinary event (List.mem_append_right _ (List.mem_singleton_self _)))

theorem step_performed (service : Service Device) (event : ServiceEvent Device) (device : Device) (task : MainTask)
    (done : task ∈ (service.phones device).main.performed) :
    task ∈ ((serviceStep getDate service event).phones device).main.performed := by
  rcases step_phone getDate service event device with same | ⟨answer, _, _, moved⟩
  · rw [same]
    exact done
  · rw [moved]
    rcases respond_main getDate (service.phones device) answer with ⟨same, _⟩ | ⟨mainEvent, stepped, _⟩
    · rw [same]
      exact done
    · cases mainEvent with
      | deliver callback =>
          rw [← Option.some.inj stepped]
          exact done
      | turn =>
          rcases SerialQueue.turn_cases (perform getDate) _ _ stepped with ⟨_, same⟩ | ⟨first, _, _, _, _, _, same⟩
          · rw [same]
            exact done
          · rw [same]
            exact List.mem_append_left _ done

theorem later_performed (events later : List (ServiceEvent Device)) (device : Device) (task : MainTask)
    (done : task ∈ ((serviceAfter getDate events).phones device).main.performed) :
    task ∈ ((serviceAfter getDate (events ++ later)).phones device).main.performed := by
  induction later using List.reverseRecOn with
  | nil =>
      rw [List.append_nil]
      exact done
  | append_singleton later event ih =>
      rw [← List.append_assoc, service_after_snoc]
      exact step_performed getDate _ event device task ih

-- As long as only the app writes to the collection and Firestore reports no error, what
-- has once been shown on a phone stays there, as often as it was shown.
theorem shown_messages_stay (events later : List (ServiceEvent Device))
    (kept : FirestoreKept getDate Service.start (events ++ later))
    (ordinary : ∀ event ∈ events ++ later, event.ordinary = true) (device : Device) :
    ((serviceAfter getDate events).phones device).chat.messages.Subperm
      ((serviceAfter getDate (events ++ later)).phones device).chat.messages := by
  have now : ((serviceAfter getDate events).phones device).chat.messages = _ :=
    (phone_load getDate events device).current
  have afterwards : ((serviceAfter getDate (events ++ later)).phones device).chat.messages = _ :=
    (phone_load getDate (events ++ later) device).current
  rw [now, afterwards]
  cases last : (callbacks ((serviceAfter getDate events).phones device).main.performed).getLast? with
  | none => exact List.nil_subperm
  | some callback =>
      obtain ⟨task, done, listens⟩ := List.mem_filterMap.mp (List.mem_of_getLast? last)
      have stays : callback ∈ callbacks ((serviceAfter getDate (events ++ later)).phones device).main.performed :=
        List.mem_filterMap.mpr ⟨task, later_performed getDate events later device task done, listens⟩
      obtain ⟨final, ends⟩ := Option.isSome_iff_exists.mp (List.getLast?_isSome.mpr (List.ne_nil_of_mem stays))
      have heard := (run_growing getDate _ kept ordinary).heard device
      have rising : (callbacks ((serviceAfter getDate (events ++ later)).phones device).main.performed).Pairwise
          fun earlier after => callback.documents.Subperm earlier.documents → callback.documents.Subperm after.documents :=
        (List.pairwise_append.mp heard).1.imp fun fewer reached => reached.trans fewer
      have contained := rising_last (fun other : Callback => callback.documents.Subperm other.documents) _ rising
        callback final stays (List.Subperm.refl _) ends
      rw [ends]
      exact subperm_filter_map _ _ _ contained

def hoDocument : Document := [(bodyField, .string "ho"), (senderField, .string "b@b.c"), (dateField, .number 1)]

def answered : List (ServiceEvent Bool) :=
  saidHi ++ [.edit false "ho"] ++ [.tap false (some "b@b.c") 1] ++ [.deliver false [.sent true 0, .sent false 0] [hiDocument, hoDocument]] ++
    [.turn false]

theorem answered_kept : FirestoreKept (fun _ => "") Service.start answered := by
  simp only [answered, firestore_kept_snoc]
  refine ⟨⟨⟨⟨said_hi_kept, firestore_edit _ _ _⟩, firestore_tap _ _ _ _⟩, ?_⟩, firestore_turn _ _⟩
  refine firestore_deliver _ false _ _ ⟨by decide +kernel, by decide +kernel, List.pairwise_pair.mpr ?_⟩ ?_
  · intro first second readFirst readSecond
    cases readFirst
    cases readSecond
    decide
  · have seen : (serviceAfter (fun _ => "")
        (saidHi ++ [.edit false "ho"] ++ [.tap false (some "b@b.c") 1])).seen false = [.sent true 0] := by decide +kernel
    rw [seen]
    intro write member _
    exact List.mem_append_left [.sent false 0] member

theorem hi_stays :
    (⟨"a@b.c", "hi", ""⟩ : Message) ∈ ((serviceAfter (fun _ => "") answered).phones false).chat.messages := by
  have shown : (⟨"a@b.c", "hi", ""⟩ : Message) ∈
      ((serviceAfter (fun _ => "") saidHi).phones false).chat.messages := by decide +kernel
  exact (shown_messages_stay (fun _ => "") saidHi _ answered_kept (by decide) false).subset shown

end Pets.FlashChat
