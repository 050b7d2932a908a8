import Pets.FlashChat.Service

set_option autoImplicit false

namespace Pets.FlashChat

variable {Device : Type*} [DecidableEq Device] (getDate : TimeInterval → String)

theorem step_phone (service : Service Device) (event : ServiceEvent Device) (device : Device) :
    (serviceStep getDate service event).phones device = service.phones device ∨
      ∃ answer, Answers device event answer ∧ (service.phones device).running = true ∧
        (serviceStep getDate service event).phones device = respond getDate (service.phones device) answer := by
  cases posted : phoneEvent event with
  | none => exact Or.inl (by simp only [serviceStep, posted])
  | some pair =>
      obtain ⟨other, answer⟩ := pair
      by_cases same : device = other
      · subst same
        cases running : (service.phones device).running with
        | false => exact Or.inl (by simp [serviceStep, posted, phoneStep, running])
        | true =>
            have answers := phone_event_answers event device answer posted
            exact Or.inr ⟨answer, answers, rfl, by simp [serviceStep, posted, phoneStep, running]⟩
      · exact Or.inl (by simp [serviceStep, posted, same])

-- The field held the text when its owner tapped Send, and this is what was sent.
def Tapped (events : List (ServiceEvent Device)) (device : Device) (record : Send) : Prop :=
  ∃ before after, events = before ++ .tap device (some record.sender) record.date :: after ∧
    ((serviceAfter getDate before).phones device).running = true ∧
      ((serviceAfter getDate before).phones device).composer.text = some record.body

theorem tapped_snoc (events : List (ServiceEvent Device)) (event : ServiceEvent Device) (device : Device) (record : Send)
    (tapped : Tapped getDate events device record) : Tapped getDate (events ++ [event]) device record := by
  obtain ⟨before, after, rfl, running, typed⟩ := tapped
  exact ⟨before, after ++ [event], by rw [List.append_assoc, List.cons_append], running, typed⟩

theorem sends_tapped (events : List (ServiceEvent Device)) (device : Device) (i : ℕ) (record : Send)
    (stored : ((serviceAfter getDate events).sends device)[i]? = some record) :
    Tapped getDate events device record := by
  induction events using List.reverseRecOn generalizing i record with
  | nil => cases stored
  | append_singleton events event ih =>
      rw [service_after_snoc, Service.sends] at stored
      rcases step_phone getDate (serviceAfter getDate events) event device with same | ⟨answer, answers, running, moved⟩
      · rw [same] at stored
        exact tapped_snoc getDate events event device record (ih i record stored)
      · rw [moved] at stored
        cases respond_sends getDate _ answer i record stored with
        | kept stored => exact tapped_snoc getDate events event device record (ih i record stored)
        | settled old error stored _ _ settles =>
            rw [settles]
            exact tapped_snoc getDate events event device old (ih i old stored)
        | tapped _ taps typed _ =>
            subst taps
            cases answers
            exact ⟨events, [], rfl, running, typed⟩

def Known (events : List (ServiceEvent Device)) (document : Document) : Prop :=
  .foreign document ∈ events ∨ ∃ device record, Tapped getDate events device record ∧ document = record.document

theorem known_snoc (events : List (ServiceEvent Device)) (event : ServiceEvent Device) (document : Document)
    (known : Known getDate events document) : Known getDate (events ++ [event]) document := by
  rcases known with foreign | ⟨device, record, tapped, same⟩
  · exact Or.inl (List.mem_append_left _ foreign)
  · exact Or.inr ⟨device, record, tapped_snoc getDate events event device record tapped, same⟩

omit [DecidableEq Device] in
theorem committed_foreign (event : ServiceEvent Device) (document : Document)
    (commits : .foreign document ∈ committed event) : event = .foreign document := by
  cases event with
  | foreign other =>
      cases List.mem_singleton.mp commits
      rfl
  | store device send => cases List.mem_singleton.mp commits
  | edit device text => cases commits
  | tap device currentUser now => cases commits
  | complete device send error => cases commits
  | deliver device seen documents => cases commits
  | fail device error => cases commits
  | turn device => cases commits

theorem collection_foreign (events : List (ServiceEvent Device)) (document : Document)
    (stored : .foreign document ∈ (serviceAfter getDate events).collection) : .foreign document ∈ events := by
  induction events using List.reverseRecOn with
  | nil => cases stored
  | append_singleton events event ih =>
      rw [service_after_snoc] at stored
      rcases List.mem_append.mp stored with earlier | commits
      · exact List.mem_append_left _ (ih earlier)
      · rw [committed_foreign event document commits]
        exact List.mem_append_right _ (List.mem_singleton_self _)

theorem mem_unsettled (service : Service Device) (device : Device) (write : Write Device) :
    write ∈ service.unsettled device ↔
      ∃ i record, write = .sent device i ∧ (service.sends device)[i]? = some record ∧ record.status ≠ .failed ∧
        .sent device i ∉ service.collection := by
  rw [Service.unsettled, List.mem_filter, List.mem_map, decide_eq_true_eq]
  constructor
  · rintro ⟨⟨i, known, rfl⟩, alive, absent⟩
    have stored := List.getElem?_eq_getElem (List.mem_range.mp known)
    exact ⟨i, _, rfl, stored, fun failed => alive (Option.map_eq_some_iff.mpr ⟨_, stored, failed⟩), absent⟩
  · rintro ⟨i, record, rfl, stored, alive, absent⟩
    refine ⟨⟨i, List.mem_range.mpr (List.getElem?_eq_some_iff.mp stored).1, rfl⟩, ?_, absent⟩
    intro failed
    obtain ⟨other, found, status⟩ := Option.map_eq_some_iff.mp failed
    cases stored.symm.trans found
    exact alive status

theorem visible_known (events : List (ServiceEvent Device)) (device : Device) (write : Write Device)
    (document : Document) (visible : write ∈ (serviceAfter getDate events).visible device)
    (read : (serviceAfter getDate events).document? write = some document) : Known getDate events document := by
  cases write with
  | sent author i =>
      obtain ⟨record, stored, rfl⟩ := Option.map_eq_some_iff.mp read
      exact Or.inr ⟨author, record, sends_tapped getDate events author i record stored, rfl⟩
  | foreign other =>
      cases read
      rcases List.mem_append.mp visible with committed | own
      · exact Or.inl (collection_foreign getDate events document committed)
      · obtain ⟨i, record, impossible, _⟩ := (mem_unsettled _ _ _).mp own
        cases impossible

theorem answer_heard (events : List (ServiceEvent Device)) (event : ServiceEvent Device)
    (firestore : Firestore (serviceAfter getDate events) event) (device : Device) (answer : PhoneEvent)
    (answers : Answers device event answer) :
    ∀ callback ∈ answer.heard, ∀ document ∈ callback.documents, Known getDate events document := by
  intro callback heard document member
  cases answers with
  | deliver seen documents =>
      cases List.mem_singleton.mp heard
      have reads := firestore.reads device seen documents rfl
      obtain ⟨write, inSeen, read⟩ := List.mem_filterMap.mp (List.mem_filter.mp (reads.dated.mem_iff.mp member)).1
      exact visible_known getDate events device write document (reads.known.subset inSeen) read
  | fail error =>
      cases List.mem_singleton.mp heard
      cases member
  | edit text => cases heard
  | tap currentUser now => cases heard
  | complete send error => cases heard
  | turn => cases heard

theorem heard_known (events : List (ServiceEvent Device)) (kept : FirestoreKept getDate Service.start events)
    (device : Device) : ∀ callback ∈ ((serviceAfter getDate events).phones device).heard,
      ∀ document ∈ callback.documents, Known getDate events document := by
  induction events, kept using service_induction getDate with
  | start _ =>
      intro callback impossible
      cases impossible
  | next events event _ _ firestore ih =>
      intro callback heard document member
      apply known_snoc
      rw [service_after_snoc] at heard
      rcases step_phone getDate (serviceAfter getDate events) event device with same | ⟨answer, answers, _, moved⟩
      · rw [same] at heard
        exact ih callback heard document member
      · rw [moved, respond_heard] at heard
        rcases List.mem_append.mp heard with earlier | new
        · exact ih callback earlier document member
        · exact answer_heard getDate events event firestore device answer answers callback new document member

theorem phone_load (events : List (ServiceEvent Device)) (device : Device) :
    LoadInvariant getDate ((serviceAfter getDate events).phones device).main := by
  induction events using List.reverseRecOn with
  | nil => exact launched_invariant getDate
  | append_singleton events event ih =>
      rw [service_after_snoc]
      rcases step_phone getDate (serviceAfter getDate events) event device with same | ⟨answer, _, _, moved⟩
      · rw [same]
        exact ih
      · rw [moved]
        exact respond_load getDate _ answer ih

-- Whatever is shown on a phone at any moment is either from elsewhere or the text that
-- some phone had in its field at a tap of Send, under the sender and the time of that tap.
theorem shown_was_sent (events : List (ServiceEvent Device)) (kept : FirestoreKept getDate Service.start events)
    (device : Device) (message : Message)
    (shown : message ∈ ((serviceAfter getDate events).phones device).chat.messages) :
    (∃ document, .foreign document ∈ events ∧ acceptedMessage getDate document = some message) ∨
      ∃ author record, Tapped getDate events author record ∧ message = record.message getDate := by
  have current : ((serviceAfter getDate events).phones device).chat.messages = _ :=
    (phone_load getDate events device).current
  rw [current] at shown
  cases last : (callbacks ((serviceAfter getDate events).phones device).main.performed).getLast? with
  | none =>
      rw [last] at shown
      cases shown
  | some callback =>
      rw [last] at shown
      obtain ⟨document, member, read⟩ := List.mem_filterMap.mp shown
      have heard := List.mem_append_left (callbacks ((serviceAfter getDate events).phones device).main.pending)
        (List.mem_of_getLast? last)
      rcases heard_known getDate events kept device callback heard document member with
        foreign | ⟨author, record, tapped, rfl⟩
      · exact Or.inl ⟨document, foreign, read⟩
      · exact Or.inr ⟨author, record, tapped, (Option.some.inj read).symm⟩

def hiDocument : Document := [(bodyField, .string "hi"), (senderField, .string "a@b.c"), (dateField, .number 0)]

def saidHi : List (ServiceEvent Bool) :=
  [.edit true "hi", .tap true (some "a@b.c") 0, .store true 0, .deliver false [.sent true 0] [hiDocument], .turn false]

theorem said_hi_kept : FirestoreKept (fun _ => "") Service.start saidHi := by
  simp only [saidHi, firestore_kept_cons]
  refine ⟨firestore_edit _ _ _, firestore_tap _ _ _ _, ?_, ?_, firestore_turn _ _, firestore_kept_nil _ _⟩
  · exact firestore_store _ true 0 (by decide +kernel) (by decide +kernel)
  · exact firestore_deliver _ false _ _ ⟨by decide +kernel, by decide +kernel, List.pairwise_singleton _ _⟩ nofun

theorem hi_was_sent :
    ∃ author record, Tapped (fun _ => "") saidHi author record ∧
      (⟨"a@b.c", "hi", ""⟩ : Message) = record.message fun _ => "" := by
  have shown : (⟨"a@b.c", "hi", ""⟩ : Message) ∈
      ((serviceAfter (fun _ => "") saidHi).phones false).chat.messages := by decide +kernel
  rcases shown_was_sent (fun _ => "") saidHi said_hi_kept false _ shown with ⟨document, foreign, _⟩ | sent
  · simp [saidHi] at foreign
  · exact sent

end Pets.FlashChat
