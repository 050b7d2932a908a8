import Pets.FlashChat.Agreement

set_option autoImplicit false

namespace Pets.FlashChat

variable {Device : Type*} [DecidableEq Device] (getDate : TimeInterval → String)

-- No other program writes to the collection, no listener fails and no write is refused.
def ServiceEvent.ordinary : ServiceEvent Device → Bool
  | .foreign _ => false
  | .fail _ _ => false
  | .complete _ _ error => error.isNone
  | _ => true

theorem listener_survives (chat : ChatViewController) (callback : Callback)
    (readable : ∀ document ∈ callback.documents, DateReadable document) :
    ∃ result, snapshotListener getDate chat callback = some result := by
  obtain ⟨querySnapshot, error⟩ := callback
  cases error with
  | some text => exact ⟨_, rfl⟩
  | none =>
      cases querySnapshot with
      | none => exact ⟨_, rfl⟩
      | some documents => exact (append_all_survives_iff getDate documents ({ chat with messages := [] }, [])).mpr readable

theorem rising_last {Value : Type*} (good : Value → Prop) (values : List Value)
    (rising : values.Pairwise fun earlier later => good earlier → good later) (value last : Value)
    (member : value ∈ values) (holds : good value) (ends : values.getLast? = some last) : good last := by
  obtain ⟨before, rfl⟩ := List.getLast?_eq_some_iff.mp ends
  rcases List.mem_append.mp member with earlier | same
  · exact (List.pairwise_append.mp rising).2.2 value earlier last (List.mem_singleton_self _) holds
  · exact List.mem_singleton.mp same ▸ holds

section Alive

variable (phone : Phone) (load : LoadInvariant getDate phone.main)
  (rising : phone.heard.Pairwise fun earlier later => earlier.AcceptsSome → later.AcceptsSome)

include load rising

-- The list is not empty when the table is reloaded: what has posted the reload was not, and no later snapshot is.
theorem reload_survives (posted : .reload ∈ phone.main.pending) : ∃ chat, reloadAndScroll phone.chat = some chat := by
  have ever : AcceptedEver phone.main.performed := by
    by_contra never
    exact (load.untouched never).2 posted
  obtain ⟨callback, member, accepting⟩ := ever
  obtain ⟨last, ends⟩ := Option.isSome_iff_exists.mp (List.getLast?_isSome.mpr (List.ne_nil_of_mem member))
  have performed := (List.pairwise_append.mp rising).1
  have accepted := rising_last Callback.AcceptsSome _ performed callback last member accepting ends
  have nonempty : phone.chat.messages ≠ [] :=
    (messages_nonempty_iff getDate phone.main load).mpr ⟨last, ends, accepted⟩
  have inRange := (scroll_row_in_range_iff phone.chat).mpr nonempty
  exact ⟨_, by simp only [reloadAndScroll]; exact if_pos inRange⟩

theorem turn_survives (readable : ∀ callback ∈ phone.heard, ∀ document ∈ callback.documents, DateReadable document) :
    ∃ queue, phone.queue.turn (performScreen getDate) = some queue := by
  cases pending : phone.queue.pending with
  | nil => exact ⟨phone.queue, by rw [SerialQueue.turn, pending]⟩
  | cons task rest =>
      have done : ∃ result, performScreen getDate phone.queue.state task = some result := by
        cases task with
        | clear send => exact ⟨_, rfl⟩
        | main task =>
            have waiting : task ∈ phone.main.pending := by
              rw [Phone.main, pending]
              exact List.mem_cons_self
            cases task with
            | snapshotListener callback =>
                have heard : callback ∈ phone.heard :=
                  List.mem_append_right _ (List.mem_filterMap.mpr ⟨_, waiting, rfl⟩)
                obtain ⟨result, ran⟩ := listener_survives getDate phone.chat callback (readable callback heard)
                exact ⟨_, by rw [performScreen, perform, show snapshotListener getDate phone.queue.state.chat callback = _ from ran]; rfl⟩
            | reload =>
                obtain ⟨chat, ran⟩ := reload_survives getDate phone load rising waiting
                exact ⟨_, by rw [performScreen, perform, show reloadAndScroll phone.queue.state.chat = _ from ran]; rfl⟩
      obtain ⟨result, ran⟩ := done
      exact ⟨_, by rw [SerialQueue.turn, pending]; simp only [ran]; rfl⟩

theorem respond_running (readable : ∀ callback ∈ phone.heard, ∀ document ∈ callback.documents, DateReadable document)
    (answer : PhoneEvent) : (respond getDate phone answer).running = phone.running := by
  cases answer with
  | edit text => rfl
  | tap currentUser now => rfl
  | complete send error =>
      simp only [respond, completed]
      split
      · cases error <;> rfl
      · rfl
  | listen documents => rfl
  | fail error => rfl
  | turn =>
      obtain ⟨queue, turned⟩ := turn_survives getDate phone load rising readable
      rw [respond, turned]

end Alive

structure Undisturbed (service : Service Device) : Prop where
  own : ∀ document, .foreign document ∉ service.collection
  alive : ∀ device, ∀ record ∈ service.sends device, record.status ≠ .failed
  known : ∀ device, ∀ write ∈ service.seen device, ∃ record, service.send? write = some record
  rising : ∀ device, (service.phones device).heard.Pairwise fun earlier later => earlier.AcceptsSome → later.AcceptsSome
  lasting : ∀ device, (∃ callback ∈ (service.phones device).heard, callback.AcceptsSome) → service.seen device ≠ []
  running : ∀ device, (service.phones device).running = true

omit [DecidableEq Device] in
theorem seen_not_failed (service : Service Device) (calm : Undisturbed service) (device : Device)
    (write : Write Device) (seen : write ∈ service.seen device) : service.status? write ≠ some .failed := by
  obtain ⟨record, stored⟩ := calm.known device write seen
  intro failed
  obtain ⟨other, found, status⟩ := Option.map_eq_some_iff.mp failed
  cases stored.symm.trans found
  cases write with
  | foreign document => cases stored
  | sent author i => exact calm.alive author record (List.mem_of_getElem? stored) status

theorem snapshot_accepts_iff (service : Service Device) (inv : Consistent service) (calm : Undisturbed service)
    (device : Device) (seen : List (Write Device)) (documents : List Document)
    (reads : ReadsSnapshot service device seen documents) :
    (⟨some documents, none⟩ : Callback).AcceptsSome ↔ seen ≠ [] := by
  obtain ⟨sorted, rfl, permuted, _⟩ := read_sends service inv calm.own device seen documents reads
  rw [Callback.AcceptsSome, Callback.documents]
  constructor
  · rintro ⟨document, member, _⟩ empty
    obtain ⟨record, inSorted, _⟩ := List.mem_map.mp member
    have inSeen := permuted.mem_iff.mp inSorted
    rw [empty] at inSeen
    cases inSeen
  · intro nonempty
    obtain ⟨write, member⟩ := List.exists_mem_of_ne_nil _ nonempty
    obtain ⟨record, read, _⟩ := seen_alive service inv calm.own device seen reads.known write member
    have inSorted := permuted.mem_iff.mpr (List.mem_filterMap.mpr ⟨write, member, read⟩)
    exact ⟨record.document, List.mem_map_of_mem inSorted, rfl⟩

theorem known_readable (events : List (ServiceEvent Device)) (ordinary : ∀ event ∈ events, event.ordinary = true)
    (document : Document) (known : Known getDate events document) : DateReadable document := by
  rcases known with foreign | ⟨_, record, _, rfl⟩
  · cases ordinary _ foreign
  · intro _ _ date _ _ read
    exact ⟨record.date, (Option.some.inj read).symm⟩

theorem step_send (service : Service Device) (event : ServiceEvent Device) (write : Write Device) (record : Send)
    (stored : service.send? write = some record) :
    ∃ after, (serviceStep getDate service event).send? write = some after := by
  cases write with
  | foreign document => cases stored
  | sent author i => exact step_retains getDate service event author i (List.getElem?_eq_some_iff.mp stored).1

-- Either the event is no snapshot for the phone, or its writes are the ones seen from now on.
theorem step_seen (service : Service Device) (event : ServiceEvent Device) (device : Device) :
    (serviceStep getDate service event).seen device = service.seen device ∨
      ∃ seen documents, event = .deliver device seen documents ∧
        (serviceStep getDate service event).seen device = seen := by
  cases event with
  | deliver other seen documents =>
      by_cases same : device = other
      · subst same
        exact Or.inr ⟨seen, documents, rfl, by simp [serviceStep, reported]⟩
      · exact Or.inl (by simp [serviceStep, reported, same])
  | edit | tap | store | foreign | complete | fail | turn => exact Or.inl rfl

section Steps

variable (service : Service Device) (event : ServiceEvent Device) (ordinary : event.ordinary = true)

include ordinary

theorem ordinary_own (own : ∀ document, .foreign document ∉ service.collection) (document : Document) :
    .foreign document ∉ (serviceStep getDate service event).collection := by
  intro stored
  rcases List.mem_append.mp stored with before | commits
  · exact own document before
  · rw [committed_foreign event document commits] at ordinary
    cases ordinary

theorem ordinary_alive (firestore : Firestore service event) (device : Device)
    (alive : ∀ record ∈ service.sends device, record.status ≠ .failed) :
    ∀ record ∈ (serviceStep getDate service event).sends device, record.status ≠ .failed := by
  intro record member
  obtain ⟨i, stored⟩ := List.mem_iff_getElem?.mp member
  rcases step_sends getDate service event firestore device i record stored with
    same | ⟨_, error, _, _, rfl, rfl, _⟩ | ⟨_, pending⟩
  · exact alive record (List.mem_of_getElem? same)
  · cases error with
    | none => exact fun impossible => by cases impossible
    | some text => cases ordinary
  · rw [pending]
    exact fun impossible => by cases impossible

theorem ordinary_answer (device : Device) (answer : PhoneEvent) (answers : Answers device event answer) :
    answer.heard = [] ∨ ∃ seen documents, event = .deliver device seen documents ∧ answer = .listen documents ∧
      (serviceStep getDate service event).seen device = seen := by
  cases answers with
  | deliver seen documents => exact Or.inr ⟨seen, documents, rfl, rfl, by simp [serviceStep, reported]⟩
  | fail error => cases ordinary
  | edit | tap | complete | turn => exact Or.inl rfl

end Steps

section Lasting

variable (service : Service Device) (inv : Consistent service) (calm : Undisturbed service)
  (event : ServiceEvent Device) (firestore : Firestore service event) (ordinary : event.ordinary = true)
  (device : Device)

include calm firestore

theorem seen_kept : service.seen device ⊆ (serviceStep getDate service event).seen device := by
  rcases step_seen getDate service event device with same | ⟨seen, documents, rfl, same⟩
  · rw [same]
    exact List.Subset.refl _
  · rw [same]
    intro write member
    exact firestore.forward device seen documents rfl write member (seen_not_failed service calm device write member)

include inv

theorem step_known (write : Write Device) (member : write ∈ (serviceStep getDate service event).seen device) :
    ∃ record, (serviceStep getDate service event).send? write = some record := by
  rcases step_seen getDate service event device with same | ⟨seen, documents, rfl, same⟩
  · rw [same] at member
    obtain ⟨record, stored⟩ := calm.known device write member
    exact step_send getDate service event write record stored
  · rw [same] at member
    have known := (firestore.reads device seen documents rfl).known
    obtain ⟨record, stored, _⟩ := seen_alive service inv calm.own device seen known write member
    exact step_send getDate service _ write record stored

include ordinary

theorem step_rising :
    ((serviceStep getDate service event).phones device).heard.Pairwise
      fun earlier later => earlier.AcceptsSome → later.AcceptsSome := by
  rcases step_phone getDate service event device with same | ⟨answer, answers, _, moved⟩
  · rw [same]
    exact calm.rising device
  · rw [moved, respond_heard]
    rcases ordinary_answer getDate service event ordinary device answer answers with
      silent | ⟨seen, documents, rfl, rfl, now⟩
    · rw [silent, List.append_nil]
      exact calm.rising device
    · refine List.pairwise_append.mpr ⟨calm.rising device, List.pairwise_singleton _ _, ?_⟩
      intro callback member new same accepting
      have reads := firestore.reads device seen documents rfl
      rw [List.mem_singleton.mp same, snapshot_accepts_iff service inv calm device seen documents reads, ← now]
      intro empty
      have kept := seen_kept getDate service calm _ firestore device
      exact calm.lasting device ⟨callback, member, accepting⟩ (List.subset_nil.mp (empty ▸ kept))

theorem step_lasting
    (ever : ∃ callback ∈ ((serviceStep getDate service event).phones device).heard, callback.AcceptsSome) :
    (serviceStep getDate service event).seen device ≠ [] := by
  intro empty
  have kept := seen_kept getDate service calm event firestore device
  rw [empty] at kept
  obtain ⟨callback, member, accepting⟩ := ever
  rcases step_phone getDate service event device with same | ⟨answer, answers, _, moved⟩
  · rw [same] at member
    exact calm.lasting device ⟨callback, member, accepting⟩ (List.subset_nil.mp kept)
  · rw [moved, respond_heard] at member
    rcases List.mem_append.mp member with old | new
    · exact calm.lasting device ⟨callback, old, accepting⟩ (List.subset_nil.mp kept)
    · rcases ordinary_answer getDate service event ordinary device answer answers with
        silent | ⟨seen, documents, rfl, rfl, now⟩
      · rw [silent] at new
        cases new
      · have reads := firestore.reads device seen documents rfl
        rw [List.mem_singleton.mp new, snapshot_accepts_iff service inv calm device seen documents reads] at accepting
        exact accepting (now.symm.trans empty)

end Lasting

section Runs

variable (events : List (ServiceEvent Device)) (kept : FirestoreKept getDate Service.start events)
  (ordinary : ∀ event ∈ events, event.ordinary = true)

include kept ordinary

theorem heard_readable (device : Device) : ∀ callback ∈ ((serviceAfter getDate events).phones device).heard,
    ∀ document ∈ callback.documents, DateReadable document := by
  intro callback heard document member
  exact known_readable getDate events ordinary document (heard_known getDate events kept device callback heard document member)

theorem step_undisturbed (event : ServiceEvent Device) (firestore : Firestore (serviceAfter getDate events) event)
    (next : event.ordinary = true) (calm : Undisturbed (serviceAfter getDate events)) :
    Undisturbed (serviceStep getDate (serviceAfter getDate events) event) := by
  have inv := run_consistent getDate events kept
  refine ⟨ordinary_own getDate _ event next calm.own,
    fun device => ordinary_alive getDate _ event next firestore device (calm.alive device),
    step_known getDate _ inv calm event firestore, step_rising getDate _ inv calm event firestore next,
    step_lasting getDate _ inv calm event firestore next, ?_⟩
  intro device
  rcases step_phone getDate (serviceAfter getDate events) event device with same | ⟨answer, _, running, moved⟩
  · rw [same]
    exact calm.running device
  · rw [moved, respond_running getDate _ (phone_load getDate events device) (calm.rising device)
      (heard_readable getDate events kept ordinary device)]
    exact running

theorem run_undisturbed : Undisturbed (serviceAfter getDate events) := by
  induction events, kept using service_induction getDate with
  | start _ =>
      refine ⟨fun _ impossible => ?_, fun _ _ impossible => ?_, fun _ _ impossible => ?_,
        fun _ => List.Pairwise.nil, fun _ ever => ?_, fun _ => rfl⟩
      · cases impossible
      · cases impossible
      · cases impossible
      · obtain ⟨_, impossible, _⟩ := ever
        cases impossible
  | next events event kept _ firestore ih =>
      have earlier : ∀ event ∈ events, event.ordinary = true :=
        fun event member => ordinary event (List.mem_append_left _ member)
      rw [service_after_snoc]
      exact step_undisturbed getDate events kept earlier event firestore
        (ordinary event (List.mem_append_right _ (List.mem_singleton_self _))) (ih earlier)

end Runs

-- As long as only the app writes to the collection and Firestore reports no error, no
-- phone crashes, however the taps, the commits, the snapshots and the turns fall.
theorem ordinary_never_crashes (events : List (ServiceEvent Device))
    (kept : FirestoreKept getDate Service.start events) (ordinary : ∀ event ∈ events, event.ordinary = true)
    (device : Device) : ((serviceAfter getDate events).phones device).running = true :=
  (run_undisturbed getDate events kept ordinary).running device

theorem told_phone_runs : ((serviceAfter (fun _ => "") saidHi).phones false).running = true :=
  ordinary_never_crashes (fun _ => "") saidHi said_hi_kept (by decide) false

end Pets.FlashChat
