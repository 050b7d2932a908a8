import Pets.FlashChat.Survival

set_option autoImplicit false

namespace Pets.FlashChat

variable {Device : Type*} [DecidableEq Device] (getDate : TimeInterval → String)

def catchUp (service : Service Device) (device : Device) (seen : List (Write Device)) (documents : List Document) :
    List (ServiceEvent Device) :=
  .deliver device seen documents ::
    List.replicate ((service.phones device).queue.pending.length + 1) (.turn device)

omit [DecidableEq Device] in
theorem catch_up_split (events : List (ServiceEvent Device)) (service : Service Device) (device : Device)
    (seen : List (Write Device)) (documents : List Document) : events ++ catchUp service device seen documents =
      events ++ [.deliver device seen documents] ++
        List.replicate ((service.phones device).queue.pending.length + 1) (.turn device) := by
  rw [catchUp, List.append_assoc, List.singleton_append]

theorem quiet_sends (service : Service Device) (event : ServiceEvent Device)
    (quiet : ∀ device answer, Answers device event answer →
      (respond getDate (service.phones device) answer).composer.sends = (service.phones device).composer.sends) :
    (serviceStep getDate service event).sends = service.sends := by
  funext device
  rw [Service.sends, Service.sends]
  rcases step_phone getDate service event device with same | ⟨answer, answers, _, moved⟩
  · rw [same]
  · rw [moved, quiet device answer answers]

theorem turn_sends (service : Service Device) (device : Device) :
    (serviceStep getDate service (.turn device)).sends = service.sends := by
  apply quiet_sends
  intro other answer answers
  cases answers
  rw [respond]
  cases turned : (service.phones device).queue.turn (performScreen getDate) with
  | none => rfl
  | some queue =>
      rcases phone_turn_cases getDate (service.phones device) queue turned with
        ⟨_, rfl⟩ | ⟨_, _, _, rfl⟩ | ⟨_, _, _, _, _, _, rfl⟩ <;> rfl

theorem deliver_sends (service : Service Device) (device : Device) (seen : List (Write Device)) (documents : List Document) :
    (serviceStep getDate service (.deliver device seen documents)).sends = service.sends := by
  apply quiet_sends
  intro other answer answers
  cases answers
  rfl

omit [DecidableEq Device] in
theorem send_congr (left right : Service Device) (sends : left.sends = right.sends) : left.send? = right.send? := by
  funext write
  cases write <;> simp [Service.send?, sends]

theorem reads_congr (left right : Service Device) (collection : left.collection = right.collection)
    (sends : left.sends = right.sends) (device : Device) (seen : List (Write Device)) (documents : List Document)
    (reads : ReadsSnapshot left device seen documents) : ReadsSnapshot right device seen documents := by
  have read : left.document? = right.document? := by
    funext write
    cases write <;> simp [Service.document?, sends]
  have status : left.status? = right.status? := by
    funext write
    rw [Service.status?, Service.status?, send_congr left right sends]
  have visible : left.visible device = right.visible device := by
    rw [Service.visible, Service.visible, Service.unsettled, Service.unsettled, collection, sends, status]
  exact ⟨visible ▸ reads.known, read ▸ reads.dated, reads.ordered⟩

structure WorkedOff (before after : Service Device) (device : Device) (count : ℕ) : Prop where
  performed : (after.phones device).queue.performed =
    (before.phones device).queue.performed ++ (before.phones device).queue.pending.take count
  pending : ∃ posted, (after.phones device).queue.pending = (before.phones device).queue.pending.drop count ++ posted
  collection : after.collection = before.collection
  sends : after.sends = before.sends

omit [DecidableEq Device] in
theorem ordinary_turns (events : List (ServiceEvent Device)) (ordinary : ∀ event ∈ events, event.ordinary = true)
    (device : Device) (count : ℕ) :
    ∀ event ∈ events ++ List.replicate count (.turn device), event.ordinary = true := by
  intro event member
  rcases List.mem_append.mp member with earlier | turn
  · exact ordinary event earlier
  · rw [List.eq_of_mem_replicate turn]
    rfl

section Turns

variable (events : List (ServiceEvent Device)) (kept : FirestoreKept getDate Service.start events)
  (ordinary : ∀ event ∈ events, event.ordinary = true) (device : Device)

include kept

theorem turns_kept (count : ℕ) :
    FirestoreKept getDate Service.start (events ++ List.replicate count (.turn device)) := by
  induction count with
  | zero =>
      rw [List.replicate_zero, List.append_nil]
      exact kept
  | succ count ih =>
      rw [List.replicate_succ', ← List.append_assoc]
      exact (firestore_kept_snoc _ _ _).mpr ⟨ih, firestore_turn _ _⟩

include ordinary

theorem ordinary_turn : ((serviceAfter getDate events).phones device).queue.turn (performScreen getDate) =
    some ((serviceAfter getDate (events ++ [.turn device])).phones device).queue := by
  have calm := run_undisturbed getDate events kept ordinary
  obtain ⟨queue, turned⟩ := turn_survives getDate _ (phone_load getDate events device) (calm.rising device)
    (heard_readable getDate events kept ordinary device)
  rw [service_after_snoc, turned]
  simp [serviceStep, phoneEvent, phoneStep, calm.running device, respond, turned]

theorem turns_worked_off (count : ℕ)
    (bound : count ≤ ((serviceAfter getDate events).phones device).queue.pending.length) :
    WorkedOff (serviceAfter getDate events)
      (serviceAfter getDate (events ++ List.replicate count (.turn device))) device count := by
  induction count with
  | zero =>
      rw [List.replicate_zero, List.append_nil]
      exact ⟨(List.append_nil _).symm, ⟨[], (List.append_nil _).symm⟩, rfl, rfl⟩
  | succ count ih =>
      obtain ⟨performed, ⟨posted, pending⟩, collection, sends⟩ := ih (Nat.le_of_succ_le bound)
      rw [List.drop_eq_getElem_cons bound, List.cons_append] at pending
      have turned := ordinary_turn getDate _ (turns_kept getDate events kept device count)
        (ordinary_turns events ordinary device count) device
      obtain ⟨performedNow, later, pendingNow⟩ := SerialQueue.turn_front _ _ _ turned _ _ pending
      rw [List.replicate_succ', ← List.append_assoc]
      refine ⟨?_, ⟨posted ++ later, ?_⟩, ?_, ?_⟩
      · rw [performedNow, performed, List.append_assoc, List.take_append_getElem]
      · rw [pendingNow, List.append_assoc]
      · rw [service_after_snoc]
        exact (List.append_nil _).trans collection
      · rw [service_after_snoc, turn_sends, sends]

end Turns

theorem performed_last (phone : Phone) (tasks : List ScreenTask) (callback : Callback)
    (performed : phone.queue.performed = tasks ++ [.main (.snapshotListener callback)]) :
    (callbacks phone.main.performed).getLast? = some callback := by
  have ends : phone.main.performed = tasks.filterMap mainTask ++ [.snapshotListener callback] := by
    rw [Phone.main, performed, List.filterMap_append]
    rfl
  rw [ends, callbacks_listener, List.getLast?_concat]

section Told

variable (events : List (ServiceEvent Device)) (kept : FirestoreKept getDate Service.start events)
  (ordinary : ∀ event ∈ events, event.ordinary = true) (device : Device) (seen : List (Write Device)) (documents : List Document)
  (reads : ReadsSnapshot (serviceAfter getDate events) device seen documents)
  (forward : ∀ write ∈ (serviceAfter getDate events).seen device,
    (serviceAfter getDate events).status? write ≠ some .failed → write ∈ seen)

omit [DecidableEq Device] in
include ordinary in
theorem told_ordinary : ∀ event ∈ events ++ [.deliver device seen documents], event.ordinary = true := by
  intro event member
  rcases List.mem_append.mp member with earlier | same
  · exact ordinary event earlier
  · rw [List.mem_singleton.mp same]
    rfl

include kept

include reads forward in
theorem told_kept : FirestoreKept getDate Service.start (events ++ [.deliver device seen documents]) :=
  (firestore_kept_snoc _ _ _).mpr ⟨kept, firestore_deliver _ device seen documents reads forward⟩

include ordinary

theorem told_queue : ((serviceAfter getDate (events ++ [.deliver device seen documents])).phones device).queue =
    ((serviceAfter getDate events).phones device).queue.post (.main (.snapshotListener ⟨some documents, none⟩)) := by
  have calm := run_undisturbed getDate events kept ordinary
  rw [service_after_snoc]
  simp [serviceStep, phoneEvent, phoneStep, calm.running device, respond, Phone.post]

include reads forward

theorem catch_up_worked_off : WorkedOff (serviceAfter getDate (events ++ [.deliver device seen documents]))
    (serviceAfter getDate (events ++ catchUp (serviceAfter getDate events) device seen documents)) device
    (((serviceAfter getDate events).phones device).queue.pending.length + 1) := by
  rw [catch_up_split]
  apply turns_worked_off getDate _ (told_kept getDate events kept device seen documents reads forward)
    (told_ordinary events ordinary device seen documents)
  rw [told_queue getDate events kept ordinary, SerialQueue.post, List.length_append, List.length_singleton]

theorem catch_up_collection :
    (serviceAfter getDate (events ++ catchUp (serviceAfter getDate events) device seen documents)).collection =
      (serviceAfter getDate events).collection := by
  rw [(catch_up_worked_off getDate events kept ordinary device seen documents reads forward).collection,
    service_after_snoc]
  exact List.append_nil _

theorem catch_up_sends :
    (serviceAfter getDate (events ++ catchUp (serviceAfter getDate events) device seen documents)).sends =
      (serviceAfter getDate events).sends := by
  rw [(catch_up_worked_off getDate events kept ordinary device seen documents reads forward).sends,
    service_after_snoc, deliver_sends]

theorem catch_up_last :
    (callbacks ((serviceAfter getDate
      (events ++ catchUp (serviceAfter getDate events) device seen documents)).phones device).main.performed).getLast? =
        some ⟨some documents, none⟩ := by
  have worked := catch_up_worked_off getDate events kept ordinary device seen documents reads forward
  apply performed_last _ (((serviceAfter getDate
    (events ++ [.deliver device seen documents])).phones device).queue.performed ++
      ((serviceAfter getDate events).phones device).queue.pending)
  rw [worked.performed, List.append_assoc, told_queue getDate events kept ordinary, SerialQueue.post]
  congr 1
  exact List.take_of_length_le (by rw [List.length_append, List.length_singleton])

theorem catches_up_to_date (whole : (serviceAfter getDate events).collection ⊆ seen) :
    UpToDate (serviceAfter getDate (events ++ catchUp (serviceAfter getDate events) device seen documents)) device := by
  have collection := catch_up_collection getDate events kept ordinary device seen documents reads forward
  have sends := catch_up_sends getDate events kept ordinary device seen documents reads forward
  exact ⟨seen, documents, by rwa [collection],
    reads_congr _ _ collection.symm sends.symm device seen documents reads,
    catch_up_last getDate events kept ordinary device seen documents reads forward⟩

end Told

-- From wherever an ordinary run has got to, one snapshot of the whole collection and as many
-- turns as there are tasks in front of it bring a phone to show all that was sent until then.
theorem every_message_arrives (events : List (ServiceEvent Device))
    (kept : FirestoreKept getDate Service.start events) (ordinary : ∀ event ∈ events, event.ordinary = true)
    (device : Device) (seen : List (Write Device)) (documents : List Document)
    (whole : (serviceAfter getDate events).collection ⊆ seen)
    (reads : ReadsSnapshot (serviceAfter getDate events) device seen documents)
    (forward : ∀ write ∈ (serviceAfter getDate events).seen device,
    (serviceAfter getDate events).status? write ≠ some .failed → write ∈ seen) :
    ShowsSends getDate (serviceAfter getDate events)
      ((serviceAfter getDate (events ++ catchUp (serviceAfter getDate events) device seen documents)).phones
        device).chat.messages := by
  have caughtUp : FirestoreKept getDate Service.start
      (events ++ catchUp (serviceAfter getDate events) device seen documents) := by
    rw [catch_up_split]
    exact turns_kept getDate _ (told_kept getDate events kept device seen documents reads forward) device _
  have own : ∀ document, .foreign document ∉ events ++ catchUp (serviceAfter getDate events) device seen documents := by
    intro document foreign
    rw [catch_up_split] at foreign
    cases ordinary_turns _ (told_ordinary events ordinary device seen documents) device _ _ foreign
  have sends := catch_up_sends getDate events kept ordinary device seen documents reads forward
  have shown := up_to_date_sends getDate _ caughtUp own device
    (catches_up_to_date getDate events kept ordinary device seen documents reads forward whole)
  rwa [ShowsSends, sends, send_congr _ _ sends] at shown

theorem hi_arrives :
    ShowsSends (fun _ => "") (serviceAfter (fun _ => "") saidHi)
      ((serviceAfter (fun _ => "")
        (saidHi ++ catchUp (serviceAfter (fun _ => "") saidHi) true [.sent true 0] [hiDocument])).phones
          true).chat.messages := by
  have collection : (serviceAfter (fun _ => "") saidHi).collection = [.sent true 0] := by decide +kernel
  exact every_message_arrives (fun _ => "") saidHi said_hi_kept (by decide) true [.sent true 0] [hiDocument]
    (collection ▸ List.Subset.refl _)
    ⟨by decide +kernel, by decide +kernel, List.pairwise_singleton _ _⟩ nofun

end Pets.FlashChat
