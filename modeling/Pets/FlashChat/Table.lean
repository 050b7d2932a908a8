import Pets.FlashChat.LoadMessages

set_option autoImplicit false

namespace Pets.FlashChat

open Pets.Transition

variable (getDate : TimeInterval → String)

-- shown and loaded are the two halves of the table's story: a reload closure
-- stands behind every accepting callback until it has counted the rows.
structure LoadInvariant (queue : MainQueue) : Prop where
  current : queue.state.messages = ((callbacks queue.performed).getLast?.map (Callback.accepted getDate)).getD []
  shown : AcceptedLast queue.performed → .reload ∈ queue.pending ∨ queue.state.rows = queue.state.messages.length
  loaded : AcceptedEver queue.performed → .reload ∈ queue.pending ∨ 0 < queue.state.rows
  untouched : ¬ AcceptedEver queue.performed → queue.state.rows = 0 ∧ .reload ∉ queue.pending

theorem launched_invariant : LoadInvariant getDate launched := by
  have never : ¬ AcceptedEver launched.performed := by
    intro ⟨callback, member, _⟩
    cases member
  exact ⟨rfl, fun last => absurd (accepted_last_ever _ last) never, fun ever => absurd ever never,
    fun _ => ⟨rfl, by simp [launched, SerialQueue.start]⟩⟩

theorem messages_nonempty_iff (queue : MainQueue) (inv : LoadInvariant getDate queue) :
    queue.state.messages ≠ [] ↔ AcceptedLast queue.performed := by
  rw [inv.current]
  cases last : (callbacks queue.performed).getLast? with
  | none => simp [AcceptedLast, last]
  | some callback => simp [AcceptedLast, last, accepts_some_iff getDate callback]

theorem deliver_invariant (queue : MainQueue) (callback : Callback) (inv : LoadInvariant getDate queue) :
    LoadInvariant getDate (queue.post (.snapshotListener callback)) := by
  have same : ∀ tasks : List MainTask, (MainTask.reload ∈ tasks ++ [.snapshotListener callback]) ↔ .reload ∈ tasks := by
    intro tasks
    simp
  refine ⟨inv.current, ?_, ?_, ?_⟩
  · simpa only [SerialQueue.post, same] using inv.shown
  · simpa only [SerialQueue.post, same] using inv.loaded
  · simpa only [SerialQueue.post, same] using inv.untouched

theorem listener_invariant (queue : MainQueue) (callback : Callback) (rest posted : List MainTask)
    (chat : ChatViewController) (inv : LoadInvariant getDate queue)
    (head : queue.pending = .snapshotListener callback :: rest)
    (ran : snapshotListener getDate queue.state callback = some (chat, posted)) :
    LoadInvariant getDate ⟨chat, rest ++ posted, queue.performed ++ [.snapshotListener callback]⟩ := by
  obtain ⟨messages, rows, tasks⟩ := snapshot_listener_result getDate queue.state chat callback posted ran
  have reloads : callback.AcceptsSome → .reload ∈ rest ++ posted := by
    intro accepting
    have nonempty := (accepts_some_iff getDate callback).mp accepting
    rw [tasks, List.mem_append, List.mem_replicate]
    exact Or.inr ⟨fun zero => nonempty (List.length_eq_zero_iff.mp zero), rfl⟩
  refine ⟨?_, ?_, ?_, ?_⟩
  · simp [messages, callbacks_listener]
  · intro last
    exact Or.inl (reloads ((accepted_last_listener _ _).mp last))
  · intro ever
    rcases (accepted_ever_listener _ _).mp ever with earlier | accepting
    · rcases inv.loaded earlier with waiting | counted
      · rw [head, List.mem_cons] at waiting
        rcases waiting with impossible | behind
        · cases impossible
        · exact Or.inl (List.mem_append_left _ behind)
      · exact Or.inr (rows ▸ counted)
    · exact Or.inl (reloads accepting)
  · intro never
    rw [accepted_ever_listener, not_or] at never
    obtain ⟨zero, absent⟩ := inv.untouched never.1
    have empty : callback.accepted getDate = [] := by
      by_contra nonempty
      exact never.2 ((accepts_some_iff getDate callback).mpr nonempty)
    refine ⟨rows.trans zero, ?_⟩
    rw [tasks, empty]
    simp only [head, List.mem_cons, not_or] at absent
    simpa using absent.2

theorem reload_invariant (queue : MainQueue) (rest : List MainTask) (chat : ChatViewController)
    (inv : LoadInvariant getDate queue) (ran : reloadAndScroll queue.state = some chat) :
    LoadInvariant getDate ⟨chat, rest, queue.performed ++ [.reload]⟩ := by
  obtain ⟨nonempty, rfl⟩ := reload_and_scroll_result queue.state chat ran
  have last := (messages_nonempty_iff getDate queue inv).mp nonempty
  refine ⟨?_, ?_, ?_, ?_⟩
  · simpa only [callbacks_reload] using inv.current
  · exact fun _ => Or.inr rfl
  · exact fun _ => Or.inr (List.length_pos_iff.mpr nonempty)
  · intro never
    rw [accepted_ever_reload] at never
    exact absurd (accepted_last_ever _ last) never

theorem main_step_invariant (queue next : MainQueue) (event : MainEvent) (inv : LoadInvariant getDate queue)
    (moved : mainStep getDate queue event = some next) : LoadInvariant getDate next := by
  cases event with
  | deliver callback =>
      cases moved
      exact deliver_invariant getDate queue callback inv
  | turn =>
      rcases SerialQueue.turn_cases (perform getDate) queue next moved with
        ⟨_, rfl⟩ | ⟨task, rest, chat, posted, head, ran, rfl⟩
      · exact inv
      · cases task with
        | snapshotListener callback => exact listener_invariant getDate queue callback rest posted chat inv head ran
        | reload =>
            obtain ⟨reloaded, scrolled, same⟩ := Option.map_eq_some_iff.mp ran
            cases same
            simpa using reload_invariant getDate queue rest chat inv scrolled

def ScrollsInRange (queue : MainQueue) (event : MainEvent) : Prop :=
  event = .turn → queue.pending.head? = some .reload →
    0 ≤ scrollRow queue.state ∧ scrollRow queue.state < queue.state.messages.length

def ReloadsAfterAccepted (queue : MainQueue) (event : MainEvent) : Prop :=
  event = .turn → queue.pending.head? = some .reload → AcceptedLast queue.performed

theorem scrolls_in_range_iff (events : List MainEvent) :
    Along (mainStep getDate) launched (fun _ => ScrollsInRange) events ↔
      Along (mainStep getDate) launched (fun _ => ReloadsAfterAccepted) events := by
  apply along_congr (mainStep getDate) launched (fun _ => LoadInvariant getDate) (launched_invariant getDate)
  · intro _ queue event next inv moved
    exact main_step_invariant getDate queue next event inv moved
  · intro _ queue event inv
    simp only [ScrollsInRange, ReloadsAfterAccepted, scroll_row_in_range_iff, messages_nonempty_iff getDate queue inv]

def greeting : Document :=
  [(senderField, .string "a@b.c"), (bodyField, .string "hi"), (dateField, .number 0)]

-- The message is deleted again while the closure of its arrival still waits.
theorem scrolls_to_row_minus_one :
    ¬ Along (mainStep fun _ => "00:00 01.01.1970") launched (fun _ => ScrollsInRange)
      [.deliver ⟨some [greeting], none⟩, .deliver ⟨some [], none⟩, .turn, .turn, .turn] := by
  intro holds
  have asked := holds [.deliver ⟨some [greeting], none⟩, .deliver ⟨some [], none⟩, .turn, .turn] .turn []
    ⟨⟨[], 0⟩, [.reload], [.snapshotListener ⟨some [greeting], none⟩, .snapshotListener ⟨some [], none⟩]⟩ rfl rfl rfl rfl
  exact absurd asked.1 (by decide)

def TableAgrees (queue : MainQueue) : Prop :=
  queue.Drained → queue.state.rows = queue.state.messages.length ∧
    ∀ row < queue.state.rows, ∀ currentUser, cellForRowAt currentUser queue.state row ≠ none

def AcceptedLastOrNever (queue : MainQueue) : Prop :=
  queue.Drained → AcceptedLast queue.performed ∨ ¬ AcceptedEver queue.performed

theorem cell_in_range (chat : ChatViewController) (agree : chat.rows = chat.messages.length) (row : Nat)
    (bound : row < chat.rows) (currentUser : Option String) : cellForRowAt currentUser chat row ≠ none := by
  rw [agree] at bound
  simp [cellForRowAt, List.getElem?_eq_getElem bound]

theorem drained_rows_agree_iff (queue : MainQueue) (inv : LoadInvariant getDate queue) (drained : queue.Drained) :
    queue.state.rows = queue.state.messages.length ↔
      AcceptedLast queue.performed ∨ ¬ AcceptedEver queue.performed := by
  have nothing : MainTask.reload ∉ queue.pending := by
    rw [show queue.pending = [] from drained]
    exact List.not_mem_nil
  by_cases last : AcceptedLast queue.performed
  · have counted := (inv.shown last).resolve_left nothing
    exact ⟨fun _ => Or.inl last, fun _ => counted⟩
  · have empty : queue.state.messages = [] := by
      by_contra nonempty
      exact last ((messages_nonempty_iff getDate queue inv).mp nonempty)
    rw [empty, List.length_nil]
    by_cases ever : AcceptedEver queue.performed
    · have positive := (inv.loaded ever).resolve_left nothing
      constructor
      · intro zero
        omega
      · rintro (accepted | never)
        · exact absurd accepted last
        · exact absurd ever never
    · exact ⟨fun _ => Or.inr ever, fun _ => (inv.untouched ever).1⟩

theorem table_agrees_iff (events : List MainEvent) :
    Always (mainStep getDate) launched (fun _ => TableAgrees) events ↔
      Always (mainStep getDate) launched (fun _ => AcceptedLastOrNever) events := by
  apply always_congr (mainStep getDate) launched (fun _ => LoadInvariant getDate) (launched_invariant getDate)
  · intro _ queue event next inv moved
    exact main_step_invariant getDate queue next event inv moved
  · intro _ queue inv
    constructor
    · intro agrees drained
      exact (drained_rows_agree_iff getDate queue inv drained).mp (agrees drained).1
    · intro covered drained
      have agree := (drained_rows_agree_iff getDate queue inv drained).mpr (covered drained)
      exact ⟨agree, cell_in_range queue.state agree⟩

-- The last message is deleted after the table has shown it.
theorem emptied_collection_keeps_rows :
    ¬ Always (mainStep fun _ => "00:00 01.01.1970") launched (fun _ => TableAgrees)
      [.deliver ⟨some [greeting], none⟩, .turn, .turn, .deliver ⟨some [], none⟩, .turn] := by
  intro holds
  have agree := holds [.deliver ⟨some [greeting], none⟩, .turn, .turn, .deliver ⟨some [], none⟩, .turn] []
    ⟨⟨[], 1⟩, [], [.snapshotListener ⟨some [greeting], none⟩, .reload, .snapshotListener ⟨some [], none⟩]⟩ rfl rfl rfl
  exact absurd agree.1 (by decide)

end Pets.FlashChat
