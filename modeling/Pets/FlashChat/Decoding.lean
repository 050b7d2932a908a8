import Pets.FlashChat.LoadMessages

set_option autoImplicit false

namespace Pets.FlashChat

variable (getDate : TimeInterval → String)

def DateReadable (document : Document) : Prop :=
  ∀ sender body date, document.lookup senderField = some (.string sender) →
    document.lookup bodyField = some (.string body) → document.lookup dateField = some date →
      ∃ seconds, date = .number seconds

def DecodesSnapshot (chat : ChatViewController) (documents : List Document) : Prop :=
  ∃ next posted, snapshotListener getDate chat ⟨some documents, none⟩ = some (next, posted) ∧
    next.messages = documents.filterMap (acceptedMessage getDate)

theorem read_survives_iff (document : Document) :
    (∃ read, readMessage getDate document = some read) ↔ DateReadable document := by
  constructor
  · intro ⟨read, alive⟩ sender body date senderRead bodyRead dateRead
    simp only [readMessage, senderRead, bodyRead, dateRead] at alive
    cases date with
    | number seconds => exact ⟨seconds, rfl⟩
    | string text => cases alive
    | other => cases alive
  · intro readable
    unfold readMessage
    split
    · rename_i sender body date senderRead bodyRead dateRead
      obtain ⟨seconds, rfl⟩ := readable sender body date senderRead bodyRead dateRead
      exact ⟨_, rfl⟩
    · exact ⟨none, rfl⟩

theorem append_survives_iff (progress : ChatViewController × List MainTask) (document : Document) :
    (∃ next, appendDocument getDate progress document = some next) ↔ DateReadable document := by
  rw [← read_survives_iff getDate, appendDocument]
  cases readMessage getDate document with
  | none => simp
  | some read => cases read <;> simp

theorem append_all_survives_iff (documents : List Document) (progress : ChatViewController × List MainTask) :
    (∃ result, documents.foldlM (appendDocument getDate) progress = some result) ↔
      ∀ document ∈ documents, DateReadable document := by
  induction documents generalizing progress with
  | nil =>
      refine ⟨?_, fun _ => ⟨progress, rfl⟩⟩
      intro _ document impossible
      cases impossible
  | cons document rest ih =>
      rw [List.forall_mem_cons, List.foldlM_cons, ← append_survives_iff getDate progress]
      constructor
      · intro ⟨result, ran⟩
        obtain ⟨next, appended, remaining⟩ := Option.bind_eq_some_iff.mp ran
        exact ⟨⟨next, appended⟩, (ih next).mp ⟨result, remaining⟩⟩
      · intro ⟨⟨next, appended⟩, later⟩
        obtain ⟨result, remaining⟩ := (ih next).mpr later
        exact ⟨result, Option.bind_eq_some_iff.mpr ⟨next, appended, remaining⟩⟩

theorem decodes_snapshot_iff (chat : ChatViewController) (documents : List Document) :
    DecodesSnapshot getDate chat documents ↔ ∀ document ∈ documents, DateReadable document := by
  rw [← append_all_survives_iff getDate documents ({ chat with messages := [] }, [])]
  constructor
  · intro ⟨next, posted, ran, _⟩
    exact ⟨(next, posted), ran⟩
  · intro ⟨⟨next, posted⟩, ran⟩
    have result := snapshot_listener_result getDate chat next ⟨some documents, none⟩ posted ran
    exact ⟨next, posted, ran, result.1⟩

def textDated : Document :=
  [(senderField, .string "a@b.c"), (bodyField, .string "hi"), (dateField, .string "12:00 01.01.2021")]

theorem text_date_traps : ¬ DecodesSnapshot (fun _ => "") ⟨[], 0⟩ [textDated] := by
  intro ⟨next, posted, ran, _⟩
  have trapped : snapshotListener (fun _ => "") ⟨[], 0⟩ ⟨some [textDated], none⟩ = none := by decide
  cases trapped.symm.trans ran

end Pets.FlashChat
