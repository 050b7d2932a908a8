import Mathlib.Data.List.Basic
import Mathlib.Data.Rat.Defs

set_option autoImplicit false

namespace Pets.FlashChat

def bodyField : String := "body"
def senderField : String := "sender"
def dateField : String := "date"

-- Seconds since 1970.
abbrev TimeInterval := ℚ

-- A client may store any shape. The casts of the listener tell apart a string, a number that
-- the cast to TimeInterval takes (a Firestore boolean may be one, an integer that no Double
-- holds exactly is none), and whatever fails them all.
inductive FieldValue where
  | string (text : String)
  | number (seconds : TimeInterval)
  | other
deriving DecidableEq

abbrev Document := List (String × FieldValue)

structure Message where
  sender : String
  body : String
  date : String
deriving DecidableEq

variable (getDate : TimeInterval → String)

-- The outer none is the trap of `date as! TimeInterval`: the optional binding
-- has only asked that the date be present. The inner none skips the document.
def readMessage (document : Document) : Option (Option Message) :=
  match document.lookup senderField, document.lookup bodyField, document.lookup dateField with
  | some (.string sender), some (.string body), some date =>
      match date with
      | .number seconds => some (some ⟨sender, body, getDate seconds⟩)
      | _ => none
  | _, _, _ => some none

def acceptedMessage (document : Document) : Option Message :=
  match document.lookup senderField, document.lookup bodyField, document.lookup dateField with
  | some (.string sender), some (.string body), some (.number seconds) => some ⟨sender, body, getDate seconds⟩
  | _, _, _ => none

def accepts (document : Document) : Bool :=
  match document.lookup senderField, document.lookup bodyField, document.lookup dateField with
  | some (.string _), some (.string _), some (.number _) => true
  | _, _, _ => false

theorem read_message_accepted (document : Document) (read : Option Message)
    (alive : readMessage getDate document = some read) : read = acceptedMessage getDate document := by
  unfold readMessage at alive
  unfold acceptedMessage
  split at alive
  · rename_i sender body date senderRead bodyRead dateRead
    cases date with
    | number seconds => simp only [senderRead, bodyRead, dateRead]; exact (Option.some.inj alive).symm
    | string text => cases alive
    | other => cases alive
  · rename_i skipped
    split
    · rename_i sender body seconds senderRead bodyRead dateRead
      exact absurd dateRead (skipped sender body _ senderRead bodyRead)
    · exact (Option.some.inj alive).symm

theorem accepted_message_is_some (document : Document) :
    (acceptedMessage getDate document).isSome = accepts document := by
  unfold acceptedMessage accepts
  split <;> simp_all

structure Callback where
  querySnapshot : Option (List Document)
  error : Option String
deriving DecidableEq

-- An error wins over a snapshot, and a missing snapshot holds no document.
def Callback.documents (callback : Callback) : List Document :=
  match callback.error with
  | some _ => []
  | none => callback.querySnapshot.getD []

def Callback.accepted (callback : Callback) : List Message :=
  callback.documents.filterMap (acceptedMessage getDate)

def Callback.AcceptsSome (callback : Callback) : Prop :=
  ∃ document ∈ callback.documents, accepts document = true

theorem accepts_some_iff (callback : Callback) :
    callback.AcceptsSome ↔ callback.accepted getDate ≠ [] := by
  constructor
  · intro ⟨document, member, taken⟩ empty
    rw [← accepted_message_is_some getDate] at taken
    have skipped := List.filterMap_eq_nil_iff.mp empty document member
    simp [skipped] at taken
  · intro nonempty
    obtain ⟨message, kept⟩ := List.exists_mem_of_ne_nil _ nonempty
    obtain ⟨document, member, read⟩ := List.mem_filterMap.mp kept
    exact ⟨document, member, by rw [← accepted_message_is_some getDate, read]; rfl⟩

end Pets.FlashChat
