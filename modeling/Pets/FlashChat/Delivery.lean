import Mathlib.Data.List.Nodup
import Pets.FlashChat.Decoding
import Pets.FlashChat.Provenance

set_option autoImplicit false

namespace Pets.FlashChat

variable {Device : Type*} [DecidableEq Device] (getDate : TimeInterval → String)

def Write.sent? : Write Device → Option (Device × ℕ)
  | .sent device send => some (device, send)
  | .foreign _ => none

-- A send is committed once and not given up, and what a phone takes for acknowledged is committed.
structure Consistent (service : Service Device) : Prop where
  once : (service.collection.filterMap Write.sent?).Nodup
  stored : ∀ device i, .sent device i ∈ service.collection →
    ∃ record, (service.sends device)[i]? = some record ∧ record.status ≠ .failed
  acknowledged : ∀ device i record, (service.sends device)[i]? = some record → record.status = .acknowledged →
    .sent device i ∈ service.collection

theorem step_sends (service : Service Device) (event : ServiceEvent Device) (firestore : Firestore service event)
    (device : Device) (i : ℕ) (record : Send)
    (stored : ((serviceStep getDate service event).sends device)[i]? = some record) :
    (service.sends device)[i]? = some record ∨
      (∃ old error, (service.sends device)[i]? = some old ∧ old.status = .pending ∧
        record = { old with status := settled error } ∧ event = .complete device i error ∧
          (error = none ↔ .sent device i ∈ service.collection)) ∨
      ((service.sends device).length ≤ i ∧ record.status = .pending) := by
  rw [Service.sends] at stored
  rcases step_phone getDate service event device with same | ⟨answer, answers, _, moved⟩
  · rw [same] at stored
    exact Or.inl stored
  · rw [moved] at stored
    cases respond_sends getDate _ answer i record stored with
    | kept stored => exact Or.inl stored
    | settled old error found pending completes settles =>
        subst completes
        cases answers
        have waiting : service.status? (.sent device i) = some .pending :=
          Option.map_eq_some_iff.mpr ⟨old, found, pending⟩
        exact Or.inr (Or.inl ⟨old, error, found, pending, settles, rfl,
          firestore.acknowledges device i error rfl waiting⟩)
    | tapped new _ _ pending => exact Or.inr (Or.inr ⟨new, pending⟩)

theorem step_retains (service : Service Device) (event : ServiceEvent Device) (device : Device) (i : ℕ)
    (known : i < (service.sends device).length) :
    ∃ record, ((serviceStep getDate service event).sends device)[i]? = some record := by
  have longer : (service.sends device).length ≤ ((serviceStep getDate service event).sends device).length := by
    rw [Service.sends, Service.sends]
    rcases step_phone getDate service event device with same | ⟨answer, _, _, moved⟩
    · rw [same]
    · rw [moved]
      exact respond_length getDate _ answer
  exact ⟨_, List.getElem?_eq_getElem (Nat.lt_of_lt_of_le known longer)⟩

omit [DecidableEq Device] in
theorem committed_sent (event : ServiceEvent Device) (device : Device) (i : ℕ)
    (commits : .sent device i ∈ committed event) : event = .store device i := by
  cases event with
  | store other send =>
      cases List.mem_singleton.mp commits
      rfl
  | foreign document => cases List.mem_singleton.mp commits
  | edit other text => cases commits
  | tap other currentUser now => cases commits
  | complete other send error => cases commits
  | deliver other seen documents => cases commits
  | fail other error => cases commits
  | turn other => cases commits

omit [DecidableEq Device] in
theorem committed_few (event : ServiceEvent Device) : ((committed event).filterMap Write.sent?).Nodup := by
  cases event with
  | store device send => exact List.nodup_singleton _
  | foreign | edit | tap | complete | deliver | fail | turn => exact List.nodup_nil

theorem committed_once (service : Service Device) (event : ServiceEvent Device) (firestore : Firestore service event)
    (once : (service.collection.filterMap Write.sent?).Nodup) :
    ((service.collection ++ committed event).filterMap Write.sent?).Nodup := by
  rw [List.filterMap_append]
  refine once.append (committed_few event) ?_
  intro pair before now
  obtain ⟨write, stored, same⟩ := List.mem_filterMap.mp before
  obtain ⟨other, commits, sameOther⟩ := List.mem_filterMap.mp now
  cases write with
  | foreign document => cases same
  | sent device i =>
      cases same
      cases other with
      | foreign document => cases sameOther
      | sent author j =>
          cases sameOther
          exact (firestore.commits device i (committed_sent event device i commits)).2 stored

theorem step_consistent (service : Service Device) (event : ServiceEvent Device) (firestore : Firestore service event)
    (inv : Consistent service) : Consistent (serviceStep getDate service event) := by
  refine ⟨committed_once service event firestore inv.once, ?_, ?_⟩
  · intro device i member
    rcases List.mem_append.mp member with before | now
    · obtain ⟨old, stored, alive⟩ := inv.stored device i before
      have known := (List.getElem?_eq_some_iff.mp stored).1
      obtain ⟨record, after⟩ := step_retains getDate service event device i known
      refine ⟨record, after, ?_⟩
      rcases step_sends getDate service event firestore device i record after with
        same | ⟨_, error, _, _, rfl, _, allowed⟩ | ⟨new, _⟩
      · cases stored.symm.trans same
        exact alive
      · rw [allowed.mpr before]
        exact fun impossible => by cases impossible
      · exact absurd known (Nat.not_lt.mpr new)
    · cases committed_sent event device i now
      obtain ⟨record, stored, status⟩ := Option.map_eq_some_iff.mp (firestore.commits device i rfl).1
      refine ⟨record, stored, ?_⟩
      rw [status]
      exact fun impossible => by cases impossible
  · intro device i record stored done
    apply List.mem_append_left
    rcases step_sends getDate service event firestore device i record stored with
      same | ⟨old, error, _, _, rfl, _, allowed⟩ | ⟨_, pending⟩
    · exact inv.acknowledged device i record same done
    · cases error with
      | none => exact allowed.mp rfl
      | some text => cases done
    · cases pending.symm.trans done

theorem run_consistent (events : List (ServiceEvent Device)) (kept : FirestoreKept getDate Service.start events) :
    Consistent (serviceAfter getDate events) := by
  induction events, kept using service_induction getDate with
  | start _ =>
      refine ⟨List.nodup_nil, ?_, ?_⟩
      · intro _ _ impossible
        cases impossible
      · intro _ _ _ impossible
        cases impossible
  | next events event _ _ firestore ih =>
      rw [service_after_snoc]
      exact step_consistent getDate _ event firestore ih

end Pets.FlashChat
