import Mathlib.Data.List.Perm.Basic
import Pets.FlashChat.Delivery

set_option autoImplicit false

namespace Pets.FlashChat

variable {Device : Type*} [DecidableEq Device] (getDate : TimeInterval → String)

-- The listener has last been run with a snapshot that misses nothing of the collection.
def UpToDate (service : Service Device) (device : Device) : Prop :=
  ∃ seen documents, service.collection ⊆ seen ∧ ReadsSnapshot service device seen documents ∧
    (callbacks (service.phones device).main.performed).getLast? = some ⟨some documents, none⟩

-- Nothing of the phone's own is under way: each of its sends is committed or has failed.
def Settled (service : Service Device) (device : Device) : Prop :=
  ∀ i record, (service.sends device)[i]? = some record → record.status ≠ .failed → .sent device i ∈ service.collection

-- Every acknowledged send of any phone stands there once, none that has failed does,
-- and the list is in the order of the dates.
def ShowsSends (service : Service Device) (messages : List Message) : Prop :=
  ∃ (writes : List (Write Device)) (records : List Send), writes.Nodup ∧
    (∀ author i record, (service.sends author)[i]? = some record → record.status = .acknowledged →
      .sent author i ∈ writes) ∧
    (∀ write ∈ writes, ∃ record, service.send? write = some record ∧ record.status ≠ .failed) ∧
    records.Perm (writes.filterMap service.send?) ∧
    records.Pairwise (fun earlier later => earlier.date ≤ later.date) ∧
    messages = records.map (Send.message getDate)

omit [DecidableEq Device] in
theorem sent_nodup (writes : List (Write Device)) (own : ∀ document, .foreign document ∉ writes)
    (once : (writes.filterMap Write.sent?).Nodup) : writes.Nodup := by
  induction writes with
  | nil => exact List.nodup_nil
  | cons write rest ih =>
      have ownRest : ∀ document, .foreign document ∉ rest :=
        fun document member => own document (List.mem_cons_of_mem _ member)
      cases write with
      | foreign document => exact absurd List.mem_cons_self (own document)
      | sent device i =>
          have parts := List.nodup_cons.mp once
          refine List.nodup_cons.mpr ⟨?_, ih ownRest parts.2⟩
          exact fun again => parts.1 (List.mem_filterMap.mpr ⟨_, again, rfl⟩)

section Visible

variable (service : Service Device) (inv : Consistent service) (own : ∀ document, .foreign document ∉ service.collection)
  (device : Device)

include inv own

theorem visible_nodup : (service.visible device).Nodup := by
  have sent : ((List.range (service.sends device).length).map (Write.sent device)).Nodup :=
    List.nodup_range.map fun i j same => (Write.sent.inj same).2
  refine (sent_nodup _ own inv.once).append (sent.filter _) ?_
  intro write before again
  obtain ⟨i, _, rfl, _, _, absent⟩ := (mem_unsettled service device write).mp again
  exact absent before

theorem visible_alive (write : Write Device) (member : write ∈ service.visible device) :
    ∃ record, service.send? write = some record ∧ record.status ≠ .failed := by
  rcases List.mem_append.mp member with committed | unsettled
  · cases write with
    | foreign document => exact absurd committed (own document)
    | sent author i => exact inv.stored author i committed
  · obtain ⟨i, record, rfl, stored, alive, _⟩ := (mem_unsettled service device write).mp unsettled
    exact ⟨record, stored, alive⟩

variable (seen : List (Write Device)) (known : seen.Subperm (service.visible device))

include known

theorem seen_nodup : seen.Nodup := by
  obtain ⟨part, perm, sublist⟩ := known
  exact perm.nodup_iff.mp (sublist.nodup (visible_nodup service inv own device))

theorem seen_alive (write : Write Device) (member : write ∈ seen) :
    ∃ record, service.send? write = some record ∧ record.status ≠ .failed :=
  visible_alive service inv own device write (known.subset member)

theorem seen_documents :
    seen.filterMap service.document? = (seen.filterMap service.send?).map Send.document := by
  rw [List.map_filterMap]
  apply List.filterMap_congr
  intro write member
  cases write with
  | sent author i => rfl
  | foreign document =>
      obtain ⟨_, impossible, _⟩ := seen_alive service inv own device seen known _ member
      cases impossible

end Visible

theorem dated_sends (records : List Send) :
    (records.map Send.document).filter (fun document => (document.lookup dateField).isSome) =
      records.map Send.document := by
  apply List.filter_eq_self.mpr
  intro document member
  obtain ⟨record, _, rfl⟩ := List.mem_map.mp member
  rfl

theorem read_sends (service : Service Device) (inv : Consistent service)
    (own : ∀ document, .foreign document ∉ service.collection) (device : Device) (seen : List (Write Device))
    (documents : List Document) (reads : ReadsSnapshot service device seen documents) :
    ∃ sorted : List Send, documents = sorted.map Send.document ∧ sorted.Perm (seen.filterMap service.send?) ∧
      sorted.Pairwise fun earlier later => earlier.date ≤ later.date := by
  have perm := reads.dated
  rw [seen_documents service inv own device seen reads.known, dated_sends] at perm
  have comp := congrFun (congrFun (List.eq_map_comp_perm Send.document) documents) (seen.filterMap service.send?)
  obtain ⟨sorted, rfl, permuted⟩ := comp.mpr perm
  refine ⟨sorted, rfl, permuted, ?_⟩
  have inOrder := reads.ordered
  rw [List.pairwise_map] at inOrder
  exact inOrder.imp fun compared => compared _ _ rfl rfl

theorem collection_own (events : List (ServiceEvent Device)) (own : ∀ document, .foreign document ∉ events)
    (document : Document) : .foreign document ∉ (serviceAfter getDate events).collection :=
  fun stored => own document (collection_foreign getDate events document stored)

theorem accepted_sends (records : List Send) :
    (records.map Send.document).filterMap (acceptedMessage getDate) = records.map (Send.message getDate) := by
  have accepted : acceptedMessage getDate ∘ Send.document = some ∘ Send.message getDate := rfl
  rw [List.filterMap_map, accepted, List.filterMap_eq_map]

section UpToDate

variable (events : List (ServiceEvent Device)) (kept : FirestoreKept getDate Service.start events)
  (own : ∀ document, .foreign document ∉ events)

include kept own

theorem up_to_date_messages (device : Device) (upToDate : UpToDate (serviceAfter getDate events) device) :
    ∃ (seen : List (Write Device)) (sorted : List Send), (serviceAfter getDate events).collection ⊆ seen ∧
      seen.Subperm ((serviceAfter getDate events).visible device) ∧
      sorted.Perm (seen.filterMap (serviceAfter getDate events).send?) ∧
      sorted.Pairwise (fun earlier later => earlier.date ≤ later.date) ∧
      ((serviceAfter getDate events).phones device).chat.messages = sorted.map (Send.message getDate) := by
  obtain ⟨seen, documents, whole, reads, last⟩ := upToDate
  obtain ⟨sorted, rfl, permuted, inOrder⟩ := read_sends _ (run_consistent getDate events kept)
    (collection_own getDate events own) device seen documents reads
  refine ⟨seen, sorted, whole, reads.known, permuted, inOrder, ?_⟩
  have current : ((serviceAfter getDate events).phones device).chat.messages = _ :=
    (phone_load getDate events device).current
  rw [current, last]
  exact accepted_sends getDate sorted

theorem up_to_date_sends (device : Device) (upToDate : UpToDate (serviceAfter getDate events) device) :
    ShowsSends getDate (serviceAfter getDate events) ((serviceAfter getDate events).phones device).chat.messages := by
  have inv := run_consistent getDate events kept
  have ownWrites := collection_own getDate events own
  obtain ⟨seen, sorted, whole, known, permuted, inOrder, shown⟩ :=
    up_to_date_messages getDate events kept own device upToDate
  refine ⟨seen, sorted, seen_nodup _ inv ownWrites device seen known, ?_,
    seen_alive _ inv ownWrites device seen known, permuted, inOrder, shown⟩
  intro author i record stored done
  exact whole (inv.acknowledged author i record stored done)

end UpToDate

theorem settled_seen (service : Service Device) (inv : Consistent service)
    (own : ∀ document, .foreign document ∉ service.collection) (device : Device) (seen : List (Write Device))
    (whole : service.collection ⊆ seen) (known : seen.Subperm (service.visible device))
    (settled : Settled service device) : seen.Perm service.collection := by
  have none : service.unsettled device = [] := by
    apply List.eq_nil_iff_forall_not_mem.mpr
    intro write member
    obtain ⟨i, record, _, stored, alive, absent⟩ := (mem_unsettled service device write).mp member
    exact absent (settled i record stored alive)
  rw [Service.visible, none, List.append_nil] at known
  exact known.antisymm ((sent_nodup _ own inv.once).subperm whole)

theorem sorted_unique (left right records : List Send) (leftPerm : left.Perm records) (rightPerm : right.Perm records)
    (leftSorted : left.Pairwise fun earlier later => earlier.date ≤ later.date)
    (rightSorted : right.Pairwise fun earlier later => earlier.date ≤ later.date)
    (distinct : (records.map Send.date).Nodup) : left = right := by
  refine (leftPerm.trans rightPerm.symm).eq_of_pairwise ?_ leftSorted rightSorted
  intro first second inLeft inRight before after
  exact List.inj_on_of_nodup_map distinct (leftPerm.subset inLeft) (rightPerm.subset inRight) (Rat.le_antisymm before after)

-- A phone that is up to date shows every acknowledged message of all phones once. Two such
-- phones with nothing of their own under way show the same messages, and where no two
-- dates are equal the same list.
theorem up_to_date_agree (events : List (ServiceEvent Device)) (kept : FirestoreKept getDate Service.start events)
    (own : ∀ document, .foreign document ∉ events) (device : Device)
    (upToDate : UpToDate (serviceAfter getDate events) device) :
    ShowsSends getDate (serviceAfter getDate events)
        ((serviceAfter getDate events).phones device).chat.messages ∧
      ∀ other, UpToDate (serviceAfter getDate events) other → Settled (serviceAfter getDate events) device →
        Settled (serviceAfter getDate events) other →
        ((serviceAfter getDate events).phones other).chat.messages.Perm
            ((serviceAfter getDate events).phones device).chat.messages ∧
          ((((serviceAfter getDate events).collection.filterMap (serviceAfter getDate events).send?).map
              Send.date).Nodup →
            ((serviceAfter getDate events).phones other).chat.messages =
              ((serviceAfter getDate events).phones device).chat.messages) := by
  refine ⟨up_to_date_sends getDate events kept own device upToDate, ?_⟩
  intro other upToDateToo settled settledToo
  have inv := run_consistent getDate events kept
  have ownWrites := collection_own getDate events own
  obtain ⟨seen, sorted, whole, known, permuted, inOrder, shown⟩ :=
    up_to_date_messages getDate events kept own device upToDate
  obtain ⟨otherSeen, otherSorted, otherWhole, otherKnown, otherPermuted, otherInOrder, otherShown⟩ :=
    up_to_date_messages getDate events kept own other upToDateToo
  have all := permuted.trans ((settled_seen _ inv ownWrites device seen whole known settled).filterMap _)
  have otherAll := otherPermuted.trans
    ((settled_seen _ inv ownWrites other otherSeen otherWhole otherKnown settledToo).filterMap _)
  rw [shown, otherShown]
  refine ⟨(otherAll.trans all.symm).map _, ?_⟩
  intro distinct
  rw [sorted_unique otherSorted sorted _ otherAll all otherInOrder inOrder distinct]

def bothTold : List (ServiceEvent Bool) := saidHi ++ [.deliver true [.sent true 0] [hiDocument]] ++ [.turn true]

theorem both_told_kept : FirestoreKept (fun _ => "") Service.start bothTold := by
  refine (firestore_kept_snoc _ _ _).mpr ⟨(firestore_kept_snoc _ _ _).mpr ⟨said_hi_kept, ?_⟩, firestore_turn _ _⟩
  exact firestore_deliver _ true _ _ ⟨by decide +kernel, by decide +kernel, List.pairwise_singleton _ _⟩ nofun

theorem hi_up_to_date (device : Bool) : UpToDate (serviceAfter (fun _ => "") bothTold) device := by
  refine ⟨[.sent true 0], [hiDocument], ?_, ⟨?_, ?_, List.pairwise_singleton _ _⟩, ?_⟩
  · have collection : (serviceAfter (fun _ => "") bothTold).collection = [.sent true 0] := by decide +kernel
    rw [collection]
    exact List.Subset.refl _
  · cases device <;> decide +kernel
  · decide +kernel
  · cases device <;> decide +kernel

theorem hi_settled (device : Bool) : Settled (serviceAfter (fun _ => "") bothTold) device := by
  intro i record stored _
  have known := (List.getElem?_eq_some_iff.mp stored).1
  cases device with
  | false =>
      have none : ((serviceAfter (fun _ => "") bothTold).sends false).length = 0 := by decide +kernel
      omega
  | true =>
      have one : ((serviceAfter (fun _ => "") bothTold).sends true).length = 1 := by decide +kernel
      rw [show i = 0 by omega]
      decide +kernel

theorem hi_on_both_phones :
    ((serviceAfter (fun _ => "") bothTold).phones true).chat.messages =
      ((serviceAfter (fun _ => "") bothTold).phones false).chat.messages :=
  ((up_to_date_agree (fun _ => "") bothTold both_told_kept (by simp [bothTold, saidHi]) false (hi_up_to_date false)).2
    true (hi_up_to_date true) (hi_settled false) (hi_settled true)).2 (by decide +kernel)

end Pets.FlashChat
