import Mathlib.Data.List.Sort

set_option autoImplicit false

namespace Pets

-- A query over a store that goes on changing: it keeps how it was built and is
-- evaluated anew, against the store of the moment, each time it is read.
inductive LiveView (Source Predicate : Type*) where
  | all (source : Source)
  | filtered (view : LiveView Source Predicate) (predicate : Predicate)
  | sorted (view : LiveView Source Predicate)
deriving DecidableEq

namespace LiveView

variable {Source Predicate Item Key : Type*} [LinearOrder Key]

def source : LiveView Source Predicate → Source
  | all source => source
  | filtered view _ => view.source
  | sorted view => view.source

def predicates : LiveView Source Predicate → List Predicate
  | all _ => []
  | filtered view predicate => view.predicates ++ [predicate]
  | sorted view => view.predicates

variable (content : Source → List Item) (holds : Predicate → Item → Bool) (key : Item → Key)

-- Sorting is descending by the key and leaves equal keys in the order they came.
def eval : LiveView Source Predicate → List Item
  | all source => content source
  | filtered view predicate => view.eval.filter (holds predicate)
  | sorted view => view.eval.insertionSort fun a b => key b ≤ key a

theorem eval_perm (view : LiveView Source Predicate) :
    (view.eval content holds key).Perm
      ((content view.source).filter fun item => view.predicates.all fun predicate => holds predicate item) := by
  induction view with
  | all source =>
      have every : (content source).filter (fun _ => true) = content source := List.filter_true _
      exact List.Perm.of_eq every.symm
  | filtered view predicate ih =>
      have split : ∀ item, (predicates (filtered view predicate)).all (fun predicate => holds predicate item) =
          (holds predicate item && view.predicates.all fun predicate => holds predicate item) := by
        intro item
        rw [predicates, List.all_append, Bool.and_comm]
        simp
      simp only [split, source]
      rw [← List.filter_filter]
      exact ih.filter _
  | sorted view ih => exact (List.perm_insertionSort _ _).trans ih

theorem eval_sorted (view : LiveView Source Predicate) :
    ((sorted view).eval content holds key).Pairwise fun a b => key b ≤ key a := by
  have total : Std.Total fun a b : Item => key b ≤ key a := ⟨fun a b => le_total (key b) (key a)⟩
  have transitive : IsTrans Item fun a b => key b ≤ key a := ⟨fun _ _ _ first second => second.trans first⟩
  exact List.pairwise_insertionSort _ _

theorem mem_eval (view : LiveView Source Predicate) (item : Item) :
    item ∈ view.eval content holds key ↔
      item ∈ content view.source ∧ ∀ predicate ∈ view.predicates, holds predicate item = true := by
  rw [(view.eval_perm content holds key).mem_iff, List.mem_filter, List.all_eq_true]

theorem ordered_insert_front (item : Item) (items : List Item) (before : ∀ other ∈ items, key other ≤ key item) :
    items.orderedInsert (fun a b => key b ≤ key a) item = item :: items := by
  cases items with
  | nil => rfl
  | cons first rest => rw [List.orderedInsert_cons, if_pos (before first List.mem_cons_self)]

theorem filter_ordered_insert (keep : Item → Bool) (item : Item) (items : List Item)
    (descending : items.Pairwise fun a b => key b ≤ key a) :
    (items.orderedInsert (fun a b => key b ≤ key a) item).filter keep =
      if keep item then (items.filter keep).orderedInsert (fun a b => key b ≤ key a) item else items.filter keep := by
  induction items with
  | nil => cases kept : keep item <;> simp [kept]
  | cons first rest ih =>
      obtain ⟨below, later⟩ := List.pairwise_cons.mp descending
      rw [List.orderedInsert_cons]
      by_cases greatest : key first ≤ key item
      · rw [if_pos greatest]
        have front : ∀ other ∈ (first :: rest).filter keep, key other ≤ key item := by
          intro other member
          rcases List.mem_cons.mp (List.mem_filter.mp member).1 with same | inRest
          · exact same ▸ greatest
          · exact (below other inRest).trans greatest
        rw [ordered_insert_front key item _ front]
        cases kept : keep item with
        | true => rw [List.filter_cons_of_pos kept, if_pos rfl]
        | false => rw [List.filter_cons_of_neg (by simp [kept]), if_neg Bool.false_ne_true]
      · rw [if_neg greatest]
        cases firstKept : keep first with
        | true =>
            rw [List.filter_cons_of_pos firstKept, List.filter_cons_of_pos firstKept, ih later,
              List.orderedInsert_cons, if_neg greatest]
            cases keep item <;> rfl
        | false =>
            rw [List.filter_cons_of_neg (by simp [firstKept]), List.filter_cons_of_neg (by simp [firstKept]), ih later]

theorem filter_insertion_sort (keep : Item → Bool) (items : List Item) :
    (items.insertionSort fun a b => key b ≤ key a).filter keep =
      (items.filter keep).insertionSort fun a b => key b ≤ key a := by
  induction items with
  | nil => rfl
  | cons item rest ih =>
      have descending : (rest.insertionSort fun a b => key b ≤ key a).Pairwise fun a b => key b ≤ key a :=
        eval_sorted (fun _ : Unit => rest) (fun _ : Empty => fun _ => true) key (all ())
      rw [List.insertionSort_cons, filter_ordered_insert key keep item _ descending, ih]
      cases kept : keep item with
      | true => rw [List.filter_cons_of_pos kept, List.insertionSort_cons, if_pos rfl]
      | false => rw [List.filter_cons_of_neg (by simp [kept]), if_neg Bool.false_ne_true]

theorem eval_filter (keep : Item → Bool) (view : LiveView Source Predicate) :
    view.eval (fun source => (content source).filter keep) holds key = (view.eval content holds key).filter keep := by
  induction view with
  | all source => rfl
  | filtered view predicate ih =>
      simp only [eval, ih, List.filter_filter]
      exact List.filter_congr fun item _ => Bool.and_comm _ _
  | sorted view ih =>
      simp only [eval, ih]
      exact (filter_insertion_sort key keep _).symm

theorem eval_map (change : Item → Item) (sameKey : ∀ item, key (change item) = key item)
    (sameHolds : ∀ predicate item, holds predicate (change item) = holds predicate item)
    (view : LiveView Source Predicate) :
    view.eval (fun source => (content source).map change) holds key = (view.eval content holds key).map change := by
  induction view with
  | all source => rfl
  | filtered view predicate ih =>
      have unseen : holds predicate ∘ change = holds predicate := funext fun item => sameHolds predicate item
      simp only [eval, ih, List.filter_map, unseen]
  | sorted view ih =>
      simp only [eval, ih]
      have compared : ∀ a ∈ view.eval content holds key, ∀ b ∈ view.eval content holds key,
          key b ≤ key a ↔ key (change b) ≤ key (change a) := by
        intro a _ b _
        rw [sameKey, sameKey]
      exact (List.map_insertionSort (fun a b => key b ≤ key a) (fun a b => key b ≤ key a) change _ compared).symm

theorem ordered_insert_back (item : Item) (items : List Item) (after : ∀ other ∈ items, key item < key other) :
    items.orderedInsert (fun a b => key b ≤ key a) item = items ++ [item] := by
  induction items with
  | nil => rfl
  | cons first rest ih =>
      rw [List.orderedInsert_cons, if_neg (not_le.mpr (after first List.mem_cons_self)),
        ih fun other inRest => after other (List.mem_cons_of_mem _ inRest)]
      rfl

theorem sorted_ascending (items : List Item) (ascending : items.Pairwise fun a b => key a < key b) :
    items.insertionSort (fun a b => key b ≤ key a) = items.reverse := by
  induction items with
  | nil => rfl
  | cons item rest ih =>
      obtain ⟨least, later⟩ := List.pairwise_cons.mp ascending
      rw [List.insertionSort_cons, ih later, List.reverse_cons]
      apply ordered_insert_back
      exact fun other member => least other (List.mem_reverse.mp member)

end LiveView

end Pets
