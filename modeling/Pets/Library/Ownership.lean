import Mathlib.Data.List.Pairwise
import Pets.Library.Lists

set_option autoImplicit false

namespace Pets.Ownership

open Pets.Lists

variable {Row Owner Member : Type*} (owner : Row → Owner) (members : Row → List Member)

-- Each stored member stands in exactly one row's list, once, and the lists hold nothing else.
structure Partition (rows : List Row) (stored : List Member) : Prop where
  covers : (rows.flatMap members).Perm stored
  distinct : stored.Nodup
  owners : (rows.map owner).Nodup

theorem partition_empty : Partition owner members [] [] := ⟨List.Perm.nil, List.nodup_nil, List.nodup_nil⟩

theorem partition_add_row (rows : List Row) (stored : List Member) (row : Row)
    (inv : Partition owner members rows stored) (empty : members row = []) (fresh : owner row ∉ rows.map owner) :
    Partition owner members (rows ++ [row]) stored := by
  refine ⟨?_, inv.distinct, ?_⟩
  · rw [List.flatMap_append, List.flatMap_singleton, empty, List.append_nil]
    exact inv.covers
  · rw [List.map_append, List.map_singleton]
    exact nodup_snoc _ _ inv.owners fresh

theorem flat_map_grown [DecidableEq Owner] (rows : List Row) (target : Owner) (member : Member)
    (owners : (rows.map owner).Nodup) (present : target ∈ rows.map owner) :
    (rows.flatMap fun row => if owner row = target then members row ++ [member] else members row).Perm
      (rows.flatMap members ++ [member]) := by
  induction rows with
  | nil => cases present
  | cons row rest ih =>
      obtain ⟨fresh, distinct⟩ := List.nodup_cons.mp owners
      rw [List.flatMap_cons, List.flatMap_cons]
      by_cases here : owner row = target
      · have others : (rest.flatMap fun row => if owner row = target then members row ++ [member] else members row) =
            rest.flatMap members := by
          apply List.flatMap_congr
          intro other inRest
          have different : ¬ owner other = target :=
            fun same => fresh (List.mem_map.mpr ⟨other, inRest, same.trans here.symm⟩)
          rw [if_neg different]
        rw [if_pos here, others, List.append_assoc, List.append_assoc]
        exact List.Perm.append_left _ List.perm_append_comm
      · have later : target ∈ rest.map owner := by
          rcases List.mem_cons.mp present with same | later
          · exact absurd same.symm here
          · exact later
        rw [if_neg here, List.append_assoc]
        exact (ih distinct later).append_left _

theorem partition_append_member [DecidableEq Owner] (rows : List Row) (stored : List Member) (target : Owner)
    (member : Member) (append : Row → Row) (inv : Partition owner members rows stored)
    (present : target ∈ rows.map owner) (fresh : member ∉ stored)
    (sameOwner : ∀ row, owner (append row) = owner row)
    (grown : ∀ row, members (append row) = if owner row = target then members row ++ [member] else members row) :
    Partition owner members (rows.map append) (stored ++ [member]) := by
  refine ⟨?_, ?_, ?_⟩
  · rw [List.flatMap_map]
    simp only [grown]
    exact (flat_map_grown owner members rows target member inv.owners present).trans (inv.covers.append_right _)
  · exact nodup_snoc _ _ inv.distinct fresh
  · rw [List.map_map, show owner ∘ append = owner from funext sameOwner]
    exact inv.owners

theorem partition_filter_members (rows : List Row) (stored : List Member) (keep : Member → Bool)
    (narrow : Row → Row) (inv : Partition owner members rows stored)
    (sameOwner : ∀ row, owner (narrow row) = owner row)
    (narrowed : ∀ row, members (narrow row) = (members row).filter keep) :
    Partition owner members (rows.map narrow) (stored.filter keep) := by
  refine ⟨?_, inv.distinct.filter _, ?_⟩
  · rw [List.flatMap_map]
    simp only [narrowed]
    rw [← List.filter_flatMap]
    exact inv.covers.filter _
  · rw [List.map_map, show owner ∘ narrow = owner from funext sameOwner]
    exact inv.owners

theorem partition_drop_empty (rows : List Row) (stored : List Member) (keep : Row → Bool)
    (inv : Partition owner members rows stored) (empty : ∀ row ∈ rows, keep row = false → members row = []) :
    Partition owner members (rows.filter keep) stored := by
  have same : ∀ part : List Row, (∀ row ∈ part, row ∈ rows) →
      (part.filter keep).flatMap members = part.flatMap members := by
    intro part inside
    induction part with
    | nil => rfl
    | cons row rest ih =>
        have remaining := ih fun other inRest => inside other (List.mem_cons_of_mem _ inRest)
        by_cases kept : keep row = true
        · rw [List.filter_cons_of_pos kept, List.flatMap_cons, List.flatMap_cons, remaining]
        · have none := empty row (inside row List.mem_cons_self) (Bool.eq_false_iff.mpr kept)
          rw [List.filter_cons_of_neg kept, List.flatMap_cons, none, remaining, List.nil_append]
  refine ⟨?_, inv.distinct, inv.owners.sublist (List.filter_sublist.map owner)⟩
  rw [same rows fun _ inside => inside]
  exact inv.covers

theorem partition_stored (rows : List Row) (stored : List Member) (inv : Partition owner members rows stored)
    (row : Row) (present : row ∈ rows) (member : Member) (listed : member ∈ members row) : member ∈ stored :=
  inv.covers.mem_iff.mp (List.mem_flatMap.mpr ⟨row, present, listed⟩)

theorem partition_disjoint (rows : List Row) (stored : List Member) (inv : Partition owner members rows stored)
    (row other : Row) (present : row ∈ rows) (otherPresent : other ∈ rows) (member : Member)
    (listed : member ∈ members row) (otherListed : member ∈ members other) : other = row := by
  have apart := (List.nodup_flatMap.mp (inv.covers.nodup_iff.mpr inv.distinct)).2
  by_contra different
  have symmetric : Std.Symm (Function.onFun List.Disjoint members) := 
    ⟨fun _ _ separate _ second first => separate first second⟩
  have disjoint := apart.forall otherPresent present different
  exact disjoint otherListed listed

theorem partition_owned_once [DecidableEq Member] (rows : List Row) (stored : List Member)
    (inv : Partition owner members rows stored) (member : Member) (present : member ∈ stored) :
    ∃ row ∈ rows, (members row).count member = 1 ∧ ∀ other ∈ rows, member ∈ members other → other = row := by
  obtain ⟨row, inRows, listed⟩ := List.mem_flatMap.mp (inv.covers.mem_iff.mpr present)
  have once := (List.nodup_flatMap.mp (inv.covers.nodup_iff.mpr inv.distinct)).1 row inRows
  refine ⟨row, inRows, List.count_eq_one_of_mem once listed, ?_⟩
  intro other otherPresent otherListed
  exact partition_disjoint owner members rows stored inv row other inRows otherPresent member listed otherListed

end Pets.Ownership
