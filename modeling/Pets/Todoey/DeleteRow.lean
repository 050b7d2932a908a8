import Pets.Library.Lists
import Pets.Todoey.Integrity

set_option autoImplicit false

namespace Pets.Todoey

open Pets.Lists Pets.Transition

structure Deletion where
  realm : Realm
  deletedRows : List ℕ
deriving DecidableEq

-- Both actions force the title for their alert, and both call deleteRows behind
-- the write whether it threw or not.
def confirmDelete (realm : Realm) (row : ℕ) (title : Option String) (commits : Bool) (change : Realm → Realm) :
    Option Deletion :=
  title.bind fun _ =>
    (write realm commits fun realm => some (change realm)).map fun after => ⟨after, [row]⟩

def categoryDeleteAction (realm : Realm) (row : ℕ) (commits : Bool) : Option Deletion :=
  (categories realm)[row]?.bind fun category =>
    confirmDelete realm row category.title commits fun realm =>
      deleteCategory (deleteItems realm category.items) category.id

section Items

variable (contains : String → String → Bool)

def itemDeleteAction (realm : Realm) (controller : ItemViewController) (row : ℕ) (commits : Bool) : Option Deletion :=
  match rows contains realm controller with
  | some items =>
      items[row]?.bind fun item => confirmDelete realm row item.title commits fun realm => deleteItems realm [item.id]
  | none => some ⟨realm, []⟩

def shownItems (controller : ItemViewController) (realm : Realm) : List ObjectId :=
  ((rows contains realm controller).getD []).map Item.id

end Items

def shownCategories (realm : Realm) : List ObjectId := (categories realm).map Category.id

-- deleteRows is called only for the row, and only if the results have lost that
-- row and no other; a failed write leaves the store and the table alone.
structure KeepsTable (displayed : Realm → List ObjectId) (realm : Realm) (row : ℕ) (commits : Bool)
    (deletion : Deletion) : Prop where
  called : ∀ deleted ∈ deletion.deletedRows, deleted = row ∧ displayed deletion.realm = (displayed realm).eraseIdx row
  failed : commits = false → deletion.realm = realm ∧ deletion.deletedRows = []

def CleanDelete (displayed : List ObjectId) (id : ObjectId) (commits : Bool) : Prop :=
  commits = true ∧ displayed.count id = 1

theorem confirm_delete_iff (displayed : Realm → List ObjectId) (realm : Realm) (row : ℕ) (title : String)
    (commits : Bool) (change : Realm → Realm) (id : ObjectId) (listed : (displayed realm)[row]? = some id)
    (changed : displayed (change realm) = (displayed realm).filter fun other => other ≠ id) :
    (∀ deletion, confirmDelete realm row (some title) commits change = some deletion →
        KeepsTable displayed realm row commits deletion) ↔ CleanDelete (displayed realm) id commits := by
  have done : confirmDelete realm row (some title) commits change =
      some ⟨if commits then change realm else realm, [row]⟩ := rfl
  simp only [done, Option.some.injEq, forall_eq']
  cases commits with
  | false =>
      constructor
      · intro keeps
        exact absurd (keeps.failed rfl).2 (List.cons_ne_nil _ _)
      · intro clean
        exact absurd clean.1 Bool.false_ne_true
  | true =>
      have erases := filter_erases_iff (displayed realm) row id listed
      rw [← changed] at erases
      constructor
      · intro keeps
        exact ⟨rfl, erases.mp (keeps.called row (List.mem_singleton_self row)).2⟩
      · intro clean
        refine ⟨?_, fun impossible => absurd impossible.symm Bool.false_ne_true⟩
        intro deleted member
        exact ⟨List.mem_singleton.mp member, erases.mpr clean.2⟩

theorem find_deleted (items : List Item) (deleted : List ObjectId) (id : ObjectId) :
    (if id ∉ deleted then (items.filter fun item => item.id ∉ deleted).find? fun item => item.id = id else none) =
      (items.find? fun item => item.id = id).filter fun item => item.id ∉ deleted := by
  by_cases gone : id ∈ deleted
  · rw [if_neg (not_not.mpr gone)]
    cases found : items.find? fun item => item.id = id with
    | none => rfl
    | some item =>
        have same : item.id = id := by simpa using List.find?_some found
        simp [Option.filter, same, gone]
  · rw [if_pos gone, List.find?_filter]
    have sameTest : (fun item : Item => decide (decide (item.id ∉ deleted) = true ∧ decide (item.id = id) = true)) =
        fun item => decide (item.id = id) := by
      funext item
      by_cases here : item.id = id
      · simp [here, gone]
      · simp [here]
    rw [sameTest]
    cases found : items.find? fun item => item.id = id with
    | none => rfl
    | some item =>
        have same : item.id = id := by simpa using List.find?_some found
        simp [Option.filter, same, gone]

theorem list_items_deleted (realm : Realm) (deleted : List ObjectId) (category : ObjectId) :
    listItems (deleteItems realm deleted) category =
      (listItems realm category).filter fun item => item.id ∉ deleted := by
  have sameRow : (deleteItems realm deleted).categories.find? (fun stored => stored.id = category) =
      (realm.categories.find? fun stored => stored.id = category).map fun stored => stored.without deleted :=
    List.find?_map ..
  rw [listItems, sameRow, listItems]
  cases realm.categories.find? fun stored => stored.id = category with
  | none => rfl
  | some stored =>
      simp only [Option.map_some, Category.without, deleteItems]
      rw [List.filterMap_filter, List.filter_filterMap]
      apply List.filterMap_congr
      intro id _
      simpa using find_deleted realm.items deleted id

section Items

variable (contains : String → String → Bool) (realm : Realm) (controller : ItemViewController)

theorem rows_deleted (deleted : List ObjectId) :
    rows contains (deleteItems realm deleted) controller =
      (rows contains realm controller).map fun items => items.filter fun item => item.id ∉ deleted := by
  cases results : controller.items with
  | none => simp [rows, results]
  | some view =>
      have sameContent : listItems (deleteItems realm deleted) =
          fun category => (listItems realm category).filter fun item => item.id ∉ deleted :=
        funext fun category => list_items_deleted realm deleted category
      simp only [rows, results, Option.map_some, sameContent, LiveView.eval_filter]

theorem shown_items_deleted (id : ObjectId) :
    shownItems contains controller (deleteItems realm [id]) =
      (shownItems contains controller realm).filter fun other => other ≠ id := by
  rw [shownItems, rows_deleted, shownItems]
  cases rows contains realm controller with
  | none => rfl
  | some items => simp [List.filter_map, Function.comp_def]

end Items

theorem shown_categories_deleted (realm : Realm) (category : Category) :
    shownCategories (deleteCategory (deleteItems realm category.items) category.id) =
      (shownCategories realm).filter fun other => other ≠ category.id := by
  have emptied : categories (deleteItems realm category.items) =
      (categories realm).map fun stored => stored.without category.items :=
    LiveView.eval_map (fun _ => realm.categories) (fun predicate => predicate.elim)
      (fun category : Category => sortKey category.dateCreated) (fun stored => stored.without category.items)
      (fun _ => rfl) (fun predicate => predicate.elim) loadCategories
  have dropped : categories (deleteCategory (deleteItems realm category.items) category.id) =
      (categories (deleteItems realm category.items)).filter fun stored => stored.id ≠ category.id :=
    LiveView.eval_filter (fun _ => (deleteItems realm category.items).categories) (fun predicate => predicate.elim)
      (fun category : Category => sortKey category.dateCreated) (fun stored => stored.id ≠ category.id) loadCategories
  have sameIds : Category.id ∘ (fun stored : Category => stored.without category.items) = Category.id := rfl
  rw [shownCategories, dropped, emptied, shownCategories, List.filter_map, List.filter_map, List.map_map, sameIds]
  rfl

def ItemDeleteClean (contains : String → String → Bool) (realm : Realm) (controller : ItemViewController) (row : ℕ)
    (commits : Bool) : Prop :=
  ∀ item, itemAt contains realm controller row = some item → item.title.isSome = true →
    CleanDelete (shownItems contains controller realm) item.id commits

def CategoryDeleteClean (realm : Realm) (row : ℕ) (commits : Bool) : Prop :=
  ∀ category, (categories realm)[row]? = some category → category.title.isSome = true →
    CleanDelete (shownCategories realm) category.id commits

theorem item_delete_iff (contains : String → String → Bool) (realm : Realm) (controller : ItemViewController)
    (row : ℕ) (commits : Bool) :
    (∀ deletion, itemDeleteAction contains realm controller row commits = some deletion →
        KeepsTable (shownItems contains controller) realm row commits deletion) ↔
      ItemDeleteClean contains realm controller row commits := by
  cases shown : rows contains realm controller with
  | none =>
      simp only [itemDeleteAction, shown, ItemDeleteClean, itemAt, Option.some.injEq, forall_eq', Option.bind_none]
      refine ⟨?_, fun _ => ⟨?_, fun _ => ⟨rfl, rfl⟩⟩⟩
      · intro _ item impossible
        cases impossible
      · intro deleted impossible
        cases impossible
  | some items =>
      cases listed : items[row]? with
      | none => simp [itemDeleteAction, shown, ItemDeleteClean, itemAt, listed]
      | some item =>
          cases named : item.title with
          | none => simp [itemDeleteAction, shown, ItemDeleteClean, itemAt, listed, confirmDelete, named]
          | some title =>
              have inRow : (shownItems contains controller realm)[row]? = some item.id := by
                simp [shownItems, shown, listed]
              have iff := confirm_delete_iff (shownItems contains controller) realm row title commits
                (fun realm => deleteItems realm [item.id]) item.id inRow
                (shown_items_deleted contains realm controller item.id)
              simp only [itemDeleteAction, shown, listed, Option.bind_some, named, iff, ItemDeleteClean, itemAt,
                Option.some.injEq, forall_eq', Option.isSome_some, forall_const]

theorem category_delete_iff (realm : Realm) (row : ℕ) (commits : Bool) :
    (∀ deletion, categoryDeleteAction realm row commits = some deletion →
        KeepsTable shownCategories realm row commits deletion) ↔ CategoryDeleteClean realm row commits := by
  cases listed : (categories realm)[row]? with
  | none => simp [categoryDeleteAction, CategoryDeleteClean, listed]
  | some category =>
      cases named : category.title with
      | none => simp [categoryDeleteAction, CategoryDeleteClean, listed, confirmDelete, named]
      | some title =>
          have inRow : (shownCategories realm)[row]? = some category.id := by
            simp [shownCategories, listed]
          have iff := confirm_delete_iff shownCategories realm row title commits
            (fun realm => deleteCategory (deleteItems realm category.items) category.id) category.id inRow
            (shown_categories_deleted realm category)
          simp only [categoryDeleteAction, listed, Option.bind_some, named, iff, CategoryDeleteClean,
            Option.some.injEq, forall_eq', Option.isSome_some, forall_const]

theorem delete_actions_keep_table_iff (contains : String → String → Bool) (realm : Realm)
    (controller : ItemViewController) (row : ℕ) (commits : Bool) :
    ((∀ deletion, itemDeleteAction contains realm controller row commits = some deletion →
        KeepsTable (shownItems contains controller) realm row commits deletion) ↔
      ItemDeleteClean contains realm controller row commits) ∧
    ((∀ deletion, categoryDeleteAction realm row commits = some deletion →
        KeepsTable shownCategories realm row commits deletion) ↔ CategoryDeleteClean realm row commits) :=
  ⟨item_delete_iff contains realm controller row commits, category_delete_iff realm row commits⟩

def oneItem : Realm := ⟨[⟨0, some "Home", some 0, [1]⟩], [⟨1, some "Milk", false, some 1⟩], 2⟩

theorem failed_delete_still_called :
    ¬ ∀ deletion, itemDeleteAction (fun _ _ => true) oneItem (select 0) 0 false = some deletion →
      KeepsTable (shownItems (fun _ _ => true) (select 0)) oneItem 0 false deletion := by
  intro keeps
  have called : itemDeleteAction (fun _ _ => true) oneItem (select 0) 0 false = some ⟨oneItem, [0]⟩ := by decide +kernel
  exact absurd ((keeps _ called).failed rfl).2 (List.cons_ne_nil _ _)

section Sound

variable (contains : String → String → Bool) (realm : Realm) (inv : Sound realm)

include inv

theorem listed_items_distinct (category : ObjectId) : ((listItems realm category).map Item.id).Nodup := by
  rw [listItems]
  cases found : realm.categories.find? fun stored => stored.id = category with
  | none => exact List.nodup_nil
  | some stored =>
      have once : stored.items.Nodup :=
        (List.nodup_flatMap.mp (inv.partition.covers.nodup_iff.mpr inv.partition.distinct)).1 stored
          (List.mem_of_find?_eq_some found)
      have listed : (stored.items.filterMap fun id => realm.items.find? fun item => item.id = id).map Item.id =
          stored.items.filter fun id => (realm.items.find? fun item => item.id = id).isSome := by
        rw [List.map_filterMap, ← List.filterMap_eq_filter]
        apply List.filterMap_congr
        intro id _
        cases lookup : realm.items.find? fun item => item.id = id with
        | none => simp [Option.guard, lookup]
        | some item =>
            have same : item.id = id := by simpa using List.find?_some lookup
            simp [Option.guard, lookup, same]
      rw [listed]
      exact once.filter _

theorem shown_items_distinct (controller : ItemViewController) : (shownItems contains controller realm).Nodup := by
  cases results : controller.items with
  | none =>
      have none : shownItems contains controller realm = [] := by simp [shownItems, rows, results]
      rw [none]
      exact List.nodup_nil
  | some view =>
      have rowsPerm := (LiveView.eval_perm (listItems realm) (titleContains contains)
        (fun item => sortKey item.dateCreated) view).map Item.id
      have shown : shownItems contains controller realm =
          (view.eval (listItems realm) (titleContains contains) fun item => sortKey item.dateCreated).map Item.id := by
        simp [shownItems, rows, results]
      rw [shown, rowsPerm.nodup_iff]
      exact (List.filter_sublist.map Item.id).nodup (listed_items_distinct realm inv view.source)

theorem shown_categories_distinct : (shownCategories realm).Nodup := by
  have sorted : (categories realm).Perm realm.categories := List.perm_insertionSort _ _
  exact (sorted.map Category.id).nodup_iff.mpr inv.partition.owners

theorem sound_deletes_clean (controller : ItemViewController) (row : ℕ) :
    ItemDeleteClean contains realm controller row true ∧ CategoryDeleteClean realm row true := by
  refine ⟨?_, ?_⟩
  · intro item listed _
    obtain ⟨items, shown, inRow⟩ := Option.bind_eq_some_iff.mp listed
    have member : item.id ∈ shownItems contains controller realm := by
      rw [shownItems, shown]
      exact List.mem_map_of_mem (List.mem_of_getElem? inRow)
    exact ⟨rfl, List.count_eq_one_of_mem (shown_items_distinct contains realm inv controller) member⟩
  · intro category listed _
    have member : category.id ∈ shownCategories realm := List.mem_map_of_mem (List.mem_of_getElem? listed)
    exact ⟨rfl, List.count_eq_one_of_mem (shown_categories_distinct realm inv) member⟩

end Sound

end Pets.Todoey
