import Pets.Todoey.Checkmark
import Pets.Todoey.DeleteRow
import Pets.Todoey.Integrity

set_option autoImplicit false

namespace Pets.Todoey

open Pets.Lists Pets.Ownership Pets.Transition

-- What the user takes the store for: lists with a title that hold their items themselves.
structure TodoList where
  id : ObjectId
  title : Option String
  dateCreated : Option Date
  items : List Item
deriving DecidableEq

structure Outline where
  lists : List TodoList
  nextId : ObjectId
deriving DecidableEq

namespace Outline

def addList (outline : Outline) (title : String) (now : Date) : Outline :=
  ⟨outline.lists ++ [⟨outline.nextId, some title, some now, []⟩], outline.nextId + 1⟩

def addItem (outline : Outline) (category : ObjectId) (title : String) (now : Date) : Option Outline :=
  if category ∈ outline.lists.map TodoList.id then
    some ⟨outline.lists.map fun list =>
      if list.id = category then
        { list with items := list.items ++ [⟨outline.nextId, some title, false, some now⟩] }
      else list, outline.nextId + 1⟩
  else none

def setDone (outline : Outline) (item : ObjectId) (done : Bool) : Outline :=
  { outline with lists := outline.lists.map fun list =>
      { list with items := list.items.map fun stored => stored.marked item done } }

def deleteItem (outline : Outline) (item : ObjectId) : Outline :=
  { outline with lists := outline.lists.map fun list =>
      { list with items := list.items.filter fun stored => stored.id ∉ [item] } }

def deleteList (outline : Outline) (list : ObjectId) : Outline :=
  { outline with lists := outline.lists.filter fun other => other.id ≠ list }

def listItems (outline : Outline) (category : ObjectId) : List Item :=
  match outline.lists.find? fun list => list.id = category with
  | some list => list.items
  | none => []

def rows (contains : String → String → Bool) (outline : Outline) (controller : ItemViewController) :
    Option (List Item) :=
  controller.items.map fun results =>
    results.eval outline.listItems (titleContains contains) fun item => sortKey item.dateCreated

def writeRow (contains : String → String → Bool) (outline : Outline) (controller : ItemViewController) (row : ℕ)
    (commits : Bool) (change : Item → Outline) : Option Outline :=
  match rows contains outline controller with
  | some items => items[row]?.map fun item => if commits then change item else outline
  | none => some outline

def addPressed (outline : Outline) (controller : ItemViewController) (title : String) (now : Date) (commits : Bool) :
    Option Outline :=
  match controller.selectedCategory with
  | some category =>
      if title.isEmpty then some outline
      else (outline.addItem category title now).map fun changed => if commits then changed else outline
  | none => some outline

def itemStep (contains : String → String → Bool) (outline : Outline) (controller : ItemViewController) :
    ItemEvent → Option (Outline × ItemViewController)
  | .add title now commits => (addPressed outline controller title now commits).map fun outline => (outline, controller)
  | .toggle row commits =>
      (writeRow contains outline controller row commits fun item => outline.setDone item.id (!item.done)).map
        fun outline => (outline, controller)
  | .delete row commits =>
      (writeRow contains outline controller row commits fun item => outline.deleteItem item.id).map
        fun outline => (outline, controller)
  | .edit searchText => some (outline, textDidChange controller searchText)
  | .search =>
      if controller.searchText.isEmpty then some (outline, controller)
      else some (outline, searchBarSearchButtonClicked controller)

def sortedLists (outline : Outline) : List TodoList :=
  outline.lists.insertionSort fun a b => sortKey b.dateCreated ≤ sortKey a.dateCreated

def appStep (contains : String → String → Bool) (app : Outline × Option ItemViewController) :
    AppEvent → Option (Outline × Option ItemViewController)
  | .add title now commits =>
      some (if title.isEmpty then app.1 else if commits then app.1.addList title now else app.1, app.2)
  | .openRow row => app.1.sortedLists[row]?.map fun list => (app.1, some (select list.id))
  | .delete row commits =>
      app.1.sortedLists[row]?.map fun list => (if commits then app.1.deleteList list.id else app.1, app.2)
  | .item event =>
      match app.2 with
      | some controller =>
          (itemStep contains app.1 controller event).map fun next => (next.1, some next.2)
      | none => some app

end Outline

def outlined (realm : Realm) (category : Category) : TodoList :=
  ⟨category.id, category.title, category.dateCreated, listItems realm category.id⟩

def outline (realm : Realm) : Outline := ⟨realm.categories.map (outlined realm), realm.nextId⟩

def outlineApp (app : App) : Outline × Option ItemViewController := (outline app.realm, app.itemViewController)

theorem find_appended (items : List Item) (item : Item) (id : ObjectId) (fresh : item.id ∉ items.map Item.id) :
    (items ++ [item]).find? (fun stored => stored.id = id) =
      if id = item.id then some item else items.find? fun stored => stored.id = id := by
  rw [List.find?_append]
  by_cases here : id = item.id
  · have none : items.find? (fun stored => stored.id = id) = none := by
      apply List.find?_eq_none.mpr
      intro stored member same
      have id : stored.id = item.id := (of_decide_eq_true same).trans here
      exact fresh (id ▸ List.mem_map_of_mem member)
    rw [none, if_pos here, Option.none_or, List.find?_cons_of_pos (by simp [here])]
  · rw [if_neg here, List.find?_cons_of_neg (by simp [Ne.symm here]), List.find?_nil, Option.or_none]

section Operations

variable (realm : Realm)

theorem outline_list_items (category : ObjectId) : (outline realm).listItems category = listItems realm category := by
  have sameTest : (fun list : TodoList => decide (list.id = category)) ∘ outlined realm =
      fun stored : Category => decide (stored.id = category) := rfl
  rw [Outline.listItems, outline, List.find?_map, sameTest]
  cases found : realm.categories.find? fun stored => stored.id = category with
  | none => rw [listItems, found]; rfl
  | some stored =>
      have same : stored.id = category := by simpa using List.find?_some found
      simp only [Option.map_some, outlined, same]

theorem outline_rows (contains : String → String → Bool) (controller : ItemViewController) :
    (outline realm).rows contains controller = rows contains realm controller := by
  have same : (outline realm).listItems = listItems realm := funext (outline_list_items realm)
  rw [Outline.rows, rows, same]

theorem outline_sorted : (outline realm).sortedLists = (categories realm).map (outlined realm) := by
  have compared : ∀ a ∈ realm.categories, ∀ b ∈ realm.categories,
      sortKey b.dateCreated ≤ sortKey a.dateCreated ↔
        sortKey (outlined realm b).dateCreated ≤ sortKey (outlined realm a).dateCreated := fun _ _ _ _ => Iff.rfl
  exact (List.map_insertionSort (fun a b : Category => sortKey b.dateCreated ≤ sortKey a.dateCreated)
    (fun a b : TodoList => sortKey b.dateCreated ≤ sortKey a.dateCreated) (outlined realm) realm.categories compared).symm

theorem outline_ids : (outline realm).lists.map TodoList.id = realm.categories.map Category.id := by
  rw [outline, List.map_map]
  rfl

theorem outline_set_done (item : ObjectId) (done : Bool) :
    outline (setDone realm item done) = (outline realm).setDone item done := by
  rw [outline, Outline.setDone, outline]
  congr 1
  rw [List.map_map]
  apply List.map_congr_left
  intro category _
  rw [outlined, list_items_marked]
  rfl

theorem outline_delete_item (item : ObjectId) :
    outline (deleteItems realm [item]) = (outline realm).deleteItem item := by
  rw [outline, Outline.deleteItem, outline]
  congr 1
  rw [deleteItems, List.map_map, List.map_map]
  apply List.map_congr_left
  intro category _
  have same := list_items_deleted realm [item] category.id
  rw [deleteItems] at same
  rw [Function.comp_apply, Function.comp_apply, outlined, Category.without, same]
  rfl

variable (inv : Sound realm)

include inv

theorem outline_add_list (title : String) (now : Date) :
    outline (addCategory realm title now) = (outline realm).addList title now := by
  have after := add_category_sound realm title now inv
  rw [outline, Outline.addList, outline]
  congr 1
  rw [addCategory, List.map_append, List.map_singleton]
  congr 1
  · apply List.map_congr_left
    intro category stored
    have kept : category ∈ (addCategory realm title now).categories := List.mem_append_left _ stored
    have same := list_items_stored _ after.partition.owners category kept
    rw [outlined, outlined, list_items_stored realm inv.partition.owners category stored]
    exact congrArg _ same
  · have kept : (⟨realm.nextId, some title, some now, []⟩ : Category) ∈ (addCategory realm title now).categories :=
      List.mem_append_right _ (List.mem_singleton_self _)
    have none := list_items_stored _ after.partition.owners _ kept
    rw [outlined]
    exact congrArg (fun items => [(⟨realm.nextId, some title, some now, items⟩ : TodoList)]) none

theorem outline_delete_list (category : Category) (present : category ∈ realm.categories) :
    outline (deleteCategory (deleteItems realm category.items) category.id) =
      (outline realm).deleteList category.id := by
  have chosen : realm.categories.filter ((fun list : TodoList => decide (list.id ≠ category.id)) ∘ outlined realm) =
      realm.categories.filter fun other => other ≠ category := by
    apply List.filter_congr
    intro other stored
    apply decide_eq_decide.mpr
    exact not_congr ⟨List.inj_on_of_nodup_map inv.partition.owners stored present, fun same => by rw [same]; rfl⟩
  have lists : (deleteCategory (deleteItems realm category.items) category.id).categories.map
      (outlined (deleteCategory (deleteItems realm category.items) category.id)) =
        (realm.categories.map (outlined realm)).filter fun list => list.id ≠ category.id := by
    rw [remaining_categories realm category inv present, List.filter_map, chosen]
    apply List.map_congr_left
    intro other kept
    obtain ⟨stored, different⟩ := List.mem_filter.mp kept
    rw [outlined, other_items_found realm category inv present other stored (of_decide_eq_true different)]
    rfl
  rw [outline, lists]
  rfl

theorem outline_append (category : ObjectId) (title : String) (now : Date) (after : Realm)
    (appended : appendItem realm category title now = some after) (stored : Category)
    (member : stored ∈ realm.categories) :
    outlined after (stored.append category realm.nextId) =
      if stored.id = category then
        { outlined realm stored with
          items := (outlined realm stored).items ++ [⟨realm.nextId, some title, false, some now⟩] }
      else outlined realm stored := by
  have sound := append_item_sound realm after category title now inv appended
  have unused : realm.nextId ∉ realm.items.map Item.id := below_unused _ _ inv.itemIds
  have known : ∀ id ∈ stored.items, id ≠ realm.nextId := by
    intro id listed same
    exact unused (same ▸ partition_stored _ _ _ _ inv.partition stored member id listed)
  rw [appendItem] at appended
  split_ifs at appended with present
  cases appended
  have kept : stored.append category realm.nextId ∈
      realm.categories.map fun stored => stored.append category realm.nextId := List.mem_map_of_mem member
  have found : ∀ ids : List ObjectId, (∀ id ∈ ids, id ≠ realm.nextId) →
      (ids.filterMap fun id => (realm.items ++ [(⟨realm.nextId, some title, false, some now⟩ : Item)]).find? fun item => item.id = id) =
        ids.filterMap fun id => realm.items.find? fun item => item.id = id := by
    intro ids old
    apply List.filterMap_congr
    intro id listed
    rw [find_appended _ _ _ unused, if_neg (old id listed)]
  have newest : ([realm.nextId].filterMap fun id =>
      (realm.items ++ [(⟨realm.nextId, some title, false, some now⟩ : Item)]).find? fun item => item.id = id) =
        [⟨realm.nextId, some title, false, some now⟩] := by
    rw [List.filterMap_cons, find_appended realm.items ⟨realm.nextId, some title, false, some now⟩ _ unused, if_pos rfl]
    rfl
  have items := list_items_stored _ sound.partition.owners _ kept
  rw [append_items] at items
  rw [outlined, items, outlined, list_items_stored realm inv.partition.owners stored member]
  by_cases here : stored.id = category
  · rw [if_pos here, if_pos here, List.filterMap_append, found _ known, newest, Category.append, if_pos here]
  · rw [if_neg here, if_neg here, found _ known, Category.append, if_neg here]

theorem outline_add_item (category : ObjectId) (title : String) (now : Date) :
    (appendItem realm category title now).map outline = (outline realm).addItem category title now := by
  rw [Outline.addItem, outline_ids]
  cases appended : appendItem realm category title now with
  | none =>
      rw [appendItem] at appended
      split_ifs at appended with present
      rw [if_neg present]
      rfl
  | some after =>
      have lists := outline_append realm inv category title now after appended
      rw [appendItem] at appended
      split_ifs at appended with present
      cases appended
      rw [if_pos present, Option.map_some, outline, outline, List.map_map, List.map_map]
      congr 2
      apply List.map_congr_left
      exact fun stored member => lists stored member

end Operations

section Steps

variable (contains : String → String → Bool)

theorem outline_write_row (realm : Realm) (controller : ItemViewController) (row : ℕ) (commits : Bool)
    (change : Item → Realm → Realm) (change' : Item → Outline)
    (same : ∀ item, outline (change item realm) = change' item) :
    (writeRow contains realm controller row commits change).map outline =
      (outline realm).writeRow contains controller row commits change' := by
  rw [writeRow, Outline.writeRow, outline_rows]
  cases rows contains realm controller with
  | none => rfl
  | some items =>
      cases listed : items[row]? with
      | none => simp [listed]
      | some item => cases commits <;> simp [listed, write, same]

theorem outline_add_pressed (realm : Realm) (inv : Sound realm) (controller : ItemViewController) (title : String)
    (now : Date) (commits : Bool) :
    (addPressed realm controller title now commits).map outline =
      (outline realm).addPressed controller title now commits := by
  rw [addPressed, Outline.addPressed]
  cases controller.selectedCategory with
  | none => rfl
  | some category =>
      by_cases blank : title.isEmpty = true
      · simp [blank]
      · have added := outline_add_item realm inv category title now
        simp only [blank, if_neg, Bool.false_eq_true, not_false_eq_true, write, ← added, Option.map_map]
        congr 1
        funext changed
        cases commits <;> rfl

theorem outline_item_step (realm : Realm) (inv : Sound realm) (controller : ItemViewController) (event : ItemEvent) :
    (itemStep contains ⟨realm, controller⟩ event).map (fun screen => (outline screen.realm, screen.controller)) =
      (outline realm).itemStep contains controller event := by
  cases event with
  | add title now commits =>
      rw [itemStep, Outline.itemStep, ← outline_add_pressed realm inv, Option.map_map, Option.map_map]
      rfl
  | toggle row commits =>
      rw [itemStep, Outline.itemStep, didSelectRow, ← outline_write_row contains realm controller row commits
        (fun item realm => setDone realm item.id (!item.done)) _ fun item => outline_set_done realm item.id _,
        Option.map_map, Option.map_map]
      rfl
  | delete row commits =>
      rw [itemStep, Outline.itemStep, deleteRow, ← outline_write_row contains realm controller row commits
        (fun item realm => deleteItems realm [item.id]) _ fun item => outline_delete_item realm item.id,
        Option.map_map, Option.map_map]
      rfl
  | edit searchText => rfl
  | search =>
      rw [itemStep, Outline.itemStep]
      split <;> rfl

theorem outline_app_step (app : App) (inv : Sound app.realm) (event : AppEvent) :
    (appStep contains app event).map outlineApp = Outline.appStep contains (outlineApp app) event := by
  cases event with
  | add title now commits =>
      rw [appStep, addCategoryPressed, save, write, Outline.appStep]
      by_cases blank : title.isEmpty = true
      · simp [blank, outlineApp]
      · cases commits <;> simp [blank, outlineApp, outline_add_list app.realm inv]
  | openRow row =>
      rw [appStep, prepare, Outline.appStep, outlineApp, outline_sorted, List.getElem?_map, Option.map_map,
        Option.map_map, Option.map_map]
      rfl
  | delete row commits =>
      rw [appStep, deleteCategoryRow, Outline.appStep, outlineApp, outline_sorted, List.getElem?_map]
      cases listed : (categories app.realm)[row]? with
      | none => rfl
      | some category =>
          have present := (mem_categories app.realm category).mp (List.mem_of_getElem? listed)
          have same := outline_delete_list app.realm inv category present
          cases commits <;> simp [write, outlineApp, same, outlined]
  | item event =>
      obtain ⟨realm, opened⟩ := app
      rw [appStep, Outline.appStep, outlineApp]
      cases opened with
      | none => rfl
      | some controller =>
          simp only [← outline_item_step contains realm inv, Option.map_map]
          rfl

-- In every run of the app the linked objects of the store are what the lists would
-- be, and every screen reads the same off both.
theorem store_refines_outline (events : List AppEvent) :
    (run (appStep contains) launched events).map outlineApp =
      run (Outline.appStep contains) (⟨[], 0⟩, none) events := by
  induction events using List.reverseRecOn with
  | nil => rfl
  | append_singleton events event ih =>
      rw [run_snoc, run_snoc, ← ih]
      cases ran : run (appStep contains) launched events with
      | none => rfl
      | some app => exact outline_app_step contains app (run_sound contains events app ran) event

end Steps

end Pets.Todoey
