import Pets.Todoey.ItemViewController

set_option autoImplicit false

namespace Pets.Todoey

open Pets.Transition

-- All categories, newest first: the query behind the list never changes.
def loadCategories : LiveView Unit Empty := (LiveView.all ()).sorted

def categories (realm : Realm) : List Category :=
  loadCategories.eval (fun _ => realm.categories) (fun predicate => nomatch predicate) fun category =>
    sortKey category.dateCreated

def save (realm : Realm) (title : String) (now : Date) (commits : Bool) : Option Realm :=
  write realm commits fun realm => some (addCategory realm title now)

def addCategoryPressed (realm : Realm) (title : String) (now : Date) (commits : Bool) : Option Realm :=
  if title.isEmpty then some realm else save realm title now commits

def deleteCategoryRow (realm : Realm) (row : ℕ) (commits : Bool) : Option Realm :=
  (categories realm)[row]?.bind fun category =>
    write realm commits fun realm => some (deleteCategory (deleteItems realm category.items) category.id)

def prepare (realm : Realm) (row : ℕ) : Option ItemViewController :=
  (categories realm)[row]?.map fun category => select category.id

structure App where
  realm : Realm
  itemViewController : Option ItemViewController
deriving DecidableEq

def launched : App := ⟨⟨[], [], 0⟩, none⟩

inductive AppEvent where
  | add (title : String) (now : Date) (commits : Bool)
  | openRow (row : ℕ)
  | delete (row : ℕ) (commits : Bool)
  | item (event : ItemEvent)
deriving DecidableEq

/- The category list stays within reach while an item list is open, which only allows more
   runs. The exception that UIKit raises when deleteRows follows a delete that failed is left
   out, here and in itemStep: such a run goes on with the store as it was. -/
def appStep (contains : String → String → Bool) (app : App) : AppEvent → Option App
  | .add title now commits => (addCategoryPressed app.realm title now commits).map fun realm => { app with realm }
  | .openRow row => (prepare app.realm row).map fun controller => { app with itemViewController := some controller }
  | .delete row commits => (deleteCategoryRow app.realm row commits).map fun realm => { app with realm }
  | .item event =>
      match app.itemViewController with
      | some controller =>
          (itemStep contains ⟨app.realm, controller⟩ event).map fun screen =>
            ⟨screen.realm, some screen.controller⟩
      | none => some app

inductive StoreStep (realm : Realm) : Realm → Prop where
  | unchanged : StoreStep realm realm
  | addedCategory (title : String) (now : Date) : StoreStep realm (addCategory realm title now)
  | appended (category : ObjectId) (title : String) (now : Date) (after : Realm)
      (stored : appendItem realm category title now = some after) : StoreStep realm after
  | setDone (item : ObjectId) (done : Bool) : StoreStep realm (setDone realm item done)
  | deletedItem (item : ObjectId) : StoreStep realm (deleteItems realm [item])
  | deletedCategory (category : Category) (present : category ∈ realm.categories) :
      StoreStep realm (deleteCategory (deleteItems realm category.items) category.id)

theorem write_step (realm after : Realm) (commits : Bool) (block : Realm → Option Realm)
    (wrote : write realm commits block = some after)
    (steps : ∀ changed, block realm = some changed → StoreStep realm changed) : StoreStep realm after := by
  obtain ⟨changed, done, rfl⟩ := Option.map_eq_some_iff.mp wrote
  cases commits with
  | false => exact StoreStep.unchanged
  | true => exact steps changed done

theorem mem_categories (realm : Realm) (category : Category) :
    category ∈ categories realm ↔ category ∈ realm.categories := by
  rw [categories, LiveView.mem_eval]
  exact ⟨fun listed => listed.1, fun stored => ⟨stored, fun _ impossible => by cases impossible⟩⟩

theorem deleted_row (realm after : Realm) (row : ℕ) (commits : Bool)
    (deleted : deleteCategoryRow realm row commits = some after) :
    ∃ category, (categories realm)[row]? = some category ∧ category ∈ realm.categories ∧
      after = if commits then deleteCategory (deleteItems realm category.items) category.id else realm := by
  obtain ⟨category, listed, wrote⟩ := Option.bind_eq_some_iff.mp deleted
  have present := (mem_categories realm category).mp (List.mem_of_getElem? listed)
  exact ⟨category, listed, present, (Option.some.inj wrote).symm⟩

theorem add_store_step (realm after : Realm) (controller : ItemViewController) (title : String) (now : Date)
    (commits : Bool) (added : addPressed realm controller title now commits = some after) : StoreStep realm after := by
  cases selected : controller.selectedCategory with
  | none =>
      simp only [addPressed, selected] at added
      exact Option.some.inj added ▸ StoreStep.unchanged
  | some currentCategory =>
      simp only [addPressed, selected] at added
      by_cases blank : title.isEmpty = true
      · rw [if_pos blank] at added
        exact Option.some.inj added ▸ StoreStep.unchanged
      · rw [if_neg blank] at added
        apply write_step realm after commits _ added
        exact fun changed stored => StoreStep.appended currentCategory title now changed stored

theorem row_store_step (contains : String → String → Bool) (realm after : Realm) (controller : ItemViewController)
    (row : ℕ) (commits : Bool) (change : Item → Realm → Realm)
    (wrote : writeRow contains realm controller row commits change = some after)
    (steps : ∀ item, StoreStep realm (change item realm)) : StoreStep realm after := by
  cases shown : rows contains realm controller with
  | none =>
      simp only [writeRow, shown] at wrote
      exact Option.some.inj wrote ▸ StoreStep.unchanged
  | some items =>
      simp only [writeRow, shown] at wrote
      obtain ⟨item, _, written⟩ := Option.bind_eq_some_iff.mp wrote
      exact write_step realm after commits _ written fun changed done => Option.some.inj done ▸ steps item

theorem item_store_step (contains : String → String → Bool) (screen next : ItemScreen) (event : ItemEvent)
    (moved : itemStep contains screen event = some next) : StoreStep screen.realm next.realm := by
  cases event with
  | add title now commits =>
      obtain ⟨realm, added, rfl⟩ := Option.map_eq_some_iff.mp moved
      exact add_store_step screen.realm realm screen.controller title now commits added
  | toggle row commits =>
      obtain ⟨realm, toggled, rfl⟩ := Option.map_eq_some_iff.mp moved
      exact row_store_step contains _ _ _ row commits _ toggled fun item => StoreStep.setDone item.id (!item.done)
  | delete row commits =>
      obtain ⟨realm, deleted, rfl⟩ := Option.map_eq_some_iff.mp moved
      exact row_store_step contains _ _ _ row commits _ deleted fun item => StoreStep.deletedItem item.id
  | edit searchText =>
      cases moved
      exact StoreStep.unchanged
  | search =>
      by_cases blank : screen.controller.searchText.isEmpty = true
      · rw [itemStep, if_pos blank] at moved
        exact Option.some.inj moved ▸ StoreStep.unchanged
      · rw [itemStep, if_neg blank] at moved
        exact Option.some.inj moved ▸ StoreStep.unchanged

theorem app_store_step (contains : String → String → Bool) (app next : App) (event : AppEvent)
    (moved : appStep contains app event = some next) : StoreStep app.realm next.realm := by
  cases event with
  | add title now commits =>
      obtain ⟨realm, added, rfl⟩ := Option.map_eq_some_iff.mp moved
      by_cases blank : title.isEmpty = true
      · rw [addCategoryPressed, if_pos blank] at added
        cases added
        exact StoreStep.unchanged
      · rw [addCategoryPressed, if_neg blank] at added
        exact write_step _ _ _ _ added fun changed done => Option.some.inj done ▸ StoreStep.addedCategory title now
  | openRow row =>
      obtain ⟨controller, _, rfl⟩ := Option.map_eq_some_iff.mp moved
      exact StoreStep.unchanged
  | delete row commits =>
      obtain ⟨realm, deleted, rfl⟩ := Option.map_eq_some_iff.mp moved
      obtain ⟨category, _, present, after⟩ := deleted_row app.realm realm row commits deleted
      cases commits with
      | false => exact after ▸ StoreStep.unchanged
      | true => exact after ▸ StoreStep.deletedCategory category present
  | item event =>
      cases controller : app.itemViewController with
      | none =>
          simp only [appStep, controller] at moved
          cases moved
          exact StoreStep.unchanged
      | some opened =>
          simp only [appStep, controller] at moved
          obtain ⟨screen, stepped, rfl⟩ := Option.map_eq_some_iff.mp moved
          exact item_store_step contains ⟨app.realm, opened⟩ screen event stepped

end Pets.Todoey
