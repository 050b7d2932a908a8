import Pets.Todoey.Rows

set_option autoImplicit false

namespace Pets.Todoey

open Pets.Transition

structure ItemCell where
  textLabel : Option String
  detailTextLabel : Option String
  accessoryType : AccessoryType
deriving DecidableEq

section Cells

variable (contains : String → String → Bool) (realm : Realm)

def numberOfRows (controller : ItemViewController) : ℕ :=
  match rows contains realm controller with
  | some items => items.length
  | none => 1

-- A reused cell keeps what is not set anew. A row past the end of the list and an
-- item without a date trap.
def itemCell (string : String → Date → String) (controller : ItemViewController) (dequeued : ItemCell) (row : ℕ) :
    Option ItemCell :=
  match rows contains realm controller with
  | some items =>
      items[row]?.bind fun item => item.dateCreated.map fun dateCreated =>
        ⟨item.title, some (string "HH:mm MMM d, yyyy " dateCreated), switcher item.done⟩
  | none => some { dequeued with textLabel := some "No items added yet" }

def question (title kind : String) : String := "Do you really want to delete '" ++ title ++ "' " ++ kind ++ "?"

-- What the alert of the delete action asks, where there is a row to ask about; an
-- item without a title traps.
def deleteItemAlert (controller : ItemViewController) (row : ℕ) : Option (Option String) :=
  match rows contains realm controller with
  | some items => items[row]?.bind fun item => item.title.map fun title => some (question title "item")
  | none => some none

def deleteCategoryAlert (row : ℕ) : Option String :=
  (categories realm)[row]?.bind fun category => category.title.map fun title => question title "category"

end Cells

def AddedTo (contains : String → String → Bool) (events : List AppEvent) (category : ObjectId) (title : String)
    (now : Date) : Prop :=
  ∃ before after app controller, events = before ++ .item (.add title now true) :: after ∧
    run (appStep contains) launched before = some app ∧ app.itemViewController = some controller ∧
    controller.selectedCategory = some category

def TypedAs (title : Option String) (dateCreated : Option Date) (added : String → Date → Prop) : Prop :=
  ∃ text now, title = some text ∧ dateCreated = some now ∧ text.isEmpty = false ∧ added text now

structure Outline.Authored (contains : String → String → Bool) (events : List AppEvent) (outline : Outline) : Prop where
  lists : ∀ list ∈ outline.lists, TypedAs list.title list.dateCreated fun title now => .add title now true ∈ events
  items : ∀ list ∈ outline.lists, ∀ item ∈ list.items,
    TypedAs item.title item.dateCreated (AddedTo contains events list.id)

def Opened (controller : ItemViewController) : Prop :=
  ∃ category view, controller.selectedCategory = some category ∧ controller.items = some view ∧ view.source = category

section Authored

variable (contains : String → String → Bool)

theorem typed_as_more (title : Option String) (dateCreated : Option Date) (added later : String → Date → Prop)
    (typed : TypedAs title dateCreated added) (stays : ∀ text now, added text now → later text now) :
    TypedAs title dateCreated later := by
  obtain ⟨text, now, sameTitle, sameDate, written, holds⟩ := typed
  exact ⟨text, now, sameTitle, sameDate, written, stays text now holds⟩

theorem added_to_more (events : List AppEvent) (event : AppEvent) (category : ObjectId) (title : String) (now : Date)
    (added : AddedTo contains events category title now) : AddedTo contains (events ++ [event]) category title now := by
  obtain ⟨before, after, app, controller, rfl, reached, opened, selected⟩ := added
  exact ⟨before, after ++ [event], app, controller, by simp, reached, opened, selected⟩

theorem authored_more (events : List AppEvent) (event : AppEvent) (outline : Outline)
    (authored : outline.Authored contains events) : outline.Authored contains (events ++ [event]) := by
  refine ⟨?_, ?_⟩
  · intro list stored
    exact typed_as_more _ _ _ _ (authored.lists list stored) fun _ _ known => List.mem_append_left _ known
  · intro list stored item listed
    exact typed_as_more _ _ _ _ (authored.items list stored item listed) fun title now known =>
      added_to_more contains events event list.id title now known

theorem authored_map (events : List AppEvent) (outline : Outline) (change : TodoList → TodoList) (nextId : ObjectId)
    (authored : outline.Authored contains events)
    (same : ∀ list, (change list).id = list.id ∧ (change list).title = list.title ∧
      (change list).dateCreated = list.dateCreated)
    (typed : ∀ list ∈ outline.lists, ∀ item ∈ (change list).items,
      TypedAs item.title item.dateCreated (AddedTo contains events list.id)) :
    Outline.Authored contains events ⟨outline.lists.map change, nextId⟩ := by
  refine ⟨?_, ?_⟩
  · intro list member
    obtain ⟨before, stored, rfl⟩ := List.mem_map.mp member
    rw [(same before).2.1, (same before).2.2]
    exact authored.lists before stored
  · intro list member item listed
    obtain ⟨before, stored, rfl⟩ := List.mem_map.mp member
    rw [(same before).1]
    exact typed before stored item listed

theorem add_list_authored (events : List AppEvent) (outline : Outline) (title : String) (now : Date)
    (authored : outline.Authored contains events) (written : title.isEmpty = false)
    (known : .add title now true ∈ events) : (outline.addList title now).Authored contains events := by
  refine ⟨?_, ?_⟩
  · intro list member
    rcases List.mem_append.mp member with before | new
    · exact authored.lists list before
    · rw [List.mem_singleton.mp new]
      exact ⟨title, now, rfl, rfl, written, known⟩
  · intro list member item listed
    rcases List.mem_append.mp member with before | new
    · exact authored.items list before item listed
    · rw [List.mem_singleton.mp new] at listed
      exact (List.not_mem_nil listed).elim

theorem add_item_authored (events : List AppEvent) (outline after : Outline) (category : ObjectId) (title : String)
    (now : Date) (authored : outline.Authored contains events) (written : title.isEmpty = false)
    (known : AddedTo contains events category title now) (added : outline.addItem category title now = some after) :
    after.Authored contains events := by
  rw [Outline.addItem] at added
  split_ifs at added with present
  cases added
  refine authored_map contains events outline _ _ authored ?_ ?_
  · intro list
    split <;> exact ⟨rfl, rfl, rfl⟩
  · intro list stored item listed
    by_cases here : list.id = category
    · rw [if_pos here] at listed
      rcases List.mem_append.mp listed with before | new
      · exact authored.items list stored item before
      · rw [List.mem_singleton.mp new]
        exact ⟨title, now, rfl, rfl, written, here ▸ known⟩
    · rw [if_neg here] at listed
      exact authored.items list stored item listed

theorem set_done_authored (events : List AppEvent) (outline : Outline) (item : ObjectId) (done : Bool)
    (authored : outline.Authored contains events) : (outline.setDone item done).Authored contains events := by
  refine authored_map contains events outline _ _ authored (fun _ => ⟨rfl, rfl, rfl⟩) ?_
  intro list stored changed listed
  obtain ⟨before, inside, rfl⟩ := List.mem_map.mp listed
  have typed := authored.items list stored before inside
  rw [Item.marked]
  split <;> exact typed

theorem delete_item_authored (events : List AppEvent) (outline : Outline) (item : ObjectId)
    (authored : outline.Authored contains events) : (outline.deleteItem item).Authored contains events := by
  refine authored_map contains events outline _ _ authored (fun _ => ⟨rfl, rfl, rfl⟩) ?_
  intro list stored kept listed
  exact authored.items list stored kept (List.mem_filter.mp listed).1

theorem delete_list_authored (events : List AppEvent) (outline : Outline) (list : ObjectId)
    (authored : outline.Authored contains events) : (outline.deleteList list).Authored contains events :=
  ⟨fun other member => authored.lists other (List.mem_filter.mp member).1,
    fun other member => authored.items other (List.mem_filter.mp member).1⟩

theorem write_row_authored (events : List AppEvent) (outline after : Outline) (controller : ItemViewController)
    (row : ℕ) (commits : Bool) (change : Item → Outline) (authored : outline.Authored contains events)
    (changes : ∀ item, (change item).Authored contains events)
    (wrote : outline.writeRow contains controller row commits change = some after) :
    after.Authored contains events := by
  rw [Outline.writeRow] at wrote
  cases shown : outline.rows contains controller with
  | none =>
      rw [shown] at wrote
      cases wrote
      exact authored
  | some items =>
      rw [shown] at wrote
      obtain ⟨item, _, rfl⟩ := Option.map_eq_some_iff.mp wrote
      cases commits with
      | false => exact authored
      | true => exact changes item

theorem add_pressed_authored (events : List AppEvent) (outline after : Outline) (controller : ItemViewController)
    (title : String) (now : Date) (commits : Bool) (authored : outline.Authored contains events)
    (known : ∀ category, controller.selectedCategory = some category → commits = true →
      AddedTo contains events category title now)
    (added : outline.addPressed controller title now commits = some after) : after.Authored contains events := by
  rw [Outline.addPressed] at added
  cases selected : controller.selectedCategory with
  | none =>
      rw [selected] at added
      cases added
      exact authored
  | some category =>
      rw [selected] at added
      by_cases blank : title.isEmpty = true
      · simp only [if_pos blank] at added
        cases added
        exact authored
      · simp only [if_neg blank] at added
        obtain ⟨changed, appended, rfl⟩ := Option.map_eq_some_iff.mp added
        cases commits with
        | false => exact authored
        | true =>
            exact add_item_authored contains events outline changed category title now authored
              (Bool.eq_false_iff.mpr blank) (known category selected rfl) appended

theorem item_step_authored (events : List AppEvent) (outline : Outline) (controller : ItemViewController)
    (event : ItemEvent) (next : Outline × ItemViewController) (authored : outline.Authored contains events)
    (known : ∀ category title now, controller.selectedCategory = some category → event = .add title now true →
      AddedTo contains events category title now)
    (moved : outline.itemStep contains controller event = some next) : next.1.Authored contains events := by
  cases event with
  | add title now commits =>
      obtain ⟨after, added, rfl⟩ := Option.map_eq_some_iff.mp moved
      apply add_pressed_authored contains events outline after controller title now commits authored _ added
      intro category selected committed
      exact known category title now selected (by rw [committed])
  | toggle row commits =>
      obtain ⟨after, wrote, rfl⟩ := Option.map_eq_some_iff.mp moved
      exact write_row_authored contains events outline after controller row commits _ authored
        (fun item => set_done_authored contains events outline item.id _ authored) wrote
  | delete row commits =>
      obtain ⟨after, wrote, rfl⟩ := Option.map_eq_some_iff.mp moved
      exact write_row_authored contains events outline after controller row commits _ authored
        (fun item => delete_item_authored contains events outline item.id authored) wrote
  | edit searchText =>
      cases moved
      exact authored
  | search =>
      rw [Outline.itemStep] at moved
      split at moved <;> cases moved <;> exact authored

theorem app_step_authored (events : List AppEvent) (app next : Outline × Option ItemViewController) (event : AppEvent)
    (authored : app.1.Authored contains (events ++ [event])) (known : ∀ controller category title now,
      app.2 = some controller → controller.selectedCategory = some category → event = .item (.add title now true) →
        AddedTo contains (events ++ [event]) category title now)
    (moved : Outline.appStep contains app event = some next) : next.1.Authored contains (events ++ [event]) := by
  cases event with
  | add title now commits =>
      cases moved
      by_cases blank : title.isEmpty = true
      · simp only [if_pos blank]
        exact authored
      · cases commits with
        | false =>
            simp only [if_neg blank]
            exact authored
        | true =>
            simp only [if_neg blank]
            exact add_list_authored contains _ app.1 title now authored (Bool.eq_false_iff.mpr blank)
              (List.mem_append_right _ (List.mem_singleton_self _))
  | openRow row =>
      obtain ⟨list, _, rfl⟩ := Option.map_eq_some_iff.mp moved
      exact authored
  | delete row commits =>
      obtain ⟨list, _, rfl⟩ := Option.map_eq_some_iff.mp moved
      cases commits with
      | false => exact authored
      | true => exact delete_list_authored contains _ app.1 list.id authored
  | item event =>
      rw [Outline.appStep] at moved
      cases opened : app.2 with
      | none =>
          rw [opened] at moved
          cases moved
          exact authored
      | some controller =>
          rw [opened] at moved
          obtain ⟨screen, stepped, rfl⟩ := Option.map_eq_some_iff.mp moved
          apply item_step_authored contains _ app.1 controller event screen authored _ stepped
          intro category title now selected added
          exact known controller category title now opened selected (by rw [added])

theorem run_authored (events : List AppEvent) (app : App) (ran : run (appStep contains) launched events = some app) :
    (outline app.realm).Authored contains events := by
  induction events using List.reverseRecOn generalizing app with
  | nil =>
      cases ran
      exact ⟨fun _ impossible => (List.not_mem_nil impossible).elim,
        fun _ impossible => (List.not_mem_nil impossible).elim⟩
  | append_singleton events event ih =>
      obtain ⟨before, ranBefore, stepped⟩ := run_snoc_some _ _ _ _ _ ran
      have moved : Outline.appStep contains (outlineApp before) event = some (outlineApp app) := by
        rw [← outline_app_step contains before (run_sound contains events before ranBefore) event, stepped]
        rfl
      apply app_step_authored contains events (outlineApp before) (outlineApp app) event
        (authored_more contains events event _ (ih before ranBefore)) _ moved
      intro controller category title now opened selected added
      exact ⟨events, [], before, controller, by rw [added], ranBefore, opened, selected⟩

end Authored

section Opened

variable (contains : String → String → Bool)

theorem select_opened (category : ObjectId) : Opened (select category) := ⟨category, _, rfl, rfl, rfl⟩

theorem load_opened (controller : ItemViewController) (opened : Opened controller) : Opened (load controller) := by
  obtain ⟨category, view, selected, _, _⟩ := opened
  refine ⟨category, (LiveView.all category).sorted, selected, ?_, rfl⟩
  rw [load, selected]
  rfl

theorem item_step_opened (screen next : ItemScreen) (event : ItemEvent) (opened : Opened screen.controller)
    (moved : itemStep contains screen event = some next) : Opened next.controller := by
  rcases item_step_cases contains screen next event moved with
    ⟨text, rfl, rfl⟩ | ⟨rfl, _, rfl⟩ | ⟨rfl, _, rfl⟩ | ⟨_, _, kept⟩
  · by_cases emptied : text.length = 0
    · rw [textDidChange, if_pos emptied]
      exact load_opened _ opened
    · rw [textDidChange, if_neg emptied]
      exact opened
  · exact opened
  · obtain ⟨category, view, selected, items, source⟩ := opened
    refine ⟨category, (view.filtered screen.controller.searchText).sorted, selected, ?_, source⟩
    rw [searchBarSearchButtonClicked, items]
    rfl
  · rw [kept]
    exact opened

theorem run_opened (events : List AppEvent) (app : App) (ran : run (appStep contains) launched events = some app) :
    ∀ controller, app.itemViewController = some controller → Opened controller := by
  apply run_invariant (appStep contains) launched
    (fun _ app => ∀ controller, app.itemViewController = some controller → Opened controller) _ _ events app ran
  · intro controller impossible
    cases impossible
  intro _ app event next inv moved
  cases event with
  | add title now commits =>
      obtain ⟨realm, _, rfl⟩ := Option.map_eq_some_iff.mp moved
      exact inv
  | openRow row =>
      obtain ⟨controller, prepared, rfl⟩ := Option.map_eq_some_iff.mp moved
      obtain ⟨category, _, rfl⟩ := Option.map_eq_some_iff.mp prepared
      intro _ same
      cases same
      exact select_opened category.id
  | delete row commits =>
      obtain ⟨realm, _, rfl⟩ := Option.map_eq_some_iff.mp moved
      exact inv
  | item event =>
      cases shown : app.itemViewController with
      | none =>
          simp only [appStep, shown] at moved
          cases moved
          exact inv
      | some controller =>
          simp only [appStep, shown] at moved
          obtain ⟨screen, stepped, rfl⟩ := Option.map_eq_some_iff.mp moved
          intro _ same
          cases same
          exact item_step_opened contains ⟨app.realm, controller⟩ screen event (inv controller shown) stepped

end Opened

-- Every row that a run can show was typed: it has a title, not the empty one, and the
-- date of the same addition, which for an item was made while its list was open.
-- Neither the cells nor the alerts trap on a row of the table.
theorem rows_were_typed (contains : String → String → Bool) (string : String → Date → String) (events : List AppEvent)
    (app : App) (ran : run (appStep contains) launched events = some app) :
    (∀ row, row < (categories app.realm).length → ∃ title now cell, .add title now true ∈ events ∧
        title.isEmpty = false ∧ categoryCell app.realm row = some cell ∧ cell.textLabel = title ∧
        (categories app.realm)[row]?.map Category.dateCreated = some (some now) ∧
        deleteCategoryAlert app.realm row = some (question title "category")) ∧
      ∀ controller, app.itemViewController = some controller → ∀ dequeued row,
        row < numberOfRows contains app.realm controller → ∃ category title now accessory,
          controller.selectedCategory = some category ∧ AddedTo contains events category title now ∧
          title.isEmpty = false ∧ itemCell contains app.realm string controller dequeued row =
            some ⟨some title, some (string "HH:mm MMM d, yyyy " now), accessory⟩ ∧
          cellForRowAt contains app.realm controller row = some accessory ∧
          deleteItemAlert contains app.realm controller row = some (some (question title "item")) := by
  have authored := run_authored contains events app ran
  refine ⟨?_, ?_⟩
  · intro row inside
    have listed : (categories app.realm)[row]? = some (categories app.realm)[row] := List.getElem?_eq_getElem inside
    have stored := (mem_categories app.realm _).mp (List.getElem_mem inside)
    obtain ⟨title, now, titled, dated, written, known⟩ :=
      authored.lists (outlined app.realm _) (List.mem_map_of_mem stored)
    have same : (categories app.realm)[row].title = some title := titled
    have created : (categories app.realm)[row].dateCreated = some now := dated
    refine ⟨title, now, _, known, written, by rw [categoryCell, listed, Option.map_some], ?_, ?_, ?_⟩
    · simp only [same, Option.getD_some]
    · rw [listed, Option.map_some, created]
    · rw [deleteCategoryAlert, listed, Option.bind_some, same, Option.map_some]
  · intro controller shown dequeued row inside
    obtain ⟨category, view, selected, items, source⟩ := run_opened contains events app ran controller shown
    have viewed : rows contains app.realm controller =
        some (view.eval (listItems app.realm) (titleContains contains) fun item => sortKey item.dateCreated) := by
      rw [rows, items, Option.map_some]
    rw [numberOfRows, viewed] at inside
    rw [itemCell, deleteItemAlert, viewed]
    generalize listing : view.eval (listItems app.realm) (titleContains contains)
      (fun item => sortKey item.dateCreated) = listed at inside ⊢
    have member : listed[row] ∈ listItems app.realm category := by
      have viewMember : listed[row] ∈ view.eval (listItems app.realm) (titleContains contains)
          fun item => sortKey item.dateCreated := listing ▸ List.getElem_mem inside
      exact source ▸ ((LiveView.mem_eval _ _ _ view _).mp viewMember).1
    obtain ⟨stored, inStore, sameId⟩ : ∃ stored ∈ app.realm.categories, stored.id = category := by
      rw [listItems] at member
      cases found : app.realm.categories.find? fun stored => stored.id = category with
      | none =>
          rw [found] at member
          exact (List.not_mem_nil member).elim
      | some stored => exact ⟨stored, List.mem_of_find?_eq_some found, by simpa using List.find?_some found⟩
    obtain ⟨title, now, titled, dated, written, known⟩ :=
      authored.items (outlined app.realm stored) (List.mem_map_of_mem inStore) listed[row] (sameId ▸ member)
    refine ⟨category, title, now, switcher listed[row].done, selected, sameId ▸ known, written, ?_, ?_, ?_⟩
    · simp only [List.getElem?_eq_getElem inside, Option.bind_some, dated, titled, Option.map_some]
    · rw [cellForRowAt, itemAt, viewed, listing, Option.bind_some, List.getElem?_eq_getElem inside, Option.map_some]
    · simp only [List.getElem?_eq_getElem inside, Option.bind_some, titled, Option.map_some]

theorem home_row_typed :
    ∃ app title now cell, run (appStep fun _ _ => true) launched homeWithMilk = some app ∧
      .add title now true ∈ homeWithMilk ∧ title.isEmpty = false ∧ categoryCell app.realm 1 = some cell ∧
      cell.textLabel = title := by
  have ran : (run (appStep fun _ _ => true) launched homeWithMilk).map (fun app => (categories app.realm).length) =
      some 2 := by decide +kernel
  obtain ⟨app, reached, count⟩ := Option.map_eq_some_iff.mp ran
  obtain ⟨title, now, cell, known, written, shown, same, _⟩ :=
    (rows_were_typed (fun _ _ => true) (fun _ _ => "") homeWithMilk app reached).1 1 (by rw [count]; decide)
  exact ⟨app, title, now, cell, reached, known, written, shown, same⟩

end Pets.Todoey
