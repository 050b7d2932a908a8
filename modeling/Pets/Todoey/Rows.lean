import Pets.Todoey.Outline

set_option autoImplicit false

namespace Pets.Todoey

open Pets.Ownership Pets.Transition

structure Cell where
  textLabel : String
  detailTextLabel : String
deriving DecidableEq

def categoryCell (realm : Realm) (row : ℕ) : Option Cell :=
  (categories realm)[row]?.map fun category =>
    ⟨category.title.getD "Not categories added yet", toString category.items.length ++ " items"⟩

theorem selected_rows (contains : String → String → Bool) (realm : Realm) (category : ObjectId) :
    rows contains realm (select category) =
      some ((listItems realm category).insertionSort fun a b => sortKey b.dateCreated ≤ sortKey a.dateCreated) := rfl

theorem listed_count (realm : Realm) (inv : Sound realm) (category : Category) (stored : category ∈ realm.categories) :
    (listItems realm category.id).length = category.items.length := by
  rw [list_items_stored realm inv.partition.owners category stored]
  have found : ∀ id ∈ category.items, (realm.items.find? fun item => item.id = id).isSome := by
    intro id listed
    obtain ⟨item, inStore, same⟩ :=
      List.mem_map.mp (partition_stored _ _ _ _ inv.partition category stored id listed)
    exact List.find?_isSome.mpr ⟨item, inStore, decide_eq_true same⟩
  generalize category.items = ids at found ⊢
  induction ids with
  | nil => rfl
  | cons id rest ih =>
      obtain ⟨item, lookup⟩ := Option.isSome_iff_exists.mp (found id List.mem_cons_self)
      simp only [List.filterMap_cons, lookup, List.length_cons,
        ih fun other inRest => found other (List.mem_cons_of_mem _ inRest)]

-- In every run the number on the row of a category is the number of rows that its
-- list shows when it is opened.
theorem counts_opened_rows (contains : String → String → Bool) (events : List AppEvent) (app : App)
    (ran : run (appStep contains) launched events = some app) (row : ℕ) (cell : Cell)
    (shown : categoryCell app.realm row = some cell) :
    ∃ controller items, prepare app.realm row = some controller ∧ rows contains app.realm controller = some items ∧
      cell.detailTextLabel = toString items.length ++ " items" := by
  have inv := run_sound contains events app ran
  obtain ⟨category, listed, rfl⟩ := Option.map_eq_some_iff.mp shown
  have stored := (mem_categories app.realm category).mp (List.mem_of_getElem? listed)
  refine ⟨select category.id, _, ?_, selected_rows contains app.realm category.id, ?_⟩
  · rw [prepare, listed]
    rfl
  · rw [List.length_insertionSort, listed_count app.realm inv category stored]

def homeWithMilk : List AppEvent :=
  [.add "Home" 1 true, .add "Work" 2 true, .openRow 1, .item (.add "Milk" 3 true), .item (.add "Eggs" 4 true)]

theorem two_items_at_home :
    ∃ app controller items, run (appStep fun _ _ => true) launched homeWithMilk = some app ∧
      prepare app.realm 1 = some controller ∧ rows (fun _ _ => true) app.realm controller = some items ∧
        "2 items" = toString items.length ++ " items" := by
  have ran : (run (appStep fun _ _ => true) launched homeWithMilk).map (fun app => categoryCell app.realm 1) =
      some (some ⟨"Home", "2 items"⟩) := by decide +kernel
  obtain ⟨app, reached, shown⟩ := Option.map_eq_some_iff.mp ran
  obtain ⟨controller, items, opened, listed, counted⟩ :=
    counts_opened_rows (fun _ _ => true) homeWithMilk app reached 1 _ shown
  exact ⟨app, controller, items, reached, opened, listed, counted⟩

def AppEvent.added : AppEvent → Option Date
  | .add _ now _ => some now
  | .item (.add _ now _) => some now
  | _ => none

def additions (events : List AppEvent) : List Date := events.filterMap AppEvent.added

def Dated (dates : List Date) (created : List (Option Date)) : Prop :=
  created.Pairwise (fun a b => sortKey a < sortKey b) ∧ ∀ date ∈ created, ∃ day ∈ dates, date = some day

structure Outline.InOrder (dates : List Date) (outline : Outline) : Prop where
  lists : Dated dates (outline.lists.map TodoList.dateCreated)
  items : ∀ list ∈ outline.lists, Dated dates (list.items.map Item.dateCreated)

theorem dated_more (dates more : List Date) (created : List (Option Date)) (dated : Dated dates created) :
    Dated (dates ++ more) created := by
  refine ⟨dated.1, ?_⟩
  intro date member
  obtain ⟨day, known, same⟩ := dated.2 date member
  exact ⟨day, List.mem_append_left _ known, same⟩

theorem dated_sublist (dates : List Date) (fewer created : List (Option Date)) (dated : Dated dates created)
    (sublist : fewer.Sublist created) : Dated dates fewer :=
  ⟨dated.1.sublist sublist, fun date member => dated.2 date (sublist.mem member)⟩

theorem dated_snoc (dates : List Date) (created : List (Option Date)) (now : Date) (dated : Dated dates created)
    (later : ∀ day ∈ dates, day < now) : Dated (dates ++ [now]) (created ++ [some now]) := by
  have more := dated_more dates [now] created dated
  refine ⟨?_, ?_⟩
  · refine List.pairwise_append.mpr ⟨dated.1, List.pairwise_singleton _ _, ?_⟩
    intro date member other same
    obtain ⟨day, known, rfl⟩ := dated.2 date member
    rw [List.mem_singleton.mp same]
    exact WithBot.coe_lt_coe.mpr (later day known)
  · intro date member
    rcases List.mem_append.mp member with before | now'
    · exact more.2 date before
    · exact ⟨now, List.mem_append_right _ (List.mem_singleton_self _), List.mem_singleton.mp now'⟩

theorem in_order_more (dates more : List Date) (outline : Outline) (inOrder : outline.InOrder dates) :
    outline.InOrder (dates ++ more) :=
  ⟨dated_more dates more _ inOrder.lists, fun list member => dated_more dates more _ (inOrder.items list member)⟩

theorem in_order_map (dates : List Date) (outline : Outline) (change : TodoList → TodoList)
    (inOrder : outline.InOrder dates) (sameDate : ∀ list, (change list).dateCreated = list.dateCreated)
    (dated : ∀ list ∈ outline.lists, Dated dates ((change list).items.map Item.dateCreated)) (nextId : ObjectId) :
    Outline.InOrder dates ⟨outline.lists.map change, nextId⟩ := by
  refine ⟨?_, ?_⟩
  · have same : (outline.lists.map change).map TodoList.dateCreated = outline.lists.map TodoList.dateCreated := by
      rw [List.map_map]
      exact List.map_congr_left fun list _ => sameDate list
    rw [same]
    exact inOrder.lists
  · intro list member
    obtain ⟨before, stored, rfl⟩ := List.mem_map.mp member
    exact dated before stored

theorem add_list_in_order (dates : List Date) (outline : Outline) (title : String) (now : Date)
    (inOrder : outline.InOrder dates) (later : ∀ day ∈ dates, day < now) :
    (outline.addList title now).InOrder (dates ++ [now]) := by
  refine ⟨?_, ?_⟩
  · rw [Outline.addList, List.map_append, List.map_singleton]
    exact dated_snoc dates _ now inOrder.lists later
  · intro list member
    rcases List.mem_append.mp member with before | new
    · exact dated_more dates [now] _ (inOrder.items list before)
    · rw [List.mem_singleton.mp new]
      exact ⟨List.Pairwise.nil, fun _ impossible => (List.not_mem_nil impossible).elim⟩

theorem add_item_in_order (dates : List Date) (outline after : Outline) (category : ObjectId) (title : String)
    (now : Date) (inOrder : outline.InOrder dates) (later : ∀ day ∈ dates, day < now)
    (added : outline.addItem category title now = some after) : after.InOrder (dates ++ [now]) := by
  rw [Outline.addItem] at added
  split_ifs at added with present
  cases added
  refine in_order_map _ outline _ (in_order_more dates [now] outline inOrder) ?_ ?_ _
  · intro list
    by_cases here : list.id = category
    · rw [if_pos here]
    · rw [if_neg here]
  · intro list member
    by_cases here : list.id = category
    · rw [if_pos here, List.map_append, List.map_singleton]
      exact dated_snoc dates _ now (inOrder.items list member) later
    · rw [if_neg here]
      exact dated_more dates [now] _ (inOrder.items list member)

theorem set_done_in_order (dates : List Date) (outline : Outline) (item : ObjectId) (done : Bool)
    (inOrder : outline.InOrder dates) : (outline.setDone item done).InOrder dates := by
  refine in_order_map dates outline _ inOrder ?_ ?_ _
  · exact fun _ => rfl
  intro list member
  have same : (list.items.map fun stored => stored.marked item done).map Item.dateCreated =
      list.items.map Item.dateCreated := by
    rw [List.map_map]
    apply List.map_congr_left
    intro stored _
    rw [Function.comp_apply, Item.marked]
    split <;> rfl
  change Dated dates ((list.items.map fun stored => stored.marked item done).map Item.dateCreated)
  rw [same]
  exact inOrder.items list member

theorem delete_item_in_order (dates : List Date) (outline : Outline) (item : ObjectId)
    (inOrder : outline.InOrder dates) : (outline.deleteItem item).InOrder dates := by
  refine in_order_map dates outline _ inOrder ?_ ?_ _
  · exact fun _ => rfl
  intro list member
  exact dated_sublist dates _ _ (inOrder.items list member) (List.filter_sublist.map Item.dateCreated)

theorem delete_list_in_order (dates : List Date) (outline : Outline) (list : ObjectId)
    (inOrder : outline.InOrder dates) : (outline.deleteList list).InOrder dates :=
  ⟨dated_sublist dates _ _ inOrder.lists (List.filter_sublist.map _),
    fun other member => inOrder.items other (List.mem_filter.mp member).1⟩

theorem write_row_in_order (contains : String → String → Bool) (dates : List Date) (outline after : Outline)
    (controller : ItemViewController) (row : ℕ) (commits : Bool) (change : Item → Outline)
    (inOrder : outline.InOrder dates) (changes : ∀ item, (change item).InOrder dates)
    (wrote : outline.writeRow contains controller row commits change = some after) : after.InOrder dates := by
  rw [Outline.writeRow] at wrote
  cases shown : outline.rows contains controller with
  | none =>
      rw [shown] at wrote
      cases wrote
      exact inOrder
  | some items =>
      rw [shown] at wrote
      obtain ⟨item, _, rfl⟩ := Option.map_eq_some_iff.mp wrote
      cases commits with
      | false => exact inOrder
      | true => exact changes item

theorem item_step_in_order (contains : String → String → Bool) (dates : List Date) (outline : Outline)
    (controller : ItemViewController) (event : ItemEvent) (next : Outline × ItemViewController)
    (inOrder : outline.InOrder dates) (later : ∀ now ∈ (AppEvent.item event).added, ∀ day ∈ dates, day < now)
    (moved : outline.itemStep contains controller event = some next) :
    next.1.InOrder (dates ++ (AppEvent.item event).added.toList) := by
  cases event with
  | add title now commits =>
      obtain ⟨after, added, rfl⟩ := Option.map_eq_some_iff.mp moved
      have stays := in_order_more dates [now] outline inOrder
      rw [Outline.addPressed] at added
      cases selected : controller.selectedCategory with
      | none =>
          rw [selected] at added
          cases added
          exact stays
      | some category =>
          rw [selected] at added
          by_cases blank : title.isEmpty = true
          · simp only [if_pos blank] at added
            cases added
            exact stays
          · simp only [if_neg blank] at added
            obtain ⟨changed, appended, rfl⟩ := Option.map_eq_some_iff.mp added
            cases commits with
            | false => exact stays
            | true => exact add_item_in_order dates outline changed category title now inOrder (later now rfl) appended
  | toggle row commits =>
      obtain ⟨after, wrote, rfl⟩ := Option.map_eq_some_iff.mp moved
      exact in_order_more dates [] after (write_row_in_order contains dates outline after controller row commits _ inOrder
        (fun item => set_done_in_order dates outline item.id _ inOrder) wrote)
  | delete row commits =>
      obtain ⟨after, wrote, rfl⟩ := Option.map_eq_some_iff.mp moved
      exact in_order_more dates [] after (write_row_in_order contains dates outline after controller row commits _ inOrder
        (fun item => delete_item_in_order dates outline item.id inOrder) wrote)
  | edit searchText =>
      cases moved
      exact in_order_more dates [] outline inOrder
  | search =>
      rw [Outline.itemStep] at moved
      split at moved <;> cases moved <;> exact in_order_more dates [] outline inOrder

theorem app_step_in_order (contains : String → String → Bool) (dates : List Date)
    (app next : Outline × Option ItemViewController) (event : AppEvent) (inOrder : app.1.InOrder dates)
    (later : ∀ now ∈ event.added, ∀ day ∈ dates, day < now) (moved : Outline.appStep contains app event = some next) :
    next.1.InOrder (dates ++ event.added.toList) := by
  cases event with
  | add title now commits =>
      cases moved
      have stays := in_order_more dates [now] app.1 inOrder
      by_cases blank : title.isEmpty = true
      · simp only [if_pos blank]
        exact stays
      · cases commits with
        | false =>
            simp only [if_neg blank]
            exact stays
        | true =>
            simp only [if_neg blank]
            exact add_list_in_order dates app.1 title now inOrder (later now rfl)
  | openRow row =>
      obtain ⟨list, _, rfl⟩ := Option.map_eq_some_iff.mp moved
      exact in_order_more dates [] app.1 inOrder
  | delete row commits =>
      obtain ⟨list, _, rfl⟩ := Option.map_eq_some_iff.mp moved
      cases commits with
      | false => exact in_order_more dates [] app.1 inOrder
      | true => exact in_order_more dates [] _ (delete_list_in_order dates app.1 list.id inOrder)
  | item event =>
      rw [Outline.appStep] at moved
      cases opened : app.2 with
      | none =>
          rw [opened] at moved
          cases moved
          exact in_order_more dates _ app.1 inOrder
      | some controller =>
          rw [opened] at moved
          obtain ⟨screen, stepped, rfl⟩ := Option.map_eq_some_iff.mp moved
          exact item_step_in_order contains dates app.1 controller event screen inOrder later stepped

theorem run_in_order (contains : String → String → Bool) (events : List AppEvent) (app : App)
    (ran : run (appStep contains) launched events = some app) (inTime : (additions events).Pairwise (· < ·)) :
    (outline app.realm).InOrder (additions events) := by
  induction events using List.reverseRecOn generalizing app with
  | nil =>
      cases ran
      exact ⟨⟨List.Pairwise.nil, fun _ impossible => (List.not_mem_nil impossible).elim⟩,
        fun _ impossible => (List.not_mem_nil impossible).elim⟩
  | append_singleton events event ih =>
      rw [run_snoc] at ran
      obtain ⟨before, ranBefore, stepped⟩ := Option.bind_eq_some_iff.mp ran
      have split : additions (events ++ [event]) = additions events ++ event.added.toList := by
        rw [additions, additions, List.filterMap_append]
        cases added : event.added <;> simp [added]
      rw [split] at inTime ⊢
      obtain ⟨earlier, _, ordered⟩ := List.pairwise_append.mp inTime
      have sound := run_sound contains events before ranBefore
      have moved : Outline.appStep contains (outlineApp before) event = some (outlineApp app) := by
        rw [← outline_app_step contains before sound event, stepped]
        rfl
      apply app_step_in_order contains (additions events) (outlineApp before) (outlineApp app) event
        (ih before ranBefore earlier) _ moved
      intro now added day known
      exact ordered day known now (Option.mem_toList.mpr added)

-- While the clock goes forward between the additions, the lists are shown newest first,
-- and so are the items of every list that is opened.
theorem shown_newest_first (contains : String → String → Bool) (events : List AppEvent) (app : App)
    (ran : run (appStep contains) launched events = some app) (inTime : (additions events).Pairwise (· < ·)) :
    categories app.realm = app.realm.categories.reverse ∧
      ∀ category ∈ app.realm.categories,
        rows contains app.realm (select category.id) = some (listItems app.realm category.id).reverse := by
  have inOrder := run_in_order contains events app ran inTime
  refine ⟨?_, ?_⟩
  · have ascending : app.realm.categories.Pairwise fun a b => sortKey a.dateCreated < sortKey b.dateCreated := by
      simpa only [outline, outlined, outlineApp, List.pairwise_map] using inOrder.lists.1
    exact LiveView.sorted_ascending (fun category : Category => sortKey category.dateCreated) _ ascending
  · intro category stored
    have items := inOrder.items (outlined app.realm category) (List.mem_map_of_mem stored)
    have ascending : (listItems app.realm category.id).Pairwise fun a b => sortKey a.dateCreated < sortKey b.dateCreated := by
      simpa only [outlined, List.pairwise_map] using items.1
    rw [selected_rows, LiveView.sorted_ascending (fun item : Item => sortKey item.dateCreated) _ ascending]

theorem home_and_work_newest_first :
    ∃ app, run (appStep fun _ _ => true) launched homeWithMilk = some app ∧
      categories app.realm = app.realm.categories.reverse := by
  have alive : (run (appStep fun _ _ => true) launched homeWithMilk).isSome := by decide +kernel
  obtain ⟨app, ran⟩ := Option.isSome_iff_exists.mp alive
  exact ⟨app, ran, (shown_newest_first (fun _ _ => true) homeWithMilk app ran (by decide +kernel)).1⟩

end Pets.Todoey
