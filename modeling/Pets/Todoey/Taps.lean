import Pets.Todoey.Integrity
import Pets.Todoey.Outline

set_option autoImplicit false

namespace Pets.Todoey

open Pets.Ownership Pets.Transition

def switches (contains : String → String → Bool) (id : ObjectId) (app : App) : AppEvent → Bool
  | .item (.toggle row true) =>
      match app.itemViewController with
      | some controller => (itemAt contains app.realm controller row).any fun item => item.id = id
      | none => false
  | _ => false

def taps (contains : String → String → Bool) (events : List AppEvent) (id : ObjectId) : ℕ :=
  tally (appStep contains) (switches contains id) launched events

-- All that an event can make of the items: one of them is switched, or those that stay
-- are as they were and a new one is not done.
inductive ItemsStep (contains : String → String → Bool) (app next : App) (event : AppEvent) : Prop where
  | switched (item : Item) (stored : item ∈ app.realm.items)
      (here : ∀ id, switches contains id app event = decide (item.id = id))
      (items : next.realm.items = app.realm.items.map fun other => other.marked item.id (!item.done))
      (nextId : next.realm.nextId = app.realm.nextId)
  | kept (nowhere : ∀ id, switches contains id app event = false)
      (items : ∀ item ∈ next.realm.items,
        item ∈ app.realm.items ∨ item.id = app.realm.nextId ∧ item.done = false)
      (nextId : app.realm.nextId ≤ next.realm.nextId)

structure Tapped (contains : String → String → Bool) (events : List AppEvent) (app : App) : Prop where
  done : ∀ item ∈ app.realm.items, item.done = decide (taps contains events item.id % 2 = 1)
  unused : ∀ id, app.realm.nextId ≤ id → taps contains events id = 0

section Steps

variable (contains : String → String → Bool)

theorem fewer_items_step (app next : App) (event : AppEvent) (nowhere : ∀ id, switches contains id app event = false)
    (items : ∀ item ∈ next.realm.items, item ∈ app.realm.items) (nextId : app.realm.nextId ≤ next.realm.nextId) :
    ItemsStep contains app next event :=
  .kept nowhere (fun item stored => Or.inl (items item stored)) nextId

theorem item_at_rows (realm : Realm) (controller : ItemViewController) (items : List Item) (row : ℕ)
    (shown : rows contains realm controller = some items) : itemAt contains realm controller row = items[row]? := by
  rw [itemAt, shown, Option.bind_some]

theorem toggle_items_step (realm after : Realm) (controller : ItemViewController) (row : ℕ) (commits : Bool)
    (toggled : didSelectRow contains realm controller row commits = some after) :
    ItemsStep contains ⟨realm, some controller⟩ ⟨after, some controller⟩ (.item (.toggle row commits)) := by
  rw [didSelectRow] at toggled
  cases shown : rows contains realm controller with
  | none =>
      simp only [writeRow, shown] at toggled
      cases toggled
      refine fewer_items_step contains _ _ _ ?_ (fun _ stored => stored) le_rfl
      intro id
      cases commits with
      | false => rfl
      | true => simp [switches, itemAt, shown]
  | some items =>
      simp only [writeRow, shown] at toggled
      obtain ⟨item, inRow, written⟩ := Option.bind_eq_some_iff.mp toggled
      obtain ⟨changed, done, rfl⟩ := Option.map_eq_some_iff.mp written
      cases done
      have listed : itemAt contains realm controller row = some item := by
        rw [item_at_rows contains realm controller items row shown, inRow]
      cases commits with
      | false => exact fewer_items_step contains _ _ _ (fun _ => rfl) (fun _ stored => stored) le_rfl
      | true =>
          have stored : item ∈ realm.items := List.mem_of_find?_eq_some (item_at_stored contains _ _ _ item listed)
          refine .switched item stored ?_ rfl rfl
          intro id
          simp only [switches, listed, Option.any_some]

theorem add_items_step (realm after : Realm) (controller : ItemViewController) (title : String) (now : Date)
    (commits : Bool) (added : addPressed realm controller title now commits = some after) :
    ItemsStep contains ⟨realm, some controller⟩ ⟨after, some controller⟩ (.item (.add title now commits)) := by
  have same : after = realm →
      ItemsStep contains ⟨realm, some controller⟩ ⟨after, some controller⟩ (.item (.add title now commits)) := by
    rintro rfl
    exact fewer_items_step contains _ _ _ (fun _ => rfl) (fun _ stored => stored) le_rfl
  cases selected : controller.selectedCategory with
  | none =>
      simp only [addPressed, selected] at added
      exact same (Option.some.inj added).symm
  | some category =>
      simp only [addPressed, selected] at added
      split_ifs at added with blank
      · exact same (Option.some.inj added).symm
      · obtain ⟨changed, appended, rfl⟩ := Option.map_eq_some_iff.mp added
        cases commits with
        | false => exact same rfl
        | true =>
            have stored : appendItem realm category title now = some changed := appended
            rw [appendItem] at stored
            split_ifs at stored with present
            cases stored
            refine .kept (fun _ => rfl) ?_ (Nat.le_succ _)
            intro item member
            rcases List.mem_append.mp member with before | new
            · exact Or.inl before
            · rw [List.mem_singleton.mp new]
              exact Or.inr ⟨rfl, rfl⟩

theorem delete_items_step (realm after : Realm) (controller : ItemViewController) (row : ℕ) (commits : Bool)
    (deleted : deleteRow contains realm controller row commits = some after) :
    ItemsStep contains ⟨realm, some controller⟩ ⟨after, some controller⟩ (.item (.delete row commits)) := by
  have same : after = realm →
      ItemsStep contains ⟨realm, some controller⟩ ⟨after, some controller⟩ (.item (.delete row commits)) := by
    rintro rfl
    exact fewer_items_step contains _ _ _ (fun _ => rfl) (fun _ stored => stored) le_rfl
  rw [deleteRow] at deleted
  cases shown : rows contains realm controller with
  | none =>
      simp only [writeRow, shown] at deleted
      exact same (Option.some.inj deleted).symm
  | some items =>
      simp only [writeRow, shown] at deleted
      obtain ⟨item, _, written⟩ := Option.bind_eq_some_iff.mp deleted
      obtain ⟨changed, done, rfl⟩ := Option.map_eq_some_iff.mp written
      cases done
      cases commits with
      | false => exact same rfl
      | true =>
          refine fewer_items_step contains _ _ _ (fun _ => rfl) ?_ le_rfl
          exact fun _ stored => (List.mem_filter.mp stored).1

theorem item_items_step (realm : Realm) (controller : ItemViewController) (event : ItemEvent) (next : ItemScreen)
    (moved : itemStep contains ⟨realm, controller⟩ event = some next) :
    ItemsStep contains ⟨realm, some controller⟩ ⟨next.realm, some next.controller⟩ (.item event) := by
  cases event with
  | add title now commits =>
      obtain ⟨after, added, rfl⟩ := Option.map_eq_some_iff.mp moved
      exact add_items_step contains realm after controller title now commits added
  | toggle row commits =>
      obtain ⟨after, toggled, rfl⟩ := Option.map_eq_some_iff.mp moved
      exact toggle_items_step contains realm after controller row commits toggled
  | delete row commits =>
      obtain ⟨after, deleted, rfl⟩ := Option.map_eq_some_iff.mp moved
      exact delete_items_step contains realm after controller row commits deleted
  | edit searchText =>
      cases moved
      exact fewer_items_step contains _ _ _ (fun _ => rfl) (fun _ stored => stored) le_rfl
  | search =>
      rw [itemStep] at moved
      split at moved <;> cases moved <;>
        exact fewer_items_step contains _ _ _ (fun _ => rfl) (fun _ stored => stored) le_rfl

theorem app_items_step (app next : App) (event : AppEvent) (moved : appStep contains app event = some next) :
    ItemsStep contains app next event := by
  cases event with
  | add title now commits =>
      obtain ⟨realm, added, rfl⟩ := Option.map_eq_some_iff.mp moved
      rw [addCategoryPressed, save] at added
      split_ifs at added with blank
      · cases added
        exact fewer_items_step contains _ _ _ (fun _ => rfl) (fun _ stored => stored) le_rfl
      · cases added
        cases commits with
        | false => exact fewer_items_step contains _ _ _ (fun _ => rfl) (fun _ stored => stored) le_rfl
        | true => exact fewer_items_step contains _ _ _ (fun _ => rfl) (fun _ stored => stored) (Nat.le_succ _)
  | openRow row =>
      obtain ⟨controller, _, rfl⟩ := Option.map_eq_some_iff.mp moved
      exact fewer_items_step contains _ _ _ (fun _ => rfl) (fun _ stored => stored) le_rfl
  | delete row commits =>
      obtain ⟨realm, deleted, rfl⟩ := Option.map_eq_some_iff.mp moved
      obtain ⟨category, _, _, rfl⟩ := deleted_row app.realm realm row commits deleted
      cases commits with
      | false => exact fewer_items_step contains _ _ _ (fun _ => rfl) (fun _ stored => stored) le_rfl
      | true =>
          refine fewer_items_step contains _ _ _ (fun _ => rfl) ?_ le_rfl
          exact fun _ stored => (List.mem_filter.mp stored).1
  | item event =>
      obtain ⟨realm, opened⟩ := app
      cases opened with
      | none =>
          cases moved
          refine fewer_items_step contains _ _ _ ?_ (fun _ stored => stored) le_rfl
          intro id
          cases event with
          | toggle row commits => cases commits <;> rfl
          | add | delete | edit | search => rfl
      | some controller =>
          obtain ⟨screen, stepped, rfl⟩ := Option.map_eq_some_iff.mp moved
          exact item_items_step contains realm controller event screen stepped

theorem taps_snoc (events : List AppEvent) (app : App) (event : AppEvent) (id : ObjectId)
    (ran : run (appStep contains) launched events = some app) :
    taps contains (events ++ [event]) id = taps contains events id + (switches contains id app event).toNat :=
  tally_snoc (appStep contains) (switches contains id) launched app events event ran

theorem step_tapped (events : List AppEvent) (app next : App) (event : AppEvent)
    (ran : run (appStep contains) launched events = some app) (tapped : Tapped contains events app)
    (moved : appStep contains app event = some next) : Tapped contains (events ++ [event]) next := by
  have sound := run_sound contains events app ran
  cases app_items_step contains app next event moved with
  | switched item stored here items nextId =>
      refine ⟨?_, ?_⟩
      · intro changed member
        rw [items] at member
        obtain ⟨other, inside, rfl⟩ := List.mem_map.mp member
        rw [marked_id, taps_snoc contains events app event _ ran, here]
        by_cases same : other.id = item.id
        · have itself : other = item := List.inj_on_of_nodup_map sound.partition.distinct inside stored same
          rw [itself, Item.marked, if_pos rfl, tapped.done item stored]
          simp only [decide_true, Bool.toNat_true, ← decide_not]
          apply decide_eq_decide.mpr
          omega
        · rw [Item.marked, if_neg same, decide_eq_false (Ne.symm same)]
          exact tapped.done other inside
      · intro id later
        rw [nextId] at later
        have before : item.id < app.realm.nextId := sound.itemIds item.id (List.mem_map_of_mem stored)
        rw [taps_snoc contains events app event id ran, here, decide_eq_false (before.trans_le later).ne]
        exact tapped.unused id later
  | kept nowhere items nextId =>
      have same : ∀ id, taps contains (events ++ [event]) id = taps contains events id := by
        intro id
        rw [taps_snoc contains events app event id ran, nowhere]
        rfl
      refine ⟨?_, fun id later => (same id).trans (tapped.unused id (nextId.trans later))⟩
      intro item member
      rw [same]
      rcases items item member with stored | ⟨new, undone⟩
      · exact tapped.done item stored
      · rw [undone, new, tapped.unused _ le_rfl]
        rfl

theorem run_tapped (events : List AppEvent) (app : App) (ran : run (appStep contains) launched events = some app) :
    Tapped contains events app := by
  induction events using List.reverseRecOn generalizing app with
  | nil =>
      cases ran
      exact ⟨fun _ impossible => (List.not_mem_nil impossible).elim, fun _ _ => rfl⟩
  | append_singleton events event ih =>
      obtain ⟨before, ranBefore, stepped⟩ := run_snoc_some _ _ _ _ _ ran
      exact step_tapped contains events before app event ranBefore (ih before ranBefore) stepped

-- In every run a row is drawn with a checkmark exactly when its item has been tapped
-- an odd number of times, whatever list, search or order of rows it was tapped in.
theorem checkmark_after_odd_taps (events : List AppEvent) (app : App)
    (ran : run (appStep contains) launched events = some app) (controller : ItemViewController) (row : ℕ) (item : Item)
    (listed : itemAt contains app.realm controller row = some item) :
    cellForRowAt contains app.realm controller row = some .checkmark ↔ taps contains events item.id % 2 = 1 := by
  have stored : item ∈ app.realm.items := List.mem_of_find?_eq_some (item_at_stored contains _ _ _ item listed)
  have done := (run_tapped contains events app ran).done item stored
  rw [cellForRowAt, listed, Option.map_some, Option.some.injEq, switcher_checkmark, done, decide_eq_true_iff]

end Steps

def milkTappedTwice : List AppEvent :=
  [.add "Home" 1 true, .openRow 0, .item (.add "Milk" 2 true), .item (.toggle 0 true), .item (.add "Eggs" 3 true),
    .item (.toggle 1 false), .item (.toggle 1 true), .item (.toggle 0 true)]

theorem eggs_checked :
    ∃ app controller item, run (appStep fun _ _ => true) launched milkTappedTwice = some app ∧
      itemAt (fun _ _ => true) app.realm controller 0 = some item ∧ item.title = some "Eggs" ∧
      taps (fun _ _ => true) milkTappedTwice item.id % 2 = 1 := by
  have shown : (run (appStep fun _ _ => true) launched milkTappedTwice).bind (fun app =>
      app.itemViewController.bind fun controller => itemAt (fun _ _ => true) app.realm controller 0) =
        some ⟨2, some "Eggs", true, some 3⟩ := by decide +kernel
  obtain ⟨app, ran, opened⟩ := Option.bind_eq_some_iff.mp shown
  obtain ⟨controller, _, listed⟩ := Option.bind_eq_some_iff.mp opened
  have odd := (checkmark_after_odd_taps (fun _ _ => true) milkTappedTwice app ran controller 0 _ listed).mp (by
    rw [cellForRowAt, listed]
    rfl)
  exact ⟨app, controller, _, ran, listed, rfl, odd⟩

end Pets.Todoey
