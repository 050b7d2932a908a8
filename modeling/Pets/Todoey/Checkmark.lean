import Mathlib.Logic.Function.Basic
import Pets.Library.Transition
import Pets.Todoey.DeleteRow

set_option autoImplicit false

namespace Pets.Todoey

open Pets.Transition

inductive AccessoryType where
  | none
  | checkmark
deriving DecidableEq

def switcher (done : Bool) : AccessoryType := if done then .checkmark else .none

-- The table with the cells that are on screen; the others are made by
-- cellForRowAt when they come into view.
structure ItemTable where
  realm : Realm
  controller : ItemViewController
  cells : ℕ → Option AccessoryType

section Table

variable (contains : String → String → Bool)

def cellForRowAt (realm : Realm) (controller : ItemViewController) (row : ℕ) : Option AccessoryType :=
  (itemAt contains realm controller row).map fun item => switcher item.done

def reloaded (realm : Realm) (controller : ItemViewController) (visible : ℕ → Bool) : ItemTable :=
  ⟨realm, controller, fun row => if visible row then cellForRowAt contains realm controller row else none⟩

structure Tap where
  row : ℕ
  commits : Bool
deriving DecidableEq

-- The cell is switched inside the write, to the value the item has there. A row
-- past the end of the list and a cell off screen trap.
def tapRow (table : ItemTable) (tap : Tap) : Option ItemTable :=
  match rows contains table.realm table.controller with
  | some items =>
      items[tap.row]?.bind fun item => (table.cells tap.row).bind fun _ =>
        (write table.realm tap.commits fun realm => some (setDone realm item.id (!item.done))).map fun realm =>
          { table with realm, cells := Function.update table.cells tap.row (some (switcher (!item.done))) }
  | none => some table

def CheckmarksAgree (table : ItemTable) : Prop :=
  ∀ row accessory item, table.cells row = some accessory →
    itemAt contains table.realm table.controller row = some item → (accessory = .checkmark ↔ item.done = true)

def CleanTap (table : ItemTable) (tap : Tap) : Prop :=
  ∀ item, itemAt contains table.realm table.controller tap.row = some item → (table.cells tap.row).isSome = true →
    tap.commits = true ∧ ∀ other same, other ≠ tap.row → (table.cells other).isSome = true →
      itemAt contains table.realm table.controller other = some same → same.id ≠ item.id

end Table

theorem switcher_checkmark (done : Bool) : switcher done = .checkmark ↔ done = true := by
  cases done <;> simp [switcher]

def Item.marked (target : ObjectId) (done : Bool) (item : Item) : Item :=
  if item.id = target then { item with done } else item

theorem marked_id (target : ObjectId) (done : Bool) (item : Item) : (item.marked target done).id = item.id := by
  by_cases here : item.id = target
  · rw [Item.marked, if_pos here]
  · rw [Item.marked, if_neg here]

theorem list_items_marked (realm : Realm) (target : ObjectId) (done : Bool) (category : ObjectId) :
    listItems (setDone realm target done) category =
      (listItems realm category).map fun item : Item => item.marked target done := by
  have lookup : ∀ id, (setDone realm target done).items.find? (fun item : Item => item.id = id) =
      (realm.items.find? fun item : Item => item.id = id).map fun item => item.marked target done := by
    intro id
    have sameTest : (fun item : Item => decide (item.id = id)) ∘ (fun item : Item => item.marked target done) =
        fun item : Item => decide (item.id = id) := by
      funext item
      exact congrArg (fun key => decide (key = id)) (marked_id target done item)
    have stored : (setDone realm target done).items = realm.items.map fun item => item.marked target done := rfl
    rw [stored, List.find?_map, sameTest]
  rw [listItems, listItems]
  cases found : realm.categories.find? fun stored => stored.id = category with
  | none => simp [setDone, found]
  | some stored =>
      have sameCategory : (setDone realm target done).categories.find? (fun stored => stored.id = category) =
          some stored := found
      simp only [sameCategory, lookup, List.map_filterMap]

section Rows

variable (contains : String → String → Bool) (realm : Realm) (controller : ItemViewController)

theorem rows_marked (target : ObjectId) (done : Bool) :
    rows contains (setDone realm target done) controller =
      (rows contains realm controller).map fun items => items.map fun item => item.marked target done := by
  cases results : controller.items with
  | none => simp [rows, results]
  | some view =>
      have sameContent : listItems (setDone realm target done) =
          fun category => (listItems realm category).map fun item => item.marked target done :=
        funext fun category => list_items_marked realm target done category
      have sameKey : ∀ item : Item, sortKey (item.marked target done).dateCreated = sortKey item.dateCreated := by
        intro item
        by_cases here : item.id = target
        · rw [Item.marked, if_pos here]
        · rw [Item.marked, if_neg here]
      have sameTitle : ∀ text (item : Item),
          titleContains contains text (item.marked target done) = titleContains contains text item := by
        intro text item
        by_cases here : item.id = target
        · rw [Item.marked, if_pos here, titleContains, titleContains]
        · rw [Item.marked, if_neg here]
      simp only [rows, results, Option.map_some, sameContent]
      rw [LiveView.eval_map (listItems realm) (titleContains contains) (fun item => sortKey item.dateCreated)
        (fun item => item.marked target done) sameKey sameTitle]

theorem item_at_marked (target : ObjectId) (done : Bool) (row : ℕ) :
    itemAt contains (setDone realm target done) controller row =
      (itemAt contains realm controller row).map fun item => item.marked target done := by
  rw [itemAt, rows_marked, itemAt]
  cases rows contains realm controller with
  | none => rfl
  | some items => exact List.getElem?_map ..

end Rows

section Taps

variable (contains : String → String → Bool)

theorem tap_cases (table next : ItemTable) (tap : Tap) (tapped : tapRow contains table tap = some next) :
    (itemAt contains table.realm table.controller tap.row = none ∧ next = table) ∨
      ∃ item, itemAt contains table.realm table.controller tap.row = some item ∧
        (table.cells tap.row).isSome = true ∧
        next = { table with
          realm := if tap.commits then setDone table.realm item.id (!item.done) else table.realm
          cells := Function.update table.cells tap.row (some (switcher (!item.done))) } := by
  cases shown : rows contains table.realm table.controller with
  | none =>
      simp only [tapRow, shown] at tapped
      exact Or.inl ⟨by simp [itemAt, shown], (Option.some.inj tapped).symm⟩
  | some items =>
      simp only [tapRow, shown] at tapped
      obtain ⟨item, listed, remaining⟩ := Option.bind_eq_some_iff.mp tapped
      obtain ⟨accessory, onScreen, wrote⟩ := Option.bind_eq_some_iff.mp remaining
      refine Or.inr ⟨item, by simp [itemAt, shown, listed], by rw [onScreen]; rfl, ?_⟩
      exact (Option.some.inj wrote).symm

theorem tap_survives (table : ItemTable) (tap : Tap) (item : Item)
    (listed : itemAt contains table.realm table.controller tap.row = some item)
    (onScreen : (table.cells tap.row).isSome = true) : ∃ next, tapRow contains table tap = some next := by
  obtain ⟨items, shown, inRow⟩ := Option.bind_eq_some_iff.mp listed
  obtain ⟨accessory, cell⟩ := Option.isSome_iff_exists.mp onScreen
  exact ⟨_, by simp only [tapRow, shown, inRow, cell]; rfl⟩

theorem item_at_stored (realm : Realm) (controller : ItemViewController) (row : ℕ) (item : Item)
    (listed : itemAt contains realm controller row = some item) :
    (realm.items.find? fun other => other.id = item.id) = some item := by
  obtain ⟨items, shown, inRow⟩ := Option.bind_eq_some_iff.mp listed
  obtain ⟨view, _, rfl⟩ := Option.map_eq_some_iff.mp shown
  have inList := ((LiveView.mem_eval _ _ _ view item).mp (List.mem_of_getElem? inRow)).1
  rw [listItems] at inList
  cases found : realm.categories.find? fun stored => stored.id = view.source with
  | none =>
      rw [found] at inList
      cases inList
  | some stored =>
      rw [found] at inList
      obtain ⟨id, _, lookup⟩ := List.mem_filterMap.mp inList
      have same : item.id = id := by simpa using List.find?_some lookup
      rw [same]
      exact lookup

theorem failed_tap_disagrees (table : ItemTable) (row : ℕ) (item : Item)
    (listed : itemAt contains table.realm table.controller row = some item)
    (agrees : CheckmarksAgree contains
      { table with cells := Function.update table.cells row (some (switcher (!item.done))) }) : False := by
  have shown := agrees row (switcher (!item.done)) item (Function.update_self ..) listed
  rw [switcher_checkmark] at shown
  cases done : item.done <;> simp [done] at shown

theorem tap_agrees_iff (table next : ItemTable) (tap : Tap) (agrees : CheckmarksAgree contains table)
    (tapped : tapRow contains table tap = some next) : CheckmarksAgree contains next ↔ CleanTap contains table tap := by
  rcases tap_cases contains table next tap tapped with ⟨nothing, rfl⟩ | ⟨item, listed, onScreen, rfl⟩
  · refine ⟨fun _ item listed => ?_, fun _ => agrees⟩
    cases nothing.symm.trans listed
  · cases commits : tap.commits with
    | false =>
        constructor
        · intro after
          exact (failed_tap_disagrees contains table tap.row item listed after).elim
        · intro clean
          exact absurd (commits.symm.trans (clean item listed onScreen).1) Bool.false_ne_true
    | true =>
        constructor
        · intro after other listedAgain onScreenAgain
          cases listed.symm.trans listedAgain
          refine ⟨commits, ?_⟩
          intro otherRow same different visible shown sameId
          have sameItem : same = item := by
            have stored := item_at_stored contains _ _ _ same shown
            rw [sameId] at stored
            exact Option.some.inj (stored.symm.trans (item_at_stored contains _ _ _ item listed))
          subst sameItem
          obtain ⟨accessory, cell⟩ := Option.isSome_iff_exists.mp visible
          have before := agrees otherRow accessory same cell shown
          have later := after otherRow accessory (same.marked same.id (!same.done))
            ((Function.update_of_ne different ..).trans cell) (by
              rw [if_pos rfl, item_at_marked, shown]
              rfl)
          rw [Item.marked, if_pos rfl, before] at later
          cases done : same.done <;> simp [done] at later
        · intro clean row accessory shownItem cell shown
          have written : Function.update table.cells tap.row (some (switcher (!item.done))) row = some accessory := cell
          rw [if_pos rfl, item_at_marked] at shown
          obtain ⟨stored, before, rfl⟩ := Option.map_eq_some_iff.mp shown
          by_cases here : row = tap.row
          · subst here
            cases listed.symm.trans before
            rw [Function.update_self] at written
            cases written
            rw [Item.marked, if_pos rfl]
            exact switcher_checkmark _
          · rw [Function.update_of_ne here] at written
            have apart := (clean item listed onScreen).2 row stored here (by rw [written]; rfl) before
            rw [Item.marked, if_neg apart]
            exact agrees row accessory stored written before

theorem reloaded_agrees (realm : Realm) (controller : ItemViewController) (visible : ℕ → Bool) :
    CheckmarksAgree contains (reloaded contains realm controller visible) := by
  intro row accessory item cell listed
  have shown : cellForRowAt contains realm controller row = some (switcher item.done) :=
    Option.map_eq_some_iff.mpr ⟨item, listed, rfl⟩
  by_cases onScreen : visible row = true
  · have loaded : (reloaded contains realm controller visible).cells row = some (switcher item.done) :=
      (if_pos onScreen).trans shown
    cases loaded.symm.trans cell
    exact switcher_checkmark item.done
  · have missing : (reloaded contains realm controller visible).cells row = none := if_neg onScreen
    cases missing.symm.trans cell

theorem checkmarks_agree_iff (realm : Realm) (controller : ItemViewController) (visible : ℕ → Bool) (taps : List Tap) :
    Always (tapRow contains) (reloaded contains realm controller visible) (fun _ => CheckmarksAgree contains) taps ↔
      Along (tapRow contains) (reloaded contains realm controller visible) (fun _ => CleanTap contains) taps := by
  constructor
  · intro agrees before tap after table split reached item listed onScreen
    obtain ⟨next, tapped⟩ := tap_survives contains table tap item listed onScreen
    have agreesNext := always_next _ _ _ taps agrees before after tap table next split reached tapped
    have clean := (tap_agrees_iff contains table next tap (agrees before (tap :: after) table split reached) tapped).mp
      agreesNext
    exact clean item listed onScreen
  · intro clean
    apply always_from_steps _ _ (fun _ => CheckmarksAgree contains) taps
      (reloaded_agrees contains realm controller visible)
    intro before tap after table next split reached tapped agrees
    exact (tap_agrees_iff contains table next tap agrees tapped).mpr (clean before tap after table split reached)

-- In a store the app can reach, a tap is clean whenever its write commits.
theorem sound_tap_clean (table : ItemTable) (tap : Tap) (inv : Sound table.realm) (commits : tap.commits = true) :
    CleanTap contains table tap := by
  intro item listed _
  refine ⟨commits, ?_⟩
  intro other same different _ shown sameId
  obtain ⟨items, inTable, inRow⟩ := Option.bind_eq_some_iff.mp listed
  have otherRow : items[other]? = some same := by
    rw [itemAt, inTable] at shown
    exact shown
  have distinct := shown_items_distinct contains table.realm inv table.controller
  rw [shownItems, inTable] at distinct
  have bound : tap.row < (items.map Item.id).length := by
    rw [List.length_map]
    exact (List.getElem?_eq_some_iff.mp inRow).1
  have ids : (items.map Item.id)[tap.row]? = (items.map Item.id)[other]? := by
    rw [List.getElem?_map, List.getElem?_map, inRow, otherRow, Option.map_some, Option.map_some, sameId]
  exact different ((List.getElem?_inj bound distinct).mp ids).symm

end Taps

theorem failed_write_keeps_checkmark :
    ¬ Always (tapRow fun _ _ => true)
      (reloaded (fun _ _ => true) ⟨[⟨0, some "Home", some 0, [1]⟩], [⟨1, some "Milk", false, some 1⟩], 2⟩ (select 0)
        fun _ => true)
      (fun _ => CheckmarksAgree fun _ _ => true) [⟨0, false⟩] := by
  intro agrees
  have after := agrees [⟨0, false⟩] [] _ rfl (by rfl)
  have shown := after 0 .checkmark ⟨1, some "Milk", false, some 1⟩ (by rfl) (by rfl)
  exact absurd (shown.mp rfl) Bool.false_ne_true

end Pets.Todoey
