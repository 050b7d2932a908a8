import Mathlib.Order.WithBot
import Pets.Library.Transition
import Pets.Todoey.Realm

set_option autoImplicit false

namespace Pets.Todoey

open Pets.Transition

abbrev Results := LiveView ObjectId String

-- Realm puts a missing value before every other one.
def sortKey : Option Date → WithBot Date
  | none => ⊥
  | some date => date

-- The predicate "title CONTAINS[cd] text"; no text is contained in a missing title.
def titleContains (contains : String → String → Bool) (text : String) (item : Item) : Bool :=
  match item.title with
  | some title => contains title text
  | none => false

structure ItemViewController where
  selectedCategory : Option ObjectId
  items : Option Results
  searchText : String
deriving DecidableEq

def load (controller : ItemViewController) : ItemViewController :=
  { controller with items := controller.selectedCategory.map fun category => (LiveView.all category).sorted }

def select (category : ObjectId) : ItemViewController := load ⟨some category, none, ""⟩

def rows (contains : String → String → Bool) (realm : Realm) (controller : ItemViewController) : Option (List Item) :=
  controller.items.map fun results =>
    results.eval (listItems realm) (titleContains contains) fun item => sortKey item.dateCreated

-- items?[row]: none without a list, and past its end.
def itemAt (contains : String → String → Bool) (realm : Realm) (controller : ItemViewController) (row : ℕ) : Option Item :=
  (rows contains realm controller).bind fun items => items[row]?

def addPressed (realm : Realm) (controller : ItemViewController) (title : String) (now : Date) (commits : Bool) :
    Option Realm :=
  match controller.selectedCategory with
  | some currentCategory =>
      if title.isEmpty then some realm
      else write realm commits fun realm => appendItem realm currentCategory title now
  | none => some realm

section Rows

variable (contains : String → String → Bool) (realm : Realm) (controller : ItemViewController)

def writeRow (row : ℕ) (commits : Bool) (change : Item → Realm → Realm) : Option Realm :=
  match rows contains realm controller with
  | some items => items[row]?.bind fun item => write realm commits fun realm => some (change item realm)
  | none => some realm

def didSelectRow (row : ℕ) (commits : Bool) : Option Realm :=
  writeRow contains realm controller row commits fun item realm => setDone realm item.id (!item.done)

def deleteRow (row : ℕ) (commits : Bool) : Option Realm :=
  writeRow contains realm controller row commits fun item realm => deleteItems realm [item.id]

end Rows

def searchBarSearchButtonClicked (controller : ItemViewController) : ItemViewController :=
  { controller with items := controller.items.map fun results => (results.filtered controller.searchText).sorted }

def textDidChange (controller : ItemViewController) (searchText : String) : ItemViewController :=
  if searchText.length = 0 then load { controller with searchText } else { controller with searchText }

structure ItemScreen where
  realm : Realm
  controller : ItemViewController
deriving DecidableEq

inductive ItemEvent where
  | add (title : String) (now : Date) (commits : Bool)
  | toggle (row : ℕ) (commits : Bool)
  | delete (row : ℕ) (commits : Bool)
  | edit (searchText : String)
  | search
deriving DecidableEq

-- The keyboard's Search key is off while the bar is empty.
def itemStep (contains : String → String → Bool) (screen : ItemScreen) : ItemEvent → Option ItemScreen
  | .add title now commits =>
      (addPressed screen.realm screen.controller title now commits).map fun realm => { screen with realm }
  | .toggle row commits =>
      (didSelectRow contains screen.realm screen.controller row commits).map fun realm => { screen with realm }
  | .delete row commits =>
      (deleteRow contains screen.realm screen.controller row commits).map fun realm => { screen with realm }
  | .edit searchText => some { screen with controller := textDidChange screen.controller searchText }
  | .search =>
      if screen.controller.searchText.isEmpty then some screen
      else some { screen with controller := searchBarSearchButtonClicked screen.controller }

theorem item_step_cases (contains : String → String → Bool) (screen next : ItemScreen) (event : ItemEvent)
    (moved : itemStep contains screen event = some next) :
    (∃ searchText, event = .edit searchText ∧
        next = { screen with controller := textDidChange screen.controller searchText }) ∨
      (event = .search ∧ screen.controller.searchText.isEmpty = true ∧ next = screen) ∨
      (event = .search ∧ screen.controller.searchText.isEmpty = false ∧
        next = { screen with controller := searchBarSearchButtonClicked screen.controller }) ∨
      ((∀ searchText, event ≠ .edit searchText) ∧ event ≠ .search ∧ next.controller = screen.controller) := by
  cases event with
  | add title now commits =>
      obtain ⟨realm, _, rfl⟩ := Option.map_eq_some_iff.mp moved
      exact Or.inr (Or.inr (Or.inr ⟨by simp, by simp, rfl⟩))
  | toggle row commits =>
      obtain ⟨realm, _, rfl⟩ := Option.map_eq_some_iff.mp moved
      exact Or.inr (Or.inr (Or.inr ⟨by simp, by simp, rfl⟩))
  | delete row commits =>
      obtain ⟨realm, _, rfl⟩ := Option.map_eq_some_iff.mp moved
      exact Or.inr (Or.inr (Or.inr ⟨by simp, by simp, rfl⟩))
  | edit searchText => exact Or.inl ⟨searchText, rfl, (Option.some.inj moved).symm⟩
  | search =>
      by_cases blank : screen.controller.searchText.isEmpty = true
      · rw [itemStep, if_pos blank] at moved
        exact Or.inr (Or.inl ⟨rfl, blank, (Option.some.inj moved).symm⟩)
      · rw [itemStep, if_neg blank] at moved
        exact Or.inr (Or.inr (Or.inl ⟨rfl, Bool.eq_false_iff.mpr blank, (Option.some.inj moved).symm⟩))

end Pets.Todoey
