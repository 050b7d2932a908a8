import Pets.Library.Lists
import Pets.Todoey.ItemViewController

set_option autoImplicit false

namespace Pets.Todoey

open Pets.Lists Pets.Transition

structure Typed where
  text : String
  searches : List String

def Typed.after (typed : Typed) : ItemEvent → Typed
  | .edit text => if text.length = 0 then ⟨text, []⟩ else { typed with text }
  | .search => if typed.text.isEmpty then typed else { typed with searches := typed.searches ++ [typed.text] }
  | _ => typed

def typed (history : List ItemEvent) : Typed := history.foldl Typed.after ⟨"", []⟩

def lastSearch (history : List ItemEvent) : Option String := (typed history).searches.getLast?

def wanted (contains : String → String → Bool) (history : List ItemEvent) (items : List Item) : List Item :=
  match lastSearch history with
  | some text => items.filter (titleContains contains text)
  | none => items

def NewestFirst (items : List Item) : Prop :=
  items.Pairwise fun first second => sortKey second.dateCreated ≤ sortKey first.dateCreated

section Search

variable (contains : String → String → Bool) (category : ObjectId)

def ShowsLastSearch (history : List ItemEvent) (screen : ItemScreen) : Prop :=
  ∃ items, rows contains screen.realm screen.controller = some items ∧
    items.Perm (wanted contains history (listItems screen.realm category)) ∧ NewestFirst items

def LastSearchNarrowest (history : List ItemEvent) (screen : ItemScreen) : Prop :=
  ∀ last, lastSearch history = some last → ∀ item ∈ listItems screen.realm category,
    titleContains contains last item = true →
      ∀ earlier ∈ (typed history).searches, titleContains contains earlier item = true

-- The filters of the results are all the searches, not the last one only.
structure Searched (history : List ItemEvent) (screen : ItemScreen) : Prop where
  selected : screen.controller.selectedCategory = some category
  text : screen.controller.searchText = (typed history).text
  results : ∃ view : Results, screen.controller.items = some view.sorted ∧ view.source = category ∧
    view.predicates = (typed history).searches

theorem typed_snoc (history : List ItemEvent) (event : ItemEvent) :
    typed (history ++ [event]) = (typed history).after event := List.foldl_concat ..

theorem typed_other (history : List ItemEvent) (event : ItemEvent) (noEdit : ∀ text, event ≠ .edit text)
    (noSearch : event ≠ .search) : typed (history ++ [event]) = typed history := by
  rw [typed_snoc]
  cases event with
  | edit text => exact absurd rfl (noEdit text)
  | search => exact absurd rfl noSearch
  | add title now commits => rfl
  | toggle row commits => rfl
  | delete row commits => rfl

theorem selected_searched (realm : Realm) : Searched category [] ⟨realm, select category⟩ :=
  ⟨rfl, rfl, .all category, rfl, rfl, rfl⟩

theorem edit_searched (history : List ItemEvent) (screen : ItemScreen) (text : String)
    (inv : Searched category history screen) :
    Searched category (history ++ [.edit text]) { screen with controller := textDidChange screen.controller text } := by
  by_cases emptied : text.length = 0
  · have after : typed (history ++ [.edit text]) = ⟨text, []⟩ := by
      rw [typed_snoc, Typed.after, if_pos emptied]
    rw [textDidChange, if_pos emptied]
    refine ⟨inv.selected, by rw [after]; rfl, .all category, ?_, rfl, by rw [after]; rfl⟩
    rw [load, inv.selected]
    rfl
  · have after : typed (history ++ [.edit text]) = { typed history with text } := by
      rw [typed_snoc, Typed.after, if_neg emptied]
    rw [textDidChange, if_neg emptied]
    exact ⟨inv.selected, by rw [after], by rw [after]; exact inv.results⟩

theorem search_searched (history : List ItemEvent) (screen : ItemScreen)
    (written : screen.controller.searchText.isEmpty = false) (inv : Searched category history screen) :
    Searched category (history ++ [.search])
      { screen with controller := searchBarSearchButtonClicked screen.controller } := by
  have after : typed (history ++ [.search]) =
      { typed history with searches := (typed history).searches ++ [(typed history).text] } := by
    rw [typed_snoc, Typed.after, if_neg (by rw [← inv.text, written]; exact Bool.false_ne_true)]
  obtain ⟨view, items, source, predicates⟩ := inv.results
  refine ⟨inv.selected, by rw [after]; exact inv.text, view.sorted.filtered screen.controller.searchText, ?_, source, ?_⟩
  · rw [searchBarSearchButtonClicked, items]
    rfl
  · rw [after, ← inv.text, ← predicates]
    rfl

theorem item_step_searched (history : List ItemEvent) (screen : ItemScreen) (event : ItemEvent) (next : ItemScreen)
    (inv : Searched category history screen) (moved : itemStep contains screen event = some next) :
    Searched category (history ++ [event]) next := by
  rcases item_step_cases contains screen next event moved with
    ⟨text, rfl, rfl⟩ | ⟨rfl, blank, rfl⟩ | ⟨rfl, written, rfl⟩ | ⟨noEdit, noSearch, kept⟩
  · exact edit_searched category history screen text inv
  · have after : typed (history ++ [.search]) = typed history := by
      rw [typed_snoc, Typed.after, if_pos (by rw [← inv.text, blank])]
    exact ⟨inv.selected, by rw [after]; exact inv.text, by rw [after]; exact inv.results⟩
  · exact search_searched category history screen written inv
  · have after := typed_other history event noEdit noSearch
    exact ⟨by rw [kept]; exact inv.selected, by rw [kept, after]; exact inv.text,
      by rw [kept, after]; exact inv.results⟩

theorem searched_rows (history : List ItemEvent) (screen : ItemScreen) (inv : Searched category history screen) :
    ∃ items, rows contains screen.realm screen.controller = some items ∧ NewestFirst items ∧
      items.Perm ((listItems screen.realm category).filter fun item =>
        (typed history).searches.all fun text => titleContains contains text item) := by
  obtain ⟨view, items, source, predicates⟩ := inv.results
  have shown : rows contains screen.realm screen.controller =
      some (view.sorted.eval (listItems screen.realm) (titleContains contains) fun item => sortKey item.dateCreated) := by
    rw [rows, items, Option.map_some]
  refine ⟨_, shown, LiveView.eval_sorted _ _ _ view, ?_⟩
  have same := LiveView.eval_perm (listItems screen.realm) (titleContains contains)
    (fun item => sortKey item.dateCreated) view.sorted
  simpa only [LiveView.source, LiveView.predicates, source, predicates] using same

theorem shows_last_search_iff (history : List ItemEvent) (screen : ItemScreen)
    (inv : Searched category history screen) :
    ShowsLastSearch contains category history screen ↔ LastSearchNarrowest contains category history screen := by
  obtain ⟨items, shown, newest, same⟩ := searched_rows contains category history screen inv
  have only : ShowsLastSearch contains category history screen ↔
      items.Perm (wanted contains history (listItems screen.realm category)) := by
    refine ⟨?_, fun permuted => ⟨items, shown, permuted, newest⟩⟩
    intro ⟨other, found, permuted, _⟩
    cases shown.symm.trans found
    exact permuted
  rw [only, wanted, LastSearchNarrowest]
  cases last : lastSearch history with
  | none =>
      have unsearched : (typed history).searches = [] := List.getLast?_eq_none_iff.mp last
      rw [unsearched] at same
      refine ⟨fun _ text impossible => (by cases impossible), fun _ => same.trans (List.Perm.of_eq ?_)⟩
      exact List.filter_true _
  | some text =>
      have member : text ∈ (typed history).searches := List.mem_of_getLast? last
      have narrower := filter_narrower_iff (listItems screen.realm category) (titleContains contains text)
        (fun item => (typed history).searches.all fun text => titleContains contains text item)
        (fun item _ every => List.all_eq_true.mp every text member)
      have permuted : items.Perm ((listItems screen.realm category).filter (titleContains contains text)) ↔ _ :=
        ⟨fun found => same.symm.trans found, fun found => same.trans found⟩
      rw [permuted, narrower]
      simp only [List.all_eq_true]
      constructor
      · intro narrow found sameText item inside matched
        cases sameText
        exact narrow item inside matched
      · intro narrow item inside matched
        exact narrow text rfl item inside matched

theorem last_search_shown_iff (realm : Realm) (events : List ItemEvent) :
    Always (itemStep contains) ⟨realm, select category⟩ (ShowsLastSearch contains category) events ↔
      Always (itemStep contains) ⟨realm, select category⟩ (LastSearchNarrowest contains category) events :=
  always_congr (itemStep contains) ⟨realm, select category⟩ (Searched category) (selected_searched category realm)
    (item_step_searched contains category) (ShowsLastSearch contains category)
    (LastSearchNarrowest contains category) (shows_last_search_iff contains category) events

end Search

-- What CONTAINS[cd] comes to between texts without diacritics.
def containsFolded (title text : String) : Bool :=
  title.toLower.toList.tails.any fun tail => text.toLower.toList.isPrefixOf tail

def eggsAfterMilk : List ItemEvent :=
  [.add "Milk" 1 true, .add "Eggs" 2 true, .edit "milk", .search, .edit "eggs", .search]

-- The second search looks for eggs among the items that the search for milk left.
theorem eggs_hidden_by_milk :
    ¬ Always (itemStep containsFolded) ⟨⟨[⟨0, some "Shop", some 0, []⟩], [], 1⟩, select 0⟩
      (ShowsLastSearch containsFolded 0) eggsAfterMilk := by
  intro shows
  have reached : run (itemStep containsFolded) ⟨⟨[⟨0, some "Shop", some 0, []⟩], [], 1⟩, select 0⟩ eggsAfterMilk =
      some ⟨⟨[⟨0, some "Shop", some 0, [1, 2]⟩], [⟨1, some "Milk", false, some 1⟩, ⟨2, some "Eggs", false, some 2⟩], 3⟩,
        ⟨some 0, some ((((LiveView.all 0).sorted.filtered "milk").sorted.filtered "eggs").sorted), "eggs"⟩⟩ := by
    decide +kernel
  obtain ⟨items, shown, permuted, _⟩ := shows eggsAfterMilk [] _ (by simp) reached
  have none : items = [] := by
    apply Option.some.inj
    rw [← shown]
    decide +kernel
  have one : (wanted containsFolded eggsAfterMilk
      [⟨1, some "Milk", false, some 1⟩, ⟨2, some "Eggs", false, some 2⟩]).length = 1 := by
    decide +kernel
  rw [none] at permuted
  exact absurd (permuted.length_eq.trans one) (by decide)

end Pets.Todoey
