import Mathlib.Tactic.FinCases
import Mathlib.Tactic.SplitIfs
import Pets.Destiny.ViewController

set_option autoImplicit false

namespace Pets.Destiny

open Pets.Transition

def Follows (stories : List Story) (outlets : ViewController) (taps : List Sender) : Prop :=
  Option.Rel (Reads stories) (play outlets stories taps) (walk stories taps)

theorem reads_unique (stories : List Story) (controller : ViewController) (left right : ℤ)
    (first : Reads stories controller left) (second : Reads stories controller right) : left = right := by
  have places := first.place.symm.trans second.place
  injection places

theorem play_snoc (outlets : ViewController) (stories : List Story) (taps : List Sender) (sender : Sender) :
    play outlets stories (taps ++ [sender]) =
      (play outlets stories taps).bind fun controller => choiceMade controller sender := by
  simp only [play, run_snoc, Option.bind_assoc]

theorem unambiguous_follows (stories : List Story) (outlets : ViewController) (unambiguous : Unambiguous stories)
    (taps : List Sender) : Follows stories outlets taps := by
  cases first : story? stories 0 with
  | none =>
      have unplayed : play outlets stories taps = none := by
        rw [play, viewDidLoad, newBrain, first]
        rfl
      rw [Follows, unplayed, walk, first]
      exact Option.Rel.none
  | some story =>
      obtain ⟨launched, loaded, reads⟩ := view_did_load_reads outlets stories story first
      rw [Follows, play, loaded, walk, first]
      exact rel_mono _ _ (fun _ _ both => both.1) _ _
        (choices_follow stories unambiguous launched story first reads taps)

-- On a page whose choices have one text the second button is taken for the first.
theorem follows_unambiguous (stories : List Story) (outlets : ViewController)
    (follows : ∀ taps, Follows stories outlets taps) : Unambiguous stories := by
  intro taps page story reached current same
  have here := follows taps
  rw [Follows, reached] at here
  obtain ⟨controller, played, reads⟩ := rel_some _ _ _ here
  have chosen := choice_made_reads stories controller page story reads current .second
  have after := follows (taps ++ [.second])
  rw [taken, if_pos same] at chosen
  rw [Follows, walk_snoc, reached, Option.bind_some, play_snoc, played, Option.bind_some] at after
  exact rel_unique (Reads stories) (reads_unique stories) _ _ _ chosen after

-- The screen is always the page that the tapped buttons lead to exactly when no
-- page that can be reached gives two destinations one text.
theorem plays_follow_book_iff (stories : List Story) (outlets : ViewController) :
    (∀ taps, Follows stories outlets taps) ↔ Unambiguous stories :=
  ⟨follows_unambiguous stories outlets, unambiguous_follows stories outlets⟩

def builtInRank (page : ℤ) : ℕ := if page = 0 then 3 else if page = 1 then 2 else if page = 2 then 1 else 0

theorem story_bound (stories : List Story) (page : ℤ) (story : Story) (current : story? stories page = some story) :
    0 ≤ page ∧ page < stories.length := by
  by_cases inside : 0 ≤ page
  · rw [story?, if_pos inside] at current
    have bound := (List.getElem?_eq_some_iff.mp current).1
    omega
  · rw [story?, if_neg inside] at current
    cases current

theorem built_in_pages (holds : ℤ → Prop) (pages : ∀ page ∈ [(0 : ℤ), 1, 2, 3, 4, 5], holds page) (page : ℤ)
    (story : Story) (current : story? builtInStories page = some story) : holds page := by
  have bound := story_bound builtInStories page story current
  have six : builtInStories.length = 6 := rfl
  apply pages page
  simp only [List.mem_cons, List.not_mem_nil, or_false]
  omega

theorem built_in_leads (page : ℤ) (story : Story) (current : story? builtInStories page = some story) (sender : Sender) :
    ∃ next, leadsTo builtInStories page sender = some next ∧ (next = 0 ∨ builtInRank next < builtInRank page) := by
  revert sender
  apply built_in_pages _ _ page story current
  intro page member sender
  fin_cases member <;> cases sender <;> exact ⟨_, rfl, by decide⟩

theorem built_in_unambiguous : Unambiguous builtInStories := by
  intro taps page story _ current same
  revert same
  apply built_in_pages (fun page => ∀ story, story? builtInStories page = some story → story.choice1 = story.choice2 →
    leadsTo builtInStories page .first = leadsTo builtInStories page .second) _ page story current story current
  intro page member story current same
  fin_cases member <;> cases current <;> exact absurd same (by decide)

theorem built_in_walks (taps : List Sender) : ∃ page story, walk builtInStories taps = some page ∧
    story? builtInStories page = some story := by
  induction taps using List.reverseRecOn with
  | nil => exact ⟨0, _, rfl, rfl⟩
  | append_singleton taps sender ih =>
      obtain ⟨page, story, reached, current⟩ := ih
      obtain ⟨next, moved, _⟩ := built_in_leads page story current sender
      obtain ⟨story, _, landed⟩ := Option.bind_eq_some_iff.mp moved
      obtain ⟨landing, found, same⟩ := Option.map_eq_some_iff.mp landed
      exact ⟨next, landing, by rw [walk_snoc, reached, Option.bind_some, moved], same ▸ found⟩

theorem built_in_returns (outlets : ViewController) (before more : List Sender) (enough : 4 ≤ more.length) :
    ∃ front back, more = front ++ back ∧ front ≠ [] ∧ front.length ≤ 4 ∧
      ∃ controller, play outlets builtInStories (before ++ front) = some controller ∧
        Reads builtInStories controller 0 := by
  obtain ⟨page, story, reached, current⟩ := built_in_walks before
  obtain ⟨final, _, ran, _⟩ := built_in_walks (before ++ more)
  have walked : run (leadsTo builtInStories) 0 before = some page := reached
  have onward : run (leadsTo builtInStories) page more = some final := by
    have whole : run (leadsTo builtInStories) 0 (before ++ more) = some final := ran
    rwa [run_append, walked, Option.bind_some] at whole
  have short : builtInRank page ≤ 3 := by
    simp only [builtInRank]
    split_ifs <;> omega
  obtain ⟨front, back, split, some, bound, home⟩ := ranked_returns (leadsTo builtInStories) 0 builtInRank
    (fun page sender next moved => by
      obtain ⟨story, current, _⟩ := Option.bind_eq_some_iff.mp moved
      obtain ⟨other, same, lower⟩ := built_in_leads page story current sender
      cases moved.symm.trans same
      exact lower) page final more onward (by omega)
  have follows := unambiguous_follows builtInStories outlets built_in_unambiguous (before ++ front)
  have back : walk builtInStories (before ++ front) = .some 0 := by
    have whole : run (leadsTo builtInStories) 0 (before ++ front) = .some 0 := by
      rw [run_append, walked, Option.bind_some, home]
    exact whole
  rw [Follows, back] at follows
  exact ⟨front, _, split, some, by omega, rel_some _ _ _ follows⟩

theorem four_first_taps_return :
    ∃ front back, List.replicate 4 Sender.first = front ++ back ∧ front ≠ [] ∧ front.length ≤ 4 ∧
      ∃ controller, play ⟨"", "", "", newBrain []⟩ builtInStories ([Sender.second] ++ front) = some controller ∧
        Reads builtInStories controller 0 :=
  built_in_returns ⟨"", "", "", newBrain []⟩ [.second] (List.replicate 4 .first) (by decide)

end Pets.Destiny
