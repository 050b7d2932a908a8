import Pets.Destiny.StoryBrain
import Pets.Library.Transition

set_option autoImplicit false

namespace Pets.Destiny

open Pets.Transition

structure ViewController where
  storyLabel : String
  firstChoiceButton : String
  secondChoiceButton : String
  storyBrain : StoryBrain
deriving DecidableEq

def updateUI (controller : ViewController) (story : Story) : ViewController :=
  { controller with
    storyLabel := story.title
    firstChoiceButton := story.choice1
    secondChoiceButton := story.choice2 }

def viewDidLoad (controller : ViewController) : Option ViewController :=
  (story? controller.storyBrain.stories controller.storyBrain.storyNumber).map (updateUI controller)

inductive Sender where
  | first
  | second
deriving DecidableEq

def ViewController.currentTitle (controller : ViewController) : Sender → String
  | .first => controller.firstChoiceButton
  | .second => controller.secondChoiceButton

def choiceMade (controller : ViewController) (sender : Sender) : Option ViewController := do
  let brain ← nextStory controller.storyBrain (controller.currentTitle sender)
  let story ← story? brain.stories brain.storyNumber
  some (updateUI { controller with storyBrain := brain } story)

def play (outlets : ViewController) (stories : List Story) (taps : List Sender) : Option ViewController :=
  (viewDidLoad { outlets with storyBrain := newBrain stories }).bind fun controller => run choiceMade controller taps

-- The book as it is written: each choice of a page leads to its own
-- destination, if there is such a page.
def Story.destination (story : Story) : Sender → ℤ
  | .first => story.choice1Destination
  | .second => story.choice2Destination

def leadsTo (stories : List Story) (page : ℤ) (sender : Sender) : Option ℤ :=
  (story? stories page).bind fun story =>
    (story? stories (story.destination sender)).map fun _ => story.destination sender

def walk (stories : List Story) (taps : List Sender) : Option ℤ :=
  (story? stories 0).bind fun _ => run (leadsTo stories) 0 taps

structure Reads (stories : List Story) (controller : ViewController) (page : ℤ) : Prop where
  place : controller.storyBrain = ⟨stories, page⟩
  shown : ∃ story, story? stories page = some story ∧ controller.storyLabel = story.title ∧
    controller.firstChoiceButton = story.choice1 ∧ controller.secondChoiceButton = story.choice2

def Unambiguous (stories : List Story) : Prop :=
  ∀ taps page story, walk stories taps = some page → story? stories page = some story →
    story.choice1 = story.choice2 → leadsTo stories page .first = leadsTo stories page .second

theorem view_did_load_reads (outlets : ViewController) (stories : List Story) (story : Story)
    (first : story? stories 0 = some story) :
    ∃ launched, viewDidLoad { outlets with storyBrain := newBrain stories } = some launched ∧
      Reads stories launched 0 := by
  refine ⟨updateUI { outlets with storyBrain := newBrain stories } story, ?_, rfl, story, first, rfl, rfl, rfl⟩
  rw [viewDidLoad]
  exact Option.map_eq_some_iff.mpr ⟨story, first, rfl⟩

-- nextStory compares with the first choice first.
def taken (story : Story) (sender : Sender) : Sender :=
  if story.choice1 = story.choice2 then .first else sender

theorem next_story_taken (stories : List Story) (controller : ViewController) (page : ℤ) (story : Story)
    (reads : Reads stories controller page) (current : story? stories page = some story) (sender : Sender) :
    nextStory controller.storyBrain (controller.currentTitle sender) =
      some ⟨stories, story.destination (taken story sender)⟩ := by
  obtain ⟨place, other, found, _, first, second⟩ := reads
  cases current.symm.trans found
  rw [nextStory, place, current, Option.map_some]
  cases sender with
  | first =>
      rw [ViewController.currentTitle, first, if_pos rfl]
      by_cases same : story.choice1 = story.choice2
      · rw [taken, if_pos same, Story.destination]
      · rw [taken, if_neg same, Story.destination]
  | second =>
      rw [ViewController.currentTitle, second]
      by_cases same : story.choice1 = story.choice2
      · rw [if_pos same.symm, taken, if_pos same, Story.destination]
      · rw [if_neg (Ne.symm same), if_pos rfl, taken, if_neg same, Story.destination]

theorem choice_made_reads (stories : List Story) (controller : ViewController) (page : ℤ) (story : Story)
    (reads : Reads stories controller page) (current : story? stories page = some story) (sender : Sender) :
    Option.Rel (Reads stories) (choiceMade controller sender) (leadsTo stories page (taken story sender)) := by
  have moved := next_story_taken stories controller page story reads current sender
  rw [leadsTo, current, Option.bind_some]
  cases lands : story? stories (story.destination (taken story sender)) with
  | none =>
      have traps : choiceMade controller sender = none := by
        simp only [choiceMade, moved, Option.bind_eq_bind, Option.bind_some, lands, Option.bind_none]
      rw [traps]
      exact Option.Rel.none
  | some landed =>
      have goes : choiceMade controller sender =
          some (updateUI { controller with storyBrain := ⟨stories, story.destination (taken story sender)⟩ } landed) := by
        simp only [choiceMade, moved, Option.bind_eq_bind, Option.bind_some, lands]
      rw [goes]
      exact Option.Rel.some ⟨rfl, landed, lands, rfl, rfl, rfl⟩

theorem walk_snoc (stories : List Story) (taps : List Sender) (sender : Sender) :
    walk stories (taps ++ [sender]) = (walk stories taps).bind fun page => leadsTo stories page sender := by
  simp only [walk, run_snoc, Option.bind_assoc]

theorem taken_leads (stories : List Story) (unambiguous : Unambiguous stories) (taps : List Sender) (page : ℤ)
    (story : Story) (reached : walk stories taps = some page) (current : story? stories page = some story)
    (sender : Sender) : leadsTo stories page (taken story sender) = leadsTo stories page sender := by
  by_cases same : story.choice1 = story.choice2
  · rw [taken, if_pos same]
    cases sender with
    | first => rfl
    | second => exact unambiguous taps page story reached current same
  · rw [taken, if_neg same]

theorem choices_follow (stories : List Story) (unambiguous : Unambiguous stories) (launched : ViewController)
    (story : Story) (first : story? stories 0 = some story) (reads : Reads stories launched 0) (taps : List Sender) :
    Option.Rel (fun controller page => Reads stories controller page ∧ ∃ before, walk stories before = some page)
      (run choiceMade launched taps) (run (leadsTo stories) 0 taps) := by
  apply run_simulated
  · intro controller page sender ⟨reads, before, reached⟩
    obtain ⟨story, current, _⟩ := reads.shown
    have moved := choice_made_reads stories controller page story reads current sender
    rw [taken_leads stories unambiguous before page story reached current sender] at moved
    cases lands : leadsTo stories page sender with
    | none =>
        rw [lands] at moved
        rw [rel_none _ _ moved]
        exact Option.Rel.none
    | some landed =>
        rw [lands] at moved
        obtain ⟨next, chosen, stays⟩ := rel_some _ _ _ moved
        rw [chosen]
        refine Option.Rel.some ⟨stays, before ++ [sender], ?_⟩
        rw [walk_snoc, reached, Option.bind_some, lands]
  · exact ⟨reads, [], by rw [walk, first]; rfl⟩

end Pets.Destiny
