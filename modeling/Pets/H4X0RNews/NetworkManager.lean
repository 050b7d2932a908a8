import Pets.H4X0RNews.PostData
import Pets.Library.Client

set_option autoImplicit false

namespace Pets.H4X0RNews

open Pets.JSONDecoder Pets.Transition

abbrev Data := List UInt8

structure Foundation where
  url : String → Option String
  parse : Data → Option Json

def frontPage : String := "https://hn.algolia.com/api/v1/search?tags=front_page"

def decodeResults (foundation : Foundation) (data : Data) : Except DecodingError Results :=
  match foundation.parse data with
  | some json => Results.decode [] json
  | none => .error (.dataCorrupted [])

inductive Outcome where
  | failed (error : String)
  | loaded (data : Data)
deriving DecidableEq

-- The hits that the handler posts to the main queue, none when it posts nothing.
def taskCompleted (foundation : Foundation) : Outcome → Option (List Post)
  | .failed _ => none
  | .loaded safeData =>
      match decodeResults foundation safeData with
      | .ok results => some results.hits
      | .error _ => none

structure NetworkManager where
  requests : Session (List Post)
  posts : List Post
deriving DecidableEq

def launched : NetworkManager := ⟨Session.start, []⟩

def fetchData (foundation : Foundation) (manager : NetworkManager) : NetworkManager :=
  match foundation.url frontPage with
  | some _ => { manager with requests := manager.requests.issue }
  | none => manager

inductive Event where
  | onAppear
  | complete (request : ℕ) (outcome : Outcome)
  | turn
deriving DecidableEq

def completed (foundation : Foundation) (manager : NetworkManager) (request : ℕ) (outcome : Outcome) : NetworkManager :=
  if manager.requests.Outstanding request then
    { manager with requests := manager.requests.answer request (taskCompleted foundation outcome) }
  else manager

def performUpdate (manager : NetworkManager) : Option NetworkManager :=
  manager.requests.turn.map fun requests =>
    { requests, posts := (requests.shown.map Prod.snd).getD manager.posts }

def step (foundation : Foundation) (manager : NetworkManager) : Event → Option NetworkManager
  | .onAppear => some (fetchData foundation manager)
  | .complete request outcome => some (completed foundation manager request outcome)
  | .turn => performUpdate manager

structure Row where
  points : String
  title : String
  loads : Option String
deriving DecidableEq

def updateUIView (foundation : Foundation) (urlString : Option String) : Option String := urlString.bind foundation.url

def row (foundation : Foundation) (post : Post) : Row :=
  ⟨toString post.points, post.title, updateUIView foundation post.url⟩

def body (foundation : Foundation) (manager : NetworkManager) : List Row := manager.posts.map (row foundation)

def Event.turning : Event → Bool
  | .turn => true
  | _ => false

def brought (foundation : Foundation) (manager : NetworkManager) : Event → Option (ℕ × List Post)
  | .complete request outcome =>
      if manager.requests.Outstanding request then
        (taskCompleted foundation outcome).map fun posts => (request, posts)
      else none
  | _ => none

theorem step_moves (foundation : Foundation) (manager : NetworkManager) (event : Event) (next : NetworkManager)
    (moved : step foundation manager event = some next) :
    manager.requests.Moves event.turning (brought foundation manager event) next.requests := by
  cases event with
  | onAppear =>
      cases moved
      rw [fetchData]
      cases foundation.url frontPage with
      | none => exact .stays
      | some url => exact .issues
  | complete request outcome =>
      cases moved
      by_cases outstanding : manager.requests.Outstanding request
      · rw [completed, if_pos outstanding, brought, if_pos outstanding]
        exact .answers request _ outstanding
      · rw [completed, if_neg outstanding, brought, if_neg outstanding]
        exact .stays
  | turn =>
      obtain ⟨requests, turned, rfl⟩ := Option.map_eq_some_iff.mp moved
      exact .turns requests turned

def client (foundation : Foundation) : Client NetworkManager Event (List Post) where
  step := step foundation
  launched := launched
  requests := NetworkManager.requests
  turning := Event.turning
  brought := brought foundation
  initial := rfl
  moves := step_moves foundation

def Rendered (manager : NetworkManager) : Prop := manager.posts = (manager.requests.shown.map Prod.snd).getD []

theorem step_rendered (foundation : Foundation) (manager : NetworkManager) (event : Event) (next : NetworkManager)
    (rendered : Rendered manager) (moved : step foundation manager event = some next) : Rendered next := by
  cases event with
  | onAppear =>
      cases moved
      rw [fetchData]
      cases foundation.url frontPage <;> exact rendered
  | complete request outcome =>
      cases moved
      by_cases outstanding : manager.requests.Outstanding request
      · rw [completed, if_pos outstanding, Rendered, Session.answer_shown]
        exact rendered
      · rw [completed, if_neg outstanding]
        exact rendered
  | turn =>
      obtain ⟨requests, turned, rfl⟩ := Option.map_eq_some_iff.mp moved
      rcases Session.turn_cases manager.requests requests turned with ⟨_, rfl⟩ | ⟨update, rest, _, rfl⟩
      · rw [Rendered] at rendered ⊢
        rw [rendered]
        cases manager.requests.shown <;> rfl
      · rfl

end Pets.H4X0RNews
