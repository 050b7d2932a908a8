import Pets.Library.Characters
import Pets.Library.Client

set_option autoImplicit false

namespace Pets.WhatFlower

open Pets.Transition

abbrev Data := List UInt8

abbrev Photo := ℕ

/- SwiftyJSON, whose subscripts and stringValue always answer, URL(string:) with the text
   of the URL, and the Characters of a text. -/
structure Foundation (JSON : Type) where
  json : Option Data → JSON
  member : JSON → String → JSON
  element : JSON → ℕ → JSON
  stringValue : JSON → String
  url : String → Option String
  characters : Characters

variable {JSON : Type}

structure Page where
  imageURL : String
  title : String
  description : String
  pageURL : String
deriving DecidableEq

def pageOf (foundation : Foundation JSON) (json : JSON) : Page :=
  let pageid := foundation.stringValue (foundation.element (foundation.member (foundation.member json "query") "pageids") 0)
  let page := foundation.member (foundation.member (foundation.member json "query") "pages") pageid
  { imageURL := foundation.stringValue (foundation.member (foundation.member page "thumbnail") "source")
    title := foundation.stringValue (foundation.member page "title")
    description := foundation.stringValue (foundation.member page "extract")
    pageURL := foundation.stringValue (foundation.member page "fullurl") }

def page (foundation : Foundation JSON) (value : Option Data) : Page := pageOf foundation (foundation.json value)

def substring (foundation : Foundation JSON) (text : String) (toIndex : ℕ) : Option String :=
  if toIndex ≤ (foundation.characters.of text).length then
    some (String.join ((foundation.characters.of text).take toIndex))
  else none

def getShortString (foundation : Foundation JSON) (text : String) : Option String :=
  if 200 ≤ (foundation.characters.of text).length then
    (substring foundation text 200).map fun short => short ++ "..."
  else some text

structure Screen where
  image : Option String
  placeholderImage : Photo
  titleLabel : String
  descriptionLabel : String
deriving DecidableEq

-- requests numbers the requests to Wikipedia from zero. asked is history: the
-- photo of each, and the title it asked for. screen is none while the
-- placeholder is on it, and opened is history too.
structure ViewController where
  titles : String
  asked : List (Photo × String)
  requests : Session (Photo × Page)
  screen : Option Screen
  openURL : String
  opened : List String
deriving DecidableEq

def wiki : String := "https://en.wikipedia.org/wiki"

def launched : ViewController := ⟨"", [], Session.start, none, wiki, []⟩

-- What Core Image and Vision make of a photo. results is none when the request
-- is never completed, and some none when it completes without results.
structure Picked where
  photo : Photo
  ciimage : Bool
  model : Bool
  results : Option (Option (List String))
deriving DecidableEq

def detect (controller : ViewController) (picked : Picked) : Option ViewController :=
  if picked.model then
    match picked.results with
    | none => some controller
    | some results =>
        (results.bind List.head?).map fun identifier =>
          { controller with
            titles := identifier
            asked := controller.asked ++ [(picked.photo, identifier)]
            requests := controller.requests.issue }
  else none

-- info is none when it holds no original image.
def didFinishPicking (controller : ViewController) (info : Option Picked) : Option ViewController :=
  match info with
  | none => some controller
  | some picked => if picked.ciimage then detect controller picked else none

def responded (foundation : Foundation JSON) (controller : ViewController) (request : ℕ) (value : Option Data) :
    ViewController :=
  if controller.requests.Outstanding request then
    { controller with
      requests := controller.requests.answer request
        (controller.asked[request]?.map fun asked => (asked.1, page foundation value)) }
  else controller

def showPage (foundation : Foundation JSON) (photo : Photo) (page : Page) : Option Screen :=
  (getShortString foundation page.description).map fun descriptionLabel =>
    ⟨foundation.url page.imageURL, photo, page.title, descriptionLabel⟩

def performUpdate (foundation : Foundation JSON) (controller : ViewController) : Option ViewController :=
  controller.requests.turn.bind fun requests =>
    match requests.shown with
    | none => some { controller with requests }
    | some shown =>
        (showPage foundation shown.2.1 shown.2.2).map fun screen =>
          { controller with requests, screen := some screen, openURL := shown.2.2.pageURL }

def goPressed (foundation : Foundation JSON) (controller : ViewController) : ViewController :=
  match foundation.url controller.openURL with
  | some url => { controller with opened := controller.opened ++ [url] }
  | none => controller

inductive Event where
  | picked (info : Option Picked)
  | response (request : ℕ) (value : Option Data)
  | turn
  | goPressed
deriving DecidableEq

def step (foundation : Foundation JSON) (controller : ViewController) : Event → Option ViewController
  | .picked info => didFinishPicking controller info
  | .response request value => some (responded foundation controller request value)
  | .turn => performUpdate foundation controller
  | .goPressed => some (goPressed foundation controller)

-- A request that fails is answered with an empty page.
def brought (foundation : Foundation JSON) (controller : ViewController) : Event → Option (ℕ × Photo × Page)
  | .response request value =>
      if controller.requests.Outstanding request then
        controller.asked[request]?.map fun asked => (request, asked.1, page foundation value)
      else none
  | _ => none

def Event.turning : Event → Bool
  | .turn => true
  | _ => false

theorem get_short_string_some (foundation : Foundation JSON) (text : String) :
    ∃ short, getShortString foundation text = some short := by
  by_cases long : 200 ≤ (foundation.characters.of text).length
  · exact ⟨_, by rw [getShortString, if_pos long, substring, if_pos long]; rfl⟩
  · exact ⟨text, by rw [getShortString, if_neg long]⟩

theorem show_page_some (foundation : Foundation JSON) (photo : Photo) (page : Page) :
    ∃ screen, showPage foundation photo page = some screen := by
  obtain ⟨short, shortened⟩ := get_short_string_some foundation page.description
  exact ⟨_, by rw [showPage, shortened]; rfl⟩

theorem picking_cases (controller next : ViewController) (info : Option Picked)
    (moved : didFinishPicking controller info = some next) :
    next = controller ∨ ∃ picked identifier rest, info = some picked ∧
      picked.results = some (some (identifier :: rest)) ∧
      next = { controller with
        titles := identifier
        asked := controller.asked ++ [(picked.photo, identifier)]
        requests := controller.requests.issue } := by
  cases info with
  | none => exact Or.inl (Option.some.inj moved).symm
  | some picked =>
      rw [didFinishPicking] at moved
      split_ifs at moved with converted
      rw [detect] at moved
      split_ifs at moved with loaded
      cases classified : picked.results with
      | none =>
          rw [classified] at moved
          exact Or.inl (Option.some.inj moved).symm
      | some results =>
          rw [classified] at moved
          obtain ⟨identifier, first, rfl⟩ := Option.map_eq_some_iff.mp moved
          obtain ⟨labels, rfl, head⟩ := Option.bind_eq_some_iff.mp first
          obtain ⟨rest, rfl⟩ := List.head?_eq_some_iff.mp head
          exact Or.inr ⟨picked, identifier, rest, rfl, classified, rfl⟩

theorem updating_cases (foundation : Foundation JSON) (controller next : ViewController)
    (moved : performUpdate foundation controller = some next) :
    ∃ requests, controller.requests.turn = some requests ∧
      ((requests.shown = none ∧ next = { controller with requests }) ∨
        ∃ shown screen, requests.shown = some shown ∧ showPage foundation shown.2.1 shown.2.2 = some screen ∧
          next = { controller with requests, screen := some screen, openURL := shown.2.2.pageURL }) := by
  obtain ⟨requests, turned, updated⟩ := Option.bind_eq_some_iff.mp moved
  refine ⟨requests, turned, ?_⟩
  cases isShown : requests.shown with
  | none =>
      rw [isShown] at updated
      exact Or.inl ⟨rfl, (Option.some.inj updated).symm⟩
  | some shown =>
      rw [isShown] at updated
      obtain ⟨screen, rendered, rfl⟩ := Option.map_eq_some_iff.mp updated
      exact Or.inr ⟨shown, screen, rfl, rendered, rfl⟩

theorem turn_survives (foundation : Foundation JSON) (controller : ViewController) (event : Event)
    (turning : event.turning = true) : ∃ next, step foundation controller event = some next := by
  cases event with
  | turn =>
      obtain ⟨requests, turned⟩ := Session.turn_survives controller.requests
      rw [step, performUpdate, turned, Option.bind_some]
      cases requests.shown with
      | none => exact ⟨_, rfl⟩
      | some shown =>
          obtain ⟨screen, rendered⟩ := show_page_some foundation shown.2.1 shown.2.2
          exact ⟨_, Option.map_eq_some_iff.mpr ⟨screen, rendered, rfl⟩⟩
  | picked info => cases turning
  | response request value => cases turning
  | goPressed => cases turning

theorem go_pressed_only_opens (foundation : Foundation JSON) (controller : ViewController) :
    ∃ opened, goPressed foundation controller = { controller with opened } := by
  rw [goPressed]
  cases foundation.url controller.openURL with
  | none => exact ⟨controller.opened, rfl⟩
  | some url => exact ⟨controller.opened ++ [url], rfl⟩

theorem step_moves (foundation : Foundation JSON) (controller : ViewController) (event : Event) (next : ViewController)
    (moved : step foundation controller event = some next) :
    controller.requests.Moves event.turning (brought foundation controller event) next.requests := by
  cases event with
  | picked info =>
      rcases picking_cases controller next info moved with rfl | ⟨picked, identifier, rest, _, _, rfl⟩
      · exact .stays
      · exact .issues
  | response request value =>
      cases moved
      by_cases outstanding : controller.requests.Outstanding request
      · rw [responded, if_pos outstanding, brought, if_pos outstanding]
        have answers := Session.Moves.answers request
          (controller.asked[request]?.map fun asked => (asked.1, page foundation value)) outstanding
        rwa [Option.map_map] at answers
      · rw [responded, if_neg outstanding, brought, if_neg outstanding]
        exact .stays
  | turn =>
      obtain ⟨requests, turned, ⟨_, rfl⟩ | ⟨_, _, _, _, rfl⟩⟩ := updating_cases foundation controller next moved
      · exact .turns requests turned
      · exact .turns requests turned
  | goPressed =>
      cases moved
      obtain ⟨opened, same⟩ := go_pressed_only_opens foundation controller
      rw [same]
      exact .stays

def client (foundation : Foundation JSON) : Client ViewController Event (Photo × Page) where
  step := step foundation
  launched := launched
  requests := ViewController.requests
  turning := Event.turning
  brought := brought foundation
  initial := rfl
  moves := step_moves foundation

end Pets.WhatFlower
