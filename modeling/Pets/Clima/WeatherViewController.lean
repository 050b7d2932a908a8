import Pets.Clima.WeatherManager
import Pets.Library.Client

set_option autoImplicit false

namespace Pets.Clima

open Pets.Transition

structure Screen where
  tempLabel : String
  cityLabel : String
  conditionImageView : String
  descriptionLabel : String
  feelslikeLabel : String
  sunriseLabel : String
  sunsetLabel : String
deriving DecidableEq

def showWeather (foundation : Foundation) (weather : WeatherModel) : Screen where
  tempLabel := weather.temperatureString foundation
  cityLabel := weather.cityName
  conditionImageView := weather.conditionName
  descriptionLabel := weather.description
  feelslikeLabel := "Feels like: " ++ weather.feelslikeString foundation
  sunriseLabel := "Sunrise: " ++ foundation.date weather.sunrise
  sunsetLabel := "Sunset: " ++ foundation.date weather.sunset

-- requests numbers the data tasks from zero as they are resumed. screen is none
-- while the labels still read as in the storyboard.
structure WeatherViewController where
  searchText : Option String
  placeholder : Option String
  requests : Session WeatherModel
  screen : Option Screen
deriving DecidableEq

def launched : WeatherViewController := ⟨some "", none, Session.start, none⟩

def query (text : String) : String :=
  String.ofList (['+'].intercalate (text.toList.splitOn ' '))

def resume (controller : WeatherViewController) (task : Option String) : WeatherViewController :=
  match task with
  | some _ => { controller with requests := controller.requests.issue }
  | none => controller

def textFieldShouldEndEditing (controller : WeatherViewController) : Bool := controller.searchText ≠ some ""

def textFieldDidEndEditing (foundation : Foundation) (controller : WeatherViewController) : WeatherViewController :=
  let requested := match controller.searchText with
    | some text => resume controller (fetchWeather foundation (query text))
    | none => controller
  { requested with searchText := some "" }

def endEditing (foundation : Foundation) (controller : WeatherViewController) : WeatherViewController :=
  if textFieldShouldEndEditing controller then textFieldDidEndEditing foundation controller
  else { controller with placeholder := some "Enter a city name" }

def didUpdateLocations (foundation : Foundation) (controller : WeatherViewController) (locations : List (ℚ × ℚ)) :
    WeatherViewController :=
  match locations.getLast? with
  | some (lat, lon) => resume controller (fetchWeatherAt foundation lat lon)
  | none => controller

def DelegateCall.weather? : DelegateCall → Option WeatherModel
  | .didUpdateWeather weather => some weather
  | .didFailWithError _ => none

inductive Event where
  | edit (text : Option String)
  | endEditing
  | locations (locations : List (ℚ × ℚ))
  | complete (request : ℕ) (outcome : Outcome)
  | turn
deriving DecidableEq

-- A task completes once; a completion of any other request is no event at all.
def completed (foundation : Foundation) (controller : WeatherViewController) (request : ℕ) (outcome : Outcome) :
    Option WeatherViewController :=
  if controller.requests.Outstanding request then
    (outcome.completed foundation).map fun calls =>
      { controller with requests := controller.requests.answer request (calls.findSome? DelegateCall.weather?) }
  else some controller

def performUpdate (foundation : Foundation) (controller : WeatherViewController) : Option WeatherViewController :=
  controller.requests.turn.map fun requests =>
    { controller with
      requests
      screen := requests.shown.map fun shown => showWeather foundation shown.2 }

def step (foundation : Foundation) (controller : WeatherViewController) : Event → Option WeatherViewController
  | .edit text => some { controller with searchText := text }
  | .endEditing => some (endEditing foundation controller)
  | .locations locations => some (didUpdateLocations foundation controller locations)
  | .complete request outcome => completed foundation controller request outcome
  | .turn => performUpdate foundation controller

def Event.turning : Event → Bool
  | .turn => true
  | _ => false

def Outcome.weather? (foundation : Foundation) : Outcome → Option WeatherModel
  | .failed _ => none
  | .loaded data => (parseJSON foundation data).bind Prod.fst

def brought (foundation : Foundation) (controller : WeatherViewController) : Event → Option (ℕ × WeatherModel)
  | .complete request outcome =>
      if controller.requests.Outstanding request then
        (outcome.weather? foundation).map fun weather => (request, weather)
      else none
  | _ => none

theorem completed_updates (foundation : Foundation) (outcome : Outcome) (calls : List DelegateCall)
    (handled : outcome.completed foundation = some calls) :
    calls.findSome? DelegateCall.weather? = outcome.weather? foundation := by
  cases outcome with
  | failed error =>
      cases handled
      rfl
  | loaded data =>
      obtain ⟨parsed, read, rfl⟩ := Option.map_eq_some_iff.mp handled
      rw [Outcome.weather?, read, Option.bind_some]
      rw [parseJSON] at read
      cases decoded : foundation.decode data with
      | error error =>
          rw [decoded] at read
          cases read
          rfl
      | ok decodedData =>
          rw [decoded] at read
          obtain ⟨first, _, rfl⟩ := Option.map_eq_some_iff.mp read
          rfl

def Quiet (controller next : WeatherViewController) (brought : Option (ℕ × WeatherModel)) : Prop :=
  next.screen = controller.screen ∧ controller.requests.Moves false brought next.requests

theorem resume_quiet (controller : WeatherViewController) (task : Option String) :
    Quiet controller (resume controller task) none := by
  cases task with
  | none => exact ⟨rfl, .stays⟩
  | some url => exact ⟨rfl, .issues⟩

theorem end_editing_quiet (foundation : Foundation) (controller : WeatherViewController) :
    Quiet controller (endEditing foundation controller) none := by
  by_cases ends : textFieldShouldEndEditing controller
  · rw [endEditing, if_pos ends, textFieldDidEndEditing]
    cases controller.searchText with
    | none => exact ⟨rfl, .stays⟩
    | some text => exact resume_quiet controller _
  · rw [endEditing, if_neg ends]
    exact ⟨rfl, .stays⟩

theorem locations_quiet (foundation : Foundation) (controller : WeatherViewController) (locations : List (ℚ × ℚ)) :
    Quiet controller (didUpdateLocations foundation controller locations) none := by
  rw [didUpdateLocations]
  cases locations.getLast? with
  | none => exact ⟨rfl, .stays⟩
  | some location => exact resume_quiet controller _

theorem completed_quiet (foundation : Foundation) (controller next : WeatherViewController) (request : ℕ)
    (outcome : Outcome) (moved : completed foundation controller request outcome = some next) :
    Quiet controller next (brought foundation controller (.complete request outcome)) := by
  rw [completed] at moved
  rw [brought]
  by_cases outstanding : controller.requests.Outstanding request
  · rw [if_pos outstanding] at moved ⊢
    obtain ⟨calls, handled, rfl⟩ := Option.map_eq_some_iff.mp moved
    rw [← completed_updates foundation outcome calls handled]
    exact ⟨rfl, .answers request _ outstanding⟩
  · rw [if_neg outstanding] at moved ⊢
    cases moved
    exact ⟨rfl, .stays⟩

theorem step_cases (foundation : Foundation) (controller : WeatherViewController) (event : Event)
    (next : WeatherViewController) (moved : step foundation controller event = some next) :
    (event.turning = false ∧ Quiet controller next (brought foundation controller event)) ∨
      (event = .turn ∧ performUpdate foundation controller = some next) := by
  cases event with
  | edit text =>
      cases moved
      exact Or.inl ⟨rfl, rfl, .stays⟩
  | endEditing =>
      cases moved
      exact Or.inl ⟨rfl, end_editing_quiet foundation controller⟩
  | locations locations =>
      cases moved
      exact Or.inl ⟨rfl, locations_quiet foundation controller locations⟩
  | complete request outcome => exact Or.inl ⟨rfl, completed_quiet foundation controller next request outcome moved⟩
  | turn => exact Or.inr ⟨rfl, moved⟩

theorem step_moves (foundation : Foundation) (controller : WeatherViewController) (event : Event)
    (next : WeatherViewController) (moved : step foundation controller event = some next) :
    controller.requests.Moves event.turning (brought foundation controller event) next.requests := by
  rcases step_cases foundation controller event next moved with ⟨still, _, moves⟩ | ⟨rfl, updated⟩
  · rw [still]
    exact moves
  · obtain ⟨requests, turned, rfl⟩ := Option.map_eq_some_iff.mp updated
    exact .turns requests turned

def client (foundation : Foundation) : Client WeatherViewController Event WeatherModel where
  step := step foundation
  launched := launched
  requests := WeatherViewController.requests
  turning := Event.turning
  brought := brought foundation
  initial := rfl
  moves := step_moves foundation

def Rendered (foundation : Foundation) (controller : WeatherViewController) : Prop :=
  controller.screen = controller.requests.shown.map fun shown => showWeather foundation shown.2

theorem step_rendered (foundation : Foundation) (controller : WeatherViewController) (event : Event)
    (next : WeatherViewController) (inv : Rendered foundation controller)
    (moved : step foundation controller event = some next) : Rendered foundation next := by
  rcases step_cases foundation controller event next moved with ⟨_, sameScreen, moves⟩ | ⟨_, updated⟩
  · rw [Rendered, sameScreen, Session.quiet_shown _ _ _ moves]
    exact inv
  · obtain ⟨requests, _, rfl⟩ := Option.map_eq_some_iff.mp updated
    rfl

theorem reached_rendered (foundation : Foundation) (events : List Event) (controller : WeatherViewController)
    (reached : run (step foundation) launched events = some controller) : Rendered foundation controller :=
  run_invariant (step foundation) launched (fun _ => Rendered foundation) rfl
    (fun _ state event next => step_rendered foundation state event next) events controller reached

end Pets.Clima
