import Pets.Clima.LatestWins

set_option autoImplicit false

namespace Pets.Clima

open Pets.Transition

variable (foundation : Foundation)

-- The event resumes a data task for the URL: of the text that was typed into the search
-- field, or of the last location reported.
inductive Asks (history : List Event) (controller : WeatherViewController) : Event → String → Prop where
  | search (text url : String) (typed : .edit (some text) ∈ history) (held : controller.searchText = some text)
      (filled : text ≠ "") (sent : fetchWeather foundation (query text) = some url) :
      Asks history controller .endEditing url
  | located (locations : List (ℚ × ℚ)) (lat lon : ℚ) (url : String) (last : locations.getLast? = some (lat, lon))
      (sent : fetchWeatherAt foundation lat lon = some url) : Asks history controller (.locations locations) url

def Asked (history : List Event) (request : ℕ) : Prop :=
  ∃ before asking after controller url, history = before ++ asking :: after ∧
    run (step foundation) launched before = some controller ∧ controller.requests.issued = request ∧
    Asks foundation before controller asking url

def Answered (history : List Event) (request : ℕ) (weather : WeatherModel) : Prop :=
  ∃ before data after, history = before ++ .complete request (.loaded data) :: after ∧
    Asked foundation before request ∧ parseJSON foundation data = some (some weather, [])

theorem asked_later (history more : List Event) (request : ℕ) (asked : Asked foundation history request) :
    Asked foundation (history ++ more) request := by
  obtain ⟨before, asking, after, controller, url, rfl, made⟩ := asked
  exact ⟨before, asking, after ++ more, controller, url, by simp, made⟩

theorem answered_later (history more : List Event) (request : ℕ) (weather : WeatherModel)
    (answered : Answered foundation history request weather) :
    Answered foundation (history ++ more) request weather := by
  obtain ⟨before, data, after, rfl, brought⟩ := answered
  exact ⟨before, data, after ++ more, by simp, brought⟩

theorem completed_parsed (outcome : Outcome) (calls : List DelegateCall) (weather : WeatherModel)
    (handled : outcome.completed foundation = some calls)
    (updates : calls.findSome? DelegateCall.weather? = some weather) :
    ∃ data, outcome = .loaded data ∧ parseJSON foundation data = some (some weather, []) := by
  cases outcome with
  | failed error =>
      cases handled
      cases updates
  | loaded data =>
      obtain ⟨parsed, read, given⟩ := Option.map_eq_some_iff.mp handled
      refine ⟨data, rfl, ?_⟩
      rw [parseJSON] at read ⊢
      cases decoded : foundation.decode data with
      | error error =>
          rw [decoded] at read
          cases read
          cases given
          cases updates
      | ok decodedData =>
          rw [decoded] at read
          obtain ⟨first, found, rfl⟩ := Option.map_eq_some_iff.mp read
          cases given
          cases updates
          exact Option.map_eq_some_iff.mpr ⟨first, found, rfl⟩

inductive Effect (history : List Event) (controller : WeatherViewController) (event : Event)
    (requests : Session WeatherModel) : Prop where
  | asks (url : String) (asked : Asks foundation history controller event url)
      (issued : requests = controller.requests.issue)
  | answers (request : ℕ) (outcome : Outcome) (calls : List DelegateCall)
      (arrived : event = .complete request outcome) (outstanding : controller.requests.Outstanding request)
      (handled : outcome.completed foundation = some calls)
      (answered : requests = controller.requests.answer request (calls.findSome? DelegateCall.weather?))
  | turns (turned : controller.requests.turn = some requests)
  | stays (same : requests = controller.requests)

def Typed (history : List Event) (controller : WeatherViewController) : Prop :=
  ∀ text, controller.searchText = some text → text ≠ "" → .edit (some text) ∈ history

theorem end_editing_effect (history : List Event) (controller : WeatherViewController)
    (typed : Typed history controller) :
    Effect foundation history controller .endEditing (endEditing foundation controller).requests := by
  by_cases ends : textFieldShouldEndEditing controller
  · rw [endEditing, if_pos ends, textFieldDidEndEditing]
    cases held : controller.searchText with
    | none => exact .stays rfl
    | some text =>
        have filled : text ≠ "" := by simpa [textFieldShouldEndEditing, held] using ends
        cases sent : fetchWeather foundation (query text) with
        | none => exact .stays (by simp only [sent, resume])
        | some url =>
            have asked : Asks foundation history controller .endEditing url :=
              .search text url (typed text held filled) held filled sent
            exact .asks url asked (by simp only [sent, resume])
  · rw [endEditing, if_neg ends]
    exact .stays rfl

theorem locations_effect (history : List Event) (controller : WeatherViewController) (locations : List (ℚ × ℚ)) :
    Effect foundation history controller (.locations locations)
      (didUpdateLocations foundation controller locations).requests := by
  rw [didUpdateLocations]
  cases last : locations.getLast? with
  | none => exact .stays rfl
  | some location =>
      cases sent : fetchWeatherAt foundation location.1 location.2 with
      | none => exact .stays (by simp only [sent, resume])
      | some url =>
          have asked : Asks foundation history controller (.locations locations) url :=
            .located locations location.1 location.2 url last sent
          exact .asks url asked (by simp only [sent, resume])

theorem step_effect (history : List Event) (controller next : WeatherViewController) (event : Event)
    (typed : Typed history controller) (moved : step foundation controller event = some next) :
    Effect foundation history controller event next.requests := by
  cases event with
  | edit text =>
      cases moved
      exact .stays rfl
  | endEditing =>
      cases moved
      exact end_editing_effect foundation history controller typed
  | locations locations =>
      cases moved
      exact locations_effect foundation history controller locations
  | complete request outcome =>
      rw [step, completed] at moved
      by_cases outstanding : controller.requests.Outstanding request
      · rw [if_pos outstanding] at moved
        obtain ⟨calls, handled, rfl⟩ := Option.map_eq_some_iff.mp moved
        exact .answers request outcome calls rfl outstanding handled rfl
      · rw [if_neg outstanding] at moved
        cases moved
        exact .stays rfl
  | turn =>
      obtain ⟨requests, turned, rfl⟩ := Option.map_eq_some_iff.mp moved
      exact .turns turned

theorem resume_search (controller : WeatherViewController) (task : Option String) :
    (resume controller task).searchText = controller.searchText := by
  cases task <;> rfl

theorem step_typed (history : List Event) (controller next : WeatherViewController) (event : Event)
    (typed : Typed history controller) (moved : step foundation controller event = some next) :
    Typed (history ++ [event]) next := by
  have kept (same : next.searchText = controller.searchText) : Typed (history ++ [event]) next := by
    intro text held filled
    exact List.mem_append_left _ (typed text (same ▸ held) filled)
  cases event with
  | edit written =>
      cases moved
      intro text held _
      cases held
      exact List.mem_append_right _ (List.mem_singleton_self _)
  | endEditing =>
      cases moved
      by_cases ends : textFieldShouldEndEditing controller
      · intro text held filled
        rw [endEditing, if_pos ends] at held
        cases held
        exact absurd rfl filled
      · exact kept (by rw [endEditing, if_neg ends])
  | locations locations =>
      cases moved
      apply kept
      rw [didUpdateLocations]
      cases locations.getLast? with
      | none => rfl
      | some location => exact resume_search controller _
  | complete request outcome =>
      rw [step, completed] at moved
      by_cases outstanding : controller.requests.Outstanding request
      · rw [if_pos outstanding] at moved
        obtain ⟨calls, _, rfl⟩ := Option.map_eq_some_iff.mp moved
        exact kept rfl
      · rw [if_neg outstanding] at moved
        cases moved
        exact kept rfl
  | turn =>
      obtain ⟨requests, _, rfl⟩ := Option.map_eq_some_iff.mp moved
      exact kept rfl

structure Kept (history : List Event) (controller : WeatherViewController) : Prop where
  reached : run (step foundation) launched history = some controller
  typed : Typed history controller
  sound : controller.requests.Sound
  asked : ∀ request < controller.requests.issued, Asked foundation history request
  answered : controller.requests.Traced (Answered foundation history)

theorem launched_kept : Kept foundation [] launched := by
  refine ⟨rfl, ?_, Session.start_sound, ?_, Session.start_traced _⟩
  · intro text held filled
    cases held
    exact absurd rfl filled
  · intro request impossible
    exact absurd impossible (Nat.not_lt_zero _)

theorem step_kept (history : List Event) (controller : WeatherViewController) (event : Event)
    (next : WeatherViewController) (kept : Kept foundation history controller)
    (moved : step foundation controller event = some next) : Kept foundation (history ++ [event]) next := by
  have reached : run (step foundation) launched (history ++ [event]) = some next := by
    rw [run_snoc, kept.reached]
    exact moved
  have sound := Session.moves_sound _ _ _ _ kept.sound (step_moves foundation controller event next moved)
  have before : ∀ request < controller.requests.issued, Asked foundation (history ++ [event]) request :=
    fun request made => asked_later foundation history [event] request (kept.asked request made)
  have earlier : controller.requests.Traced (Answered foundation (history ++ [event])) :=
    Session.traced_mono _ _ (answered_later foundation history [event]) _ kept.answered
  have typed := step_typed foundation history controller next event kept.typed moved
  cases step_effect foundation history controller next event kept.typed moved with
  | asks url asked issued =>
      refine ⟨reached, typed, sound, ?_, by rw [issued]; exact earlier⟩
      intro request made
      rw [issued] at made
      rcases Nat.lt_succ_iff_lt_or_eq.mp made with old | rfl
      · exact before request old
      · exact ⟨history, event, [], controller, url, rfl, kept.reached, rfl, asked⟩
  | answers request outcome calls arrived outstanding handled answered =>
      refine ⟨reached, typed, sound, by rw [answered, Session.answer_issued]; exact before, ?_⟩
      rw [answered]
      refine Session.answer_traced _ _ request _ ?_ earlier
      intro weather updates
      obtain ⟨data, rfl, parsed⟩ := completed_parsed foundation outcome calls weather handled updates
      exact ⟨history, data, [], by rw [arrived], kept.asked request outstanding.1, parsed⟩
  | turns turned =>
      exact ⟨reached, typed, sound, by rw [Session.turn_issued _ _ turned]; exact before,
        Session.turn_traced _ _ _ earlier turned⟩
  | stays same => exact ⟨reached, typed, sound, by rw [same]; exact before, by rw [same]; exact earlier⟩

-- In every run all seven labels are of one response, and the request that it answers was
-- made for a text that was typed or for a location that was reported.
theorem screen_of_one_response (events : List Event) (controller : WeatherViewController)
    (ran : run (step foundation) launched events = some controller) :
    controller.screen = none ∨ ∃ request weather, Answered foundation events request weather ∧
      controller.screen = some (showWeather foundation weather) := by
  have kept := run_invariant (step foundation) launched (Kept foundation) (launched_kept foundation)
    (step_kept foundation) events controller ran
  have rendered := reached_rendered foundation events controller ran
  rw [Rendered] at rendered
  cases isShown : controller.requests.shown with
  | none =>
      rw [isShown] at rendered
      exact Or.inl rendered
  | some shown =>
      rw [isShown] at rendered
      exact Or.inr ⟨shown.1, shown.2, Session.traced_shown _ _ kept.sound kept.answered shown isShown, rendered⟩

-- The answer for London, asked for first, is the one that stays.
theorem london_of_one_response :
    ∃ request weather, Answered twoCities (overtaken ++ [.turn]) request weather ∧
      weather.cityName = "London, GB" := by
  have ran : (run (step twoCities) launched (overtaken ++ [.turn])).map
      (fun controller => controller.screen.map Screen.cityLabel) = some (some "London, GB") := by
    rw [run_snoc, overtaken_run]
    rfl
  obtain ⟨controller, reached, label⟩ := Option.map_eq_some_iff.mp ran
  rcases screen_of_one_response twoCities _ controller reached with blank | ⟨request, weather, answered, shown⟩
  · rw [blank] at label
    cases label
  · rw [shown] at label
    exact ⟨request, weather, answered, Option.some.inj label⟩

end Pets.Clima
