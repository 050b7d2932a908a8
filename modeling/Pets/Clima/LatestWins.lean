import Pets.Clima.WeatherViewController

set_option autoImplicit false

namespace Pets.Clima

open Pets.Transition

theorem latest_wins_iff (foundation : Foundation) (events : List Event) :
    (Always (step foundation) launched ((client foundation).ShowsLatest WeatherViewController.screen none
          fun weather => some (showWeather foundation weather)) events ∧
        Along (step foundation) launched (client foundation).NeverReplacedByOlder events) ↔
      Always (step foundation) launched (client foundation).DeliversInOrder events := by
  refine (client foundation).shows_latest_iff WeatherViewController.screen none
    (fun weather => some (showWeather foundation weather)) ?_ events
  intro history controller reached
  have rendered := reached_rendered foundation history controller reached
  rw [Rendered] at rendered
  rw [rendered]
  change _ = (controller.requests.shown.map _).getD none
  cases controller.requests.shown <;> rfl

theorem completed_loaded (foundation : Foundation) (controller : WeatherViewController) (request : ℕ) (data : Data)
    (weather : WeatherModel) (outstanding : controller.requests.Outstanding request)
    (parsed : parseJSON foundation data = some (some weather, [])) :
    step foundation controller (.complete request (.loaded data)) =
      some { controller with requests := controller.requests.answer request (some weather) } := by
  have handled : (Outcome.loaded data).completed foundation = some [.didUpdateWeather weather] := by
    rw [Outcome.completed, taskCompleted, parsed]
    rfl
  rw [step, completed, if_pos outstanding, handled]
  rfl

def cityData (country name : String) (id : ℤ) : WeatherData :=
  ⟨⟨0, 51⟩, [⟨800, "Clear", "clear sky", "01d"⟩], "stations", ⟨20, 19, 18, 22, 1013, 60⟩, 10000, ⟨3, 180⟩, ⟨0⟩,
    1700000000, ⟨1, 1414, country, 1699980000, 1700020000⟩, 0, id, name, 200⟩

def cityBody (place : String) : Data :=
  (("\x7b\"coord\":\x7b\"lon\":0,\"lat\":51\x7d,\"weather\":[\x7b\"id\":800,\"main\":\"Clear\"," ++
    "\"description\":\"clear sky\",\"icon\":\"01d\"\x7d],\"base\":\"stations\"," ++
    "\"main\":\x7b\"temp\":20,\"feels_like\":19,\"temp_min\":18,\"temp_max\":22,\"pressure\":1013," ++
    "\"humidity\":60\x7d,\"visibility\":10000,\"wind\":\x7b\"speed\":3,\"deg\":180\x7d," ++
    "\"clouds\":\x7b\"all\":0\x7d,\"dt\":1700000000,\"timezone\":0,\"sys\":\x7b\"type\":1,\"id\":1414," ++
    "\"sunrise\":1699980000,\"sunset\":1700020000,") ++ place ++ ",\"cod\":200\x7d").toUTF8.data.toList

def londonBody : Data := cityBody "\"country\":\"GB\"\x7d,\"id\":2643743,\"name\":\"London\""

def parisianBody : Data := cityBody "\"country\":\"FR\"\x7d,\"id\":2988507,\"name\":\"Paris\""

def readCity (data : Data) : Except String WeatherData :=
  if data = londonBody then .ok (cityData "GB" "London" 2643743)
  else if data = parisianBody then .ok (cityData "FR" "Paris" 2988507) else .error "dataCorrupted"

theorem read_london : readCity londonBody = .ok (cityData "GB" "London" 2643743) := if_pos rfl

theorem read_paris : readCity parisianBody = .ok (cityData "FR" "Paris" 2988507) := by
  have differ : parisianBody ≠ londonBody := fun same => absurd (Lists.utf8_between_inj _ _ _ _ same) (by decide)
  rw [readCity, if_neg differ, if_pos rfl]

def twoCities : Foundation where
  url := some
  decode := readCity
  describe := toString
  format := fun _ value => toString value
  date := toString

theorem two_cities_decode : twoCities.decode = readCity := rfl

def cityWeather (country name : String) : WeatherModel :=
  ⟨800, name, country, 20, "clear sky", 19, 1699980000, 1700020000⟩

theorem city_parsed (foundation : Foundation) (data : Data) (country name : String) (id : ℤ)
    (decoded : foundation.decode data = .ok (cityData country name id)) :
    parseJSON foundation data = some (some (cityWeather country name), []) := by
  rw [parseJSON, decoded]
  rfl

-- London is asked for, then Paris; the answer for Paris comes first.
def searching : List Event := [.edit (some "London"), .endEditing, .edit (some "Paris"), .endEditing]

def overtaken : List Event :=
  searching ++ [.complete 1 (.loaded parisianBody), .complete 0 (.loaded londonBody), .turn]

def bothAsked : WeatherViewController := ⟨some "", none, ⟨2, [], Session.start.queue⟩, none⟩

theorem searching_run : run (step twoCities) launched searching = some bothAsked := by decide +kernel

def parisShown : WeatherViewController where
  searchText := some ""
  placeholder := none
  requests := ⟨2, [1, 0], ⟨some (1, cityWeather "FR" "Paris"), [(0, cityWeather "GB" "London")],
    [(1, cityWeather "FR" "Paris")]⟩⟩
  screen := some (showWeather twoCities (cityWeather "FR" "Paris"))

theorem overtaken_run : run (step twoCities) launched overtaken = some parisShown := by
  have paris := city_parsed twoCities parisianBody "FR" "Paris" 2988507 (by rw [two_cities_decode, read_paris])
  have london := city_parsed twoCities londonBody "GB" "London" 2643743 (by rw [two_cities_decode, read_london])
  let parisAnswered := bothAsked.requests.answer 1 (some (cityWeather "FR" "Paris"))
  have first := completed_loaded twoCities bothAsked 1 parisianBody _ (by decide) paris
  have second := completed_loaded twoCities { bothAsked with requests := parisAnswered } 0 londonBody _ (by decide) london
  rw [overtaken, run_append, searching_run, Option.bind_some, run, first, Option.bind_some, run, second]
  rfl

theorem london_replaces_paris :
    ¬ (Always (step twoCities) launched ((client twoCities).ShowsLatest WeatherViewController.screen none
          fun weather => some (showWeather twoCities weather)) (overtaken ++ [.turn]) ∧
        Along (step twoCities) launched (client twoCities).NeverReplacedByOlder (overtaken ++ [.turn])) := by
  intro ⟨_, newer⟩
  have before : (run (step twoCities) launched overtaken).map (fun state => state.requests.shown.map Prod.fst) =
      some (some 1) := by
    rw [overtaken_run]
    rfl
  have after : (run (step twoCities) launched (overtaken ++ [.turn])).map
      (fun state => state.requests.shown.map Prod.fst) = some (some 0) := by
    rw [run_snoc, overtaken_run]
    rfl
  exact (client twoCities).overwritten overtaken .turn 1 0 before after (by decide) newer

end Pets.Clima
