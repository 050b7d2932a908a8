import Mathlib.Data.Rat.Defs

set_option autoImplicit false

namespace Pets.Clima

structure Coordinates where
  lon : ℚ
  lat : ℚ

structure Weather where
  id : ℤ
  main : String
  description : String
  icon : String

structure Main where
  temp : ℚ
  feels_like : ℚ
  temp_min : ℚ
  temp_max : ℚ
  pressure : ℤ
  humidity : ℤ

structure Wind where
  speed : ℚ
  deg : ℤ

structure Clouds where
  all : ℤ

structure Sys where
  type : ℤ
  id : ℤ
  country : String
  sunrise : ℤ
  sunset : ℤ

structure WeatherData where
  coord : Coordinates
  weather : List Weather
  base : String
  main : Main
  visibility : ℤ
  wind : Wind
  clouds : Clouds
  dt : ℤ
  sys : Sys
  timezone : ℤ
  id : ℤ
  name : String
  cod : ℤ

structure WeatherModel where
  conditionId : ℤ
  city : String
  country : String
  temperature : ℚ
  description : String
  feelslike : ℚ
  sunrise : ℤ
  sunset : ℤ
deriving DecidableEq

abbrev Data := List UInt8

-- What the app takes from Foundation: URL(string:) with the text of the URL,
-- JSONDecoder, the text of a coordinate, String(format:) and DateFormatter.
structure Foundation where
  url : String → Option String
  decode : Data → Except String WeatherData
  describe : ℚ → String
  format : String → ℚ → String
  date : ℤ → String

def WeatherModel.conditionName (weather : WeatherModel) : String :=
  let id := weather.conditionId
  if 200 ≤ id ∧ id ≤ 232 then "cloud.bolt.fill"
  else if 300 ≤ id ∧ id ≤ 321 then "cloud.drizzle.fill"
  else if 500 ≤ id ∧ id ≤ 531 then "cloud.rain.fill"
  else if 600 ≤ id ∧ id ≤ 622 then "cloud.snow.fill"
  else if 701 ≤ id ∧ id ≤ 781 then "cloud.fog.fill"
  else if id = 800 then "sun.max.fill"
  else if 801 ≤ id ∧ id ≤ 804 then "cloud.fill"
  else "cloud.fill"

def WeatherModel.cityName (weather : WeatherModel) : String := weather.city ++ ", " ++ weather.country

def WeatherModel.temperatureString (foundation : Foundation) (weather : WeatherModel) : String :=
  foundation.format "%.1f°C" weather.temperature

def WeatherModel.feelslikeString (foundation : Foundation) (weather : WeatherModel) : String :=
  foundation.format "%.1f°C" weather.feelslike

def weatherURL : String :=
  "https://api.openweathermap.org/data/2.5/weather?appid=5223df3c7e7a213598539c7211df9927&units=metric"

-- The URL of the task that is resumed, none when no task is made.
def performRequest (foundation : Foundation) (urlString : String) : Option String := foundation.url urlString

def fetchWeather (foundation : Foundation) (cityName : String) : Option String :=
  performRequest foundation (weatherURL ++ "&q=" ++ cityName)

def fetchWeatherAt (foundation : Foundation) (lat lon : ℚ) : Option String :=
  performRequest foundation (weatherURL ++ "&lat=" ++ foundation.describe lat ++ "&lon=" ++ foundation.describe lon)

inductive DelegateCall where
  | didUpdateWeather (weather : WeatherModel)
  | didFailWithError (error : String)
deriving DecidableEq

-- The model it returns and the delegate calls it makes; none is the trap of
-- an index past the end of the decoded weather array.
def parseJSON (foundation : Foundation) (weatherData : Data) : Option (Option WeatherModel × List DelegateCall) :=
  match foundation.decode weatherData with
  | .ok decodedData =>
      decodedData.weather[0]?.map fun first =>
        (some {
          conditionId := first.id
          city := decodedData.name
          country := decodedData.sys.country
          temperature := decodedData.main.temp
          description := first.description
          feelslike := decodedData.main.feels_like
          sunrise := decodedData.sys.sunrise
          sunset := decodedData.sys.sunset }, [])
  | .error error => some (none, [.didFailWithError error])

def taskCompleted (foundation : Foundation) (data : Option Data) (error : Option String) :
    Option (List DelegateCall) :=
  match error with
  | some error => some [.didFailWithError error]
  | none =>
      match data with
      | none => some []
      | some safeData =>
          (parseJSON foundation safeData).map fun parsed =>
            match parsed.1 with
            | some weather => parsed.2 ++ [.didUpdateWeather weather]
            | none => parsed.2

-- How a data task ends: it calls its handler with an error or with data.
inductive Outcome where
  | failed (error : String)
  | loaded (data : Data)
deriving DecidableEq

def Outcome.completed (foundation : Foundation) : Outcome → Option (List DelegateCall)
  | .failed error => taskCompleted foundation none (some error)
  | .loaded data => taskCompleted foundation (some data) none

def fetched (foundation : Foundation) (cityName : String) (outcome : Outcome) : Option (List DelegateCall) :=
  match fetchWeather foundation cityName with
  | some _ => outcome.completed foundation
  | none => some []

theorem loaded_decoded (foundation : Foundation) (data : Data) (decodedData : WeatherData)
    (decoded : foundation.decode data = .ok decodedData) :
    (decodedData.weather = [] ∧ (Outcome.loaded data).completed foundation = none) ∨
      ∃ first rest weather, decodedData.weather = first :: rest ∧
        (Outcome.loaded data).completed foundation = some [.didUpdateWeather weather] := by
  cases array : decodedData.weather with
  | nil => exact Or.inl ⟨rfl, by simp [Outcome.completed, taskCompleted, parseJSON, decoded, array]⟩
  | cons first rest =>
      exact Or.inr ⟨first, rest, _, rfl, by simp [Outcome.completed, taskCompleted, parseJSON, decoded, array]; rfl⟩

theorem loaded_undecoded (foundation : Foundation) (data : Data) (error : String)
    (undecoded : foundation.decode data = .error error) :
    (Outcome.loaded data).completed foundation = some [.didFailWithError error] := by
  simp [Outcome.completed, taskCompleted, parseJSON, undecoded]

theorem completed_once_iff (foundation : Foundation) (outcome : Outcome) :
    (∃ call, outcome.completed foundation = some [call]) ↔
      ∀ data decodedData, outcome = .loaded data → foundation.decode data = .ok decodedData →
        decodedData.weather ≠ [] := by
  cases outcome with
  | failed error =>
      refine ⟨?_, fun _ => ⟨.didFailWithError error, rfl⟩⟩
      intro _ data decodedData impossible
      cases impossible
  | loaded data =>
      cases decoded : foundation.decode data with
      | error error =>
          have answered := loaded_undecoded foundation data error decoded
          refine ⟨?_, fun _ => ⟨_, answered⟩⟩
          intro _ _ decodedData same decodes
          cases same
          cases decoded.symm.trans decodes
      | ok decodedData =>
          rcases loaded_decoded foundation data decodedData decoded with
            ⟨empty, trapped⟩ | ⟨first, rest, weather, array, answered⟩
          · constructor
            · intro ⟨call, survived⟩
              cases trapped.symm.trans survived
            · intro nonempty
              exact absurd empty (nonempty data decodedData rfl decoded)
          · refine ⟨?_, fun _ => ⟨_, answered⟩⟩
            intro _ _ other same decodes
            cases same
            cases decoded.symm.trans decodes
            rw [array]
            exact List.cons_ne_nil first rest

theorem fetch_answered_once_iff (foundation : Foundation) (cityName : String) (outcome : Outcome) :
    (∃ call, fetched foundation cityName outcome = some [call]) ↔
      (foundation.url (weatherURL ++ "&q=" ++ cityName)).isSome ∧
        ∀ data decodedData, outcome = .loaded data → foundation.decode data = .ok decodedData →
          decodedData.weather ≠ [] := by
  rw [← completed_once_iff foundation outcome]
  cases accepted : foundation.url (weatherURL ++ "&q=" ++ cityName) with
  | none => simp [fetched, fetchWeather, performRequest, accepted]
  | some url => simp [fetched, fetchWeather, performRequest, accepted]

def emptyForecast : WeatherData :=
  ⟨⟨2, 48⟩, [], "stations", ⟨20, 19, 18, 22, 1013, 60⟩, 10000, ⟨3, 180⟩, ⟨0⟩, 1700000000,
    ⟨1, 6550, "FR", 1699980000, 1700020000⟩, 3600, 2988507, "Paris", 200⟩

def emptyForecastBody : Data :=
  ("\x7b\"coord\":\x7b\"lon\":2,\"lat\":48\x7d,\"weather\":[],\"base\":\"stations\"," ++
    "\"main\":\x7b\"temp\":20,\"feels_like\":19,\"temp_min\":18,\"temp_max\":22,\"pressure\":1013," ++
    "\"humidity\":60\x7d,\"visibility\":10000,\"wind\":\x7b\"speed\":3,\"deg\":180\x7d," ++
    "\"clouds\":\x7b\"all\":0\x7d,\"dt\":1700000000,\"sys\":\x7b\"type\":1,\"id\":6550," ++
    "\"country\":\"FR\",\"sunrise\":1699980000,\"sunset\":1700020000\x7d,\"timezone\":3600," ++
    "\"id\":2988507,\"name\":\"Paris\",\"cod\":200\x7d").toUTF8.toList

def serving (body : Data) (decodedData : WeatherData) : Foundation where
  url := some
  decode := fun data => if data = body then .ok decodedData else .error "dataCorrupted"
  describe := toString
  format := fun _ value => toString value
  date := toString

theorem fetch_traps_on_empty_array :
    ¬ ∃ call, fetched (serving emptyForecastBody emptyForecast) "Paris" (.loaded emptyForecastBody) = some [call] := by
  intro ⟨call, survived⟩
  have decoded : (serving emptyForecastBody emptyForecast).decode emptyForecastBody = .ok emptyForecast := if_pos rfl
  rcases loaded_decoded _ _ _ decoded with ⟨_, trapped⟩ | ⟨first, rest, _, array, _⟩
  · cases trapped.symm.trans survived
  · cases array

end Pets.Clima
