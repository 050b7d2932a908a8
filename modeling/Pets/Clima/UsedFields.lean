import Pets.Library.Lists
import Pets.Clima.WeatherData

set_option autoImplicit false

namespace Pets.Clima

open Pets.JSONDecoder

def usedFields : List (List Key) :=
  [[.name "weather", .index 0, .name "id"], [.name "weather", .index 0, .name "description"], [.name "name"],
    [.name "sys", .name "country"], [.name "sys", .name "sunrise"], [.name "sys", .name "sunset"],
    [.name "main", .name "temp"], [.name "main", .name "feels_like"]]

def AgreeOnUsed (json json' : Json) : Prop := ∀ field ∈ usedFields, at? json field = at? json' field

-- read parses the text of a response, and describe is the text of a decoding error.
def decoding (foundation : Foundation) (read : Data → Except String Json) (describe : DecodingError → String) :
    Foundation :=
  { foundation with decode := fun data => read data >>= fun json => (WeatherData.decode [] json).mapError describe }

-- What parseJSON returns; the outer none is its trap.
def returned (foundation : Foundation) (weatherData : Data) : Option (Option WeatherModel) :=
  (parseJSON foundation weatherData).map Prod.fst

def model? (json : Json) : Option WeatherModel := do
  let conditionId ← (at? json [.name "weather", .index 0, .name "id"]).bind asInt
  let city ← (at? json [.name "name"]).bind asString
  let country ← (at? json [.name "sys", .name "country"]).bind asString
  let temperature ← (at? json [.name "main", .name "temp"]).bind asDouble
  let description ← (at? json [.name "weather", .index 0, .name "description"]).bind asString
  let feelslike ← (at? json [.name "main", .name "feels_like"]).bind asDouble
  let sunrise ← (at? json [.name "sys", .name "sunrise"]).bind asInt
  let sunset ← (at? json [.name "sys", .name "sunset"]).bind asInt
  return { conditionId, city, country, temperature, description, feelslike, sunrise, sunset }

theorem weather_used (codingPath : List Key) (json : Json) (weather : Weather)
    (decoded : Weather.decode codingPath json = .ok weather) :
    (at? json [.name "id"]).bind asInt = some weather.id ∧
      (at? json [.name "description"]).bind asString = some weather.description := by
  simp only [Weather.decode, bind_ok, int, string, required_read] at decoded
  obtain ⟨id, idRead, main, _, description, descriptionRead, icon, _, whole⟩ := decoded
  cases whole
  rw [at_single, at_single]
  exact ⟨idRead, descriptionRead⟩

theorem main_used (codingPath : List Key) (json : Json) (main : Main) (decoded : Main.decode codingPath json = .ok main) :
    (at? json [.name "temp"]).bind asDouble = some main.temp ∧
      (at? json [.name "feels_like"]).bind asDouble = some main.feels_like := by
  simp only [Main.decode, bind_ok, double, required_read] at decoded
  obtain ⟨temp, tempRead, feelsLike, feelsLikeRead, _, _, _, _, _, _, _, _, whole⟩ := decoded
  cases whole
  rw [at_single, at_single]
  exact ⟨tempRead, feelsLikeRead⟩

theorem sys_used (codingPath : List Key) (json : Json) (sys : Sys) (decoded : Sys.decode codingPath json = .ok sys) :
    (at? json [.name "country"]).bind asString = some sys.country ∧
      (at? json [.name "sunrise"]).bind asInt = some sys.sunrise ∧
      (at? json [.name "sunset"]).bind asInt = some sys.sunset := by
  simp only [Sys.decode, bind_ok, int, string, required_read] at decoded
  obtain ⟨_, _, _, _, country, countryRead, sunrise, sunriseRead, sunset, sunsetRead, whole⟩ := decoded
  cases whole
  rw [at_single, at_single, at_single]
  exact ⟨countryRead, sunriseRead, sunsetRead⟩

theorem decoded_model (codingPath : List Key) (json : Json) (decodedData : WeatherData)
    (decoded : WeatherData.decode codingPath json = .ok decodedData) :
    model? json = decodedData.weather[0]?.map fun first =>
      { conditionId := first.id
        city := decodedData.name
        country := decodedData.sys.country
        temperature := decodedData.main.temp
        description := first.description
        feelslike := decodedData.main.feels_like
        sunrise := decodedData.sys.sunrise
        sunset := decodedData.sys.sunset } := by
  simp only [WeatherData.decode, bind_ok] at decoded
  obtain ⟨coord, _, weather, weatherRead, base, _, main, mainRead, _, _, _, _, _, _, _, _, sys, sysRead, _, _, _, _,
    name, nameRead, _, _, whole⟩ := decoded
  cases whole
  obtain ⟨weatherJson, weatherFound, items⟩ := (required_ok _ _ _ _ _).mp weatherRead
  obtain ⟨mainJson, mainFound, mainDecoded⟩ := (required_ok _ _ _ _ _).mp mainRead
  obtain ⟨sysJson, sysFound, sysDecoded⟩ := (required_ok _ _ _ _ _).mp sysRead
  obtain ⟨temp, feelsLike⟩ := main_used _ _ _ mainDecoded
  obtain ⟨country, sunrise, sunset⟩ := sys_used _ _ _ sysDecoded
  have city := (required_read _ _ _ _ _ _).mp nameRead
  rw [← at_single] at city
  simp only [model?, at_found _ _ _ _ weatherFound, at_found _ _ _ _ mainFound, at_found _ _ _ _ sysFound, city, temp,
    feelsLike, country, sunrise, sunset]
  rcases array_ok Weather.decode _ weatherJson weather items 0 with ⟨missing, none⟩ | ⟨item, first, found, some, read⟩
  · rw [at_missing _ _ _ missing, none]
    rfl
  · obtain ⟨id, description⟩ := weather_used _ _ _ read
    rw [at_found _ _ _ _ found, at_found _ _ _ _ found, some, id, description]
    rfl

theorem agree_model (json json' : Json) (agree : AgreeOnUsed json json') : model? json = model? json' := by
  simp only [AgreeOnUsed, usedFields, List.forall_mem_cons] at agree
  obtain ⟨conditionId, description, city, country, sunrise, sunset, temperature, feelslike, _⟩ := agree
  simp only [model?, conditionId, description, city, country, sunrise, sunset, temperature, feelslike]

section Responses

variable (foundation : Foundation) (read : Data → Except String Json) (describe : DecodingError → String)

theorem decoding_parsed (data : Data) (json : Json) (parsed : read data = .ok json) :
    (decoding foundation read describe).decode data = (WeatherData.decode [] json).mapError describe := by
  change (read data >>= fun json => (WeatherData.decode [] json).mapError describe) = _
  rw [parsed]
  rfl

theorem accepted_parsed (data : Data) (json : Json) (parsed : read data = .ok json)
    (fits : Fits WeatherData.fields json) :
    parseJSON (decoding foundation read describe) data = (model? json).map fun weather => (some weather, []) := by
  obtain ⟨decodedData, decoded⟩ := (weather_data_accepts [] json).mpr fits
  rw [parseJSON, decoding_parsed foundation read describe data json parsed, decoded,
    decoded_model [] json decodedData decoded, Option.map_map]
  rfl

theorem rejected_parsed (data : Data) (json : Json) (parsed : read data = .ok json)
    (unfit : ¬ Fits WeatherData.fields json) :
    ∃ error, WeatherData.decode [] json = .error error ∧
      parseJSON (decoding foundation read describe) data = some (none, [.didFailWithError (describe error)]) := by
  cases outcome : WeatherData.decode [] json with
  | ok decodedData => exact absurd ((weather_data_accepts [] json).mp ⟨decodedData, outcome⟩) unfit
  | error error =>
      refine ⟨error, rfl, ?_⟩
      rw [parseJSON, decoding_parsed foundation read describe data json parsed, outcome]
      rfl

theorem accepted_not_rejected (data data' : Data) (json json' : Json) (parsed : read data = .ok json)
    (parsed' : read data' = .ok json') (fits : Fits WeatherData.fields json) (unfit : ¬ Fits WeatherData.fields json') :
    returned (decoding foundation read describe) data ≠ returned (decoding foundation read describe) data' := by
  obtain ⟨error, _, rejected⟩ := rejected_parsed foundation read describe data' json' parsed' unfit
  rw [returned, returned, accepted_parsed foundation read describe data json parsed fits, rejected]
  cases model? json with
  | none => exact (Option.some_ne_none _).symm
  | some weather => exact fun same => nomatch same

theorem agreed_returned (data data' : Data) (json json' : Json) (parsed : read data = .ok json)
    (parsed' : read data' = .ok json') (agree : AgreeOnUsed json json')
    (alike : Fits WeatherData.fields json ↔ Fits WeatherData.fields json') :
    returned (decoding foundation read describe) data = returned (decoding foundation read describe) data' := by
  by_cases fits : Fits WeatherData.fields json
  · rw [returned, returned, accepted_parsed foundation read describe data json parsed fits,
      accepted_parsed foundation read describe data' json' parsed' (alike.mp fits), agree_model json json' agree]
  · obtain ⟨error, _, rejected⟩ := rejected_parsed foundation read describe data json parsed fits
    obtain ⟨error', _, rejected'⟩ := rejected_parsed foundation read describe data' json' parsed' (mt alike.mpr fits)
    rw [returned, returned, rejected, rejected']
    rfl

theorem used_fields_decide_iff (data data' : Data) (json json' : Json) (parsed : read data = .ok json)
    (parsed' : read data' = .ok json') (agree : AgreeOnUsed json json') :
    returned (decoding foundation read describe) data = returned (decoding foundation read describe) data' ↔
      (Fits WeatherData.fields json ↔ Fits WeatherData.fields json') := by
  refine ⟨?_, agreed_returned foundation read describe data data' json json' parsed parsed' agree⟩
  intro same
  constructor
  · intro fits
    by_contra unfit
    exact accepted_not_rejected foundation read describe data data' json json' parsed parsed' fits unfit same
  · intro fits
    by_contra unfit
    exact accepted_not_rejected foundation read describe data' data json' json parsed' parsed fits unfit same.symm

theorem undeclared_ignored (data data' : Data) (name : String) (value : Json) (members : List (String × Json))
    (parsed : read data = .ok (.object members)) (parsed' : read data' = .ok (.object ((name, value) :: members)))
    (undeclared : ∀ field ∈ WeatherData.fields, field.1.head? ≠ some (.name name)) :
    returned (decoding foundation read describe) data = returned (decoding foundation read describe) data' := by
  have other : ∀ declared rest kind, (.name declared :: rest, kind) ∈ WeatherData.fields → declared ≠ name := by
    intro declared rest kind member same
    exact undeclared _ member (by rw [same]; rfl)
  have weather := other "weather" [.each, .name "id"] .int (by decide)
  have city := other "name" [] .string (by decide)
  have sys := other "sys" [.name "country"] .string (by decide)
  have main := other "main" [.name "temp"] .double (by decide)
  have found : ∀ declared, declared ≠ name →
      child? (.object ((name, value) :: members)) (.name declared) = child? (.object members) (.name declared) := by
    intro declared differs
    rw [child?, List.lookup_cons, beq_false_of_ne differs]
    rfl
  apply agreed_returned foundation read describe data data' _ _ parsed parsed'
  · simp only [AgreeOnUsed, usedFields, List.forall_mem_cons, at?, found _ weather, found _ city, found _ sys, found _ main]
    simp
  · exact (fits_undeclared WeatherData.fields name value members undeclared).symm

end Responses

def parisBody (visibility : String) : Data :=
  (("\x7b\"coord\":\x7b\"lon\":2.35,\"lat\":48.85\x7d,\"weather\":[\x7b\"id\":800,\"main\":\"Clear\"," ++
    "\"description\":\"clear sky\",\"icon\":\"01d\"\x7d],\"base\":\"stations\"," ++
    "\"main\":\x7b\"temp\":20,\"feels_like\":19,\"temp_min\":18,\"temp_max\":22,\"pressure\":1013," ++
    "\"humidity\":60\x7d,") ++ visibility ++ ("\"wind\":\x7b\"speed\":3,\"deg\":180\x7d," ++
    "\"clouds\":\x7b\"all\":0\x7d,\"dt\":1700000000,\"sys\":\x7b\"type\":1,\"id\":6550," ++
    "\"country\":\"FR\",\"sunrise\":1699980000,\"sunset\":1700020000\x7d,\"timezone\":3600," ++
    "\"id\":2988507,\"name\":\"Paris\",\"cod\":200\x7d")).toUTF8.data.toList

def parisResponse (visibility : List (String × Json)) : Json :=
  .object
    ([("coord", .object [("lon", .number (235 / 100)), ("lat", .number (4885 / 100))]),
      ("weather", .array [.object [("id", .number 800), ("main", .string "Clear"), ("description", .string "clear sky"),
        ("icon", .string "01d")]]),
      ("base", .string "stations"),
      ("main", .object [("temp", .number 20), ("feels_like", .number 19), ("temp_min", .number 18),
        ("temp_max", .number 22), ("pressure", .number 1013), ("humidity", .number 60)])] ++ visibility ++
    [("wind", .object [("speed", .number 3), ("deg", .number 180)]), ("clouds", .object [("all", .number 0)]),
      ("dt", .number 1700000000),
      ("sys", .object [("type", .number 1), ("id", .number 6550), ("country", .string "FR"),
        ("sunrise", .number 1699980000), ("sunset", .number 1700020000)]),
      ("timezone", .number 3600), ("id", .number 2988507), ("name", .string "Paris"), ("cod", .number 200)])

def clearBody : Data := parisBody "\"visibility\":10000,"

def hazyBody : Data := parisBody ""

-- The parser on these two responses, the second of which lacks the visibility.
def readParis (data : Data) : Except String Json :=
  if data = clearBody then .ok (parisResponse [("visibility", .number 10000)])
  else if data = hazyBody then .ok (parisResponse []) else .error "dataCorrupted"

def describeKey : DecodingError → String
  | .keyNotFound key _ => "No value associated with key " ++ key
  | _ => "The data could not be read"

theorem read_clear : readParis clearBody = .ok (parisResponse [("visibility", .number 10000)]) := if_pos rfl

theorem read_hazy : readParis hazyBody = .ok (parisResponse []) := by
  have differ : hazyBody ≠ clearBody := fun same => absurd (Lists.utf8_between_inj _ _ _ _ same) (by decide)
  rw [readParis, if_neg differ, if_pos rfl]

theorem paris_agree : AgreeOnUsed (parisResponse [("visibility", .number 10000)]) (parisResponse []) := by
  simp only [AgreeOnUsed, usedFields, List.forall_mem_cons]
  exact ⟨rfl, rfl, rfl, rfl, rfl, rfl, rfl, rfl, fun _ impossible => (List.not_mem_nil impossible).elim⟩

def parisForecast : Foundation := decoding (serving hazyBody emptyForecast) readParis describeKey

theorem paris_result_iff :
    returned parisForecast clearBody = returned parisForecast hazyBody ↔
      (Fits WeatherData.fields (parisResponse [("visibility", .number 10000)]) ↔ Fits WeatherData.fields (parisResponse [])) :=
  used_fields_decide_iff _ readParis describeKey clearBody hazyBody _ _ read_clear read_hazy paris_agree

theorem clear_accepted : Fits WeatherData.fields (parisResponse [("visibility", .number 10000)]) := by
  have decodes : (WeatherData.decode [] (parisResponse [("visibility", .number 10000)])).isOk = true := by decide +kernel
  cases decoded : WeatherData.decode [] (parisResponse [("visibility", .number 10000)]) with
  | ok weatherData => exact (weather_data_accepts [] _).mp ⟨weatherData, decoded⟩
  | error error =>
      rw [decoded] at decodes
      cases decodes

theorem visibility_decides :
    AgreeOnUsed (parisResponse [("visibility", .number 10000)]) (parisResponse []) ∧
      returned parisForecast clearBody ≠ returned parisForecast hazyBody ∧
      returned parisForecast clearBody =
        some (some ⟨800, "Paris", "FR", 20, "clear sky", 19, 1699980000, 1700020000⟩) ∧
      parseJSON parisForecast hazyBody =
        some (none, [.didFailWithError "No value associated with key visibility"]) := by
  have accepted : returned parisForecast clearBody =
      some (some ⟨800, "Paris", "FR", 20, "clear sky", 19, 1699980000, 1700020000⟩) := by
    rw [returned, parisForecast, accepted_parsed _ _ _ _ _ read_clear clear_accepted]
    decide +kernel
  have rejected : parseJSON parisForecast hazyBody =
      some (none, [.didFailWithError "No value associated with key visibility"]) := by
    rw [parseJSON, parisForecast, decoding_parsed _ _ _ _ _ read_hazy]
    decide +kernel
  refine ⟨paris_agree, ?_, accepted, rejected⟩
  rw [accepted, returned, rejected]
  exact fun same => nomatch same

end Pets.Clima
