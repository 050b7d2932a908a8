import Pets.Clima.UsedFields
import Pets.Library.CodingPath

set_option autoImplicit false

namespace Pets.Clima

open Pets.JSONDecoder

theorem coordinates_blaming : Blaming Coordinates.decode Coordinates.fields := by
  refine blaming_property "lon" double _ _ _ (by decide) blaming_double fun _ => ?_
  refine blaming_property "lat" double _ _ _ (by decide) blaming_double fun _ => ?_
  exact blaming_nothing _

theorem weather_blaming : Blaming Weather.decode Weather.fields := by
  refine blaming_property "id" int _ _ _ (by decide) blaming_int fun _ => ?_
  refine blaming_property "main" string _ _ _ (by decide) blaming_string fun _ => ?_
  refine blaming_property "description" string _ _ _ (by decide) blaming_string fun _ => ?_
  refine blaming_property "icon" string _ _ _ (by decide) blaming_string fun _ => ?_
  exact blaming_nothing _

theorem main_blaming : Blaming Main.decode Main.fields := by
  refine blaming_property "temp" double _ _ _ (by decide) blaming_double fun _ => ?_
  refine blaming_property "feels_like" double _ _ _ (by decide) blaming_double fun _ => ?_
  refine blaming_property "temp_min" double _ _ _ (by decide) blaming_double fun _ => ?_
  refine blaming_property "temp_max" double _ _ _ (by decide) blaming_double fun _ => ?_
  refine blaming_property "pressure" int _ _ _ (by decide) blaming_int fun _ => ?_
  refine blaming_property "humidity" int _ _ _ (by decide) blaming_int fun _ => ?_
  exact blaming_nothing _

theorem wind_blaming : Blaming Wind.decode Wind.fields := by
  refine blaming_property "speed" double _ _ _ (by decide) blaming_double fun _ => ?_
  refine blaming_property "deg" int _ _ _ (by decide) blaming_int fun _ => ?_
  exact blaming_nothing _

theorem clouds_blaming : Blaming Clouds.decode Clouds.fields := by
  refine blaming_property "all" int _ _ _ (by decide) blaming_int fun _ => ?_
  exact blaming_nothing _

theorem sys_blaming : Blaming Sys.decode Sys.fields := by
  refine blaming_property "type" int _ _ _ (by decide) blaming_int fun _ => ?_
  refine blaming_property "id" int _ _ _ (by decide) blaming_int fun _ => ?_
  refine blaming_property "country" string _ _ _ (by decide) blaming_string fun _ => ?_
  refine blaming_property "sunrise" int _ _ _ (by decide) blaming_int fun _ => ?_
  refine blaming_property "sunset" int _ _ _ (by decide) blaming_int fun _ => ?_
  exact blaming_nothing _

theorem weather_data_blaming : Blaming WeatherData.decode WeatherData.fields := by
  refine blaming_property "coord" Coordinates.decode _ _ _ (by decide) coordinates_blaming fun _ => ?_
  refine blaming_property "weather" (array Weather.decode) _ _ _ (by decide) (blaming_array _ _ (by decide) weather_blaming) fun _ => ?_
  refine blaming_property "base" string _ _ _ (by decide) blaming_string fun _ => ?_
  refine blaming_property "main" Main.decode _ _ _ (by decide) main_blaming fun _ => ?_
  refine blaming_property "visibility" int _ _ _ (by decide) blaming_int fun _ => ?_
  refine blaming_property "wind" Wind.decode _ _ _ (by decide) wind_blaming fun _ => ?_
  refine blaming_property "clouds" Clouds.decode _ _ _ (by decide) clouds_blaming fun _ => ?_
  refine blaming_property "dt" int _ _ _ (by decide) blaming_int fun _ => ?_
  refine blaming_property "sys" Sys.decode _ _ _ (by decide) sys_blaming fun _ => ?_
  refine blaming_property "timezone" int _ _ _ (by decide) blaming_int fun _ => ?_
  refine blaming_property "id" int _ _ _ (by decide) blaming_int fun _ => ?_
  refine blaming_property "name" string _ _ _ (by decide) blaming_string fun _ => ?_
  refine blaming_property "cod" int _ _ _ (by decide) blaming_int fun _ => ?_
  exact blaming_nothing _

-- What the delegate hears of a response is decided by its tree alone: the model
-- read at the used fields, or an error that tells truly which declared property
-- is missing or misfits. The trap is that of an empty weather array.
theorem response_reported (foundation : Foundation) (read : Data → Except String Json)
    (describe : DecodingError → String) (data : Data) (json : Json) (parsed : read data = .ok json) :
    (Fits WeatherData.fields json ∧ (Outcome.loaded data).completed (decoding foundation read describe) =
        (model? json).map fun weather => [.didUpdateWeather weather]) ∨
      ∃ error : DecodingError, error.Blames [] WeatherData.fields json ∧
        (Outcome.loaded data).completed (decoding foundation read describe) =
          some [.didFailWithError (describe error)] := by
  cases decoded : WeatherData.decode [] json with
  | ok decodedData =>
      have fits := (weather_data_accepts [] json).mp ⟨decodedData, decoded⟩
      have returns := accepted_parsed foundation read describe data json parsed fits
      refine Or.inl ⟨fits, ?_⟩
      rw [Outcome.completed, taskCompleted, returns, Option.map_map]
      rfl
  | error error =>
      have blames := weather_data_blaming [] json error decoded
      have unfit := blames_unfit error [] WeatherData.fields json blames
      obtain ⟨other, failed, returns⟩ := rejected_parsed foundation read describe data json parsed unfit
      cases decoded.symm.trans failed
      refine Or.inr ⟨error, blames, ?_⟩
      rw [Outcome.completed, taskCompleted, returns]
      rfl

theorem hazy_reported :
    ∃ error : DecodingError, error.Blames [] WeatherData.fields (parisResponse []) ∧
      (Outcome.loaded hazyBody).completed parisForecast = some [.didFailWithError (describeKey error)] := by
  rcases response_reported (serving hazyBody emptyForecast) readParis describeKey hazyBody (parisResponse []) read_hazy with
    ⟨fits, _⟩ | reported
  · obtain ⟨value, found, _⟩ := fits ([.name "visibility"], .int) (by decide)
    cases found
  · exact reported

end Pets.Clima
