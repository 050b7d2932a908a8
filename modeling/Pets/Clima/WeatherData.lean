import Pets.Clima.WeatherManager
import Pets.Library.JSONDecoder

set_option autoImplicit false

namespace Pets.Clima

open Pets.JSONDecoder

-- The initialisers that Codable synthesises: the properties in the order of their
-- declaration, up to the first that fails. The fields are what each of them asks for.
def Coordinates.decode : Decoder Coordinates := fun codingPath json => do
  let lon ← required "lon" double codingPath json
  let lat ← required "lat" double codingPath json
  return { lon, lat }

def Coordinates.fields : Schema := properties [("lon", only .double), ("lat", only .double)]

def Weather.decode : Decoder Weather := fun codingPath json => do
  let id ← required "id" int codingPath json
  let main ← required "main" string codingPath json
  let description ← required "description" string codingPath json
  let icon ← required "icon" string codingPath json
  return { id, main, description, icon }

def Weather.fields : Schema :=
  properties [("id", only .int), ("main", only .string), ("description", only .string), ("icon", only .string)]

def Main.decode : Decoder Main := fun codingPath json => do
  let temp ← required "temp" double codingPath json
  let feels_like ← required "feels_like" double codingPath json
  let temp_min ← required "temp_min" double codingPath json
  let temp_max ← required "temp_max" double codingPath json
  let pressure ← required "pressure" int codingPath json
  let humidity ← required "humidity" int codingPath json
  return { temp, feels_like, temp_min, temp_max, pressure, humidity }

def Main.fields : Schema :=
  properties [("temp", only .double), ("feels_like", only .double), ("temp_min", only .double),
    ("temp_max", only .double), ("pressure", only .int), ("humidity", only .int)]

def Wind.decode : Decoder Wind := fun codingPath json => do
  let speed ← required "speed" double codingPath json
  let deg ← required "deg" int codingPath json
  return { speed, deg }

def Wind.fields : Schema := properties [("speed", only .double), ("deg", only .int)]

def Clouds.decode : Decoder Clouds := fun codingPath json => do
  let all ← required "all" int codingPath json
  return { all }

def Clouds.fields : Schema := properties [("all", only .int)]

def Sys.decode : Decoder Sys := fun codingPath json => do
  let type ← required "type" int codingPath json
  let id ← required "id" int codingPath json
  let country ← required "country" string codingPath json
  let sunrise ← required "sunrise" int codingPath json
  let sunset ← required "sunset" int codingPath json
  return { type, id, country, sunrise, sunset }

def Sys.fields : Schema :=
  properties [("type", only .int), ("id", only .int), ("country", only .string), ("sunrise", only .int),
    ("sunset", only .int)]

def WeatherData.decode : Decoder WeatherData := fun codingPath json => do
  let coord ← required "coord" Coordinates.decode codingPath json
  let weather ← required "weather" (array Weather.decode) codingPath json
  let base ← required "base" string codingPath json
  let main ← required "main" Main.decode codingPath json
  let visibility ← required "visibility" int codingPath json
  let wind ← required "wind" Wind.decode codingPath json
  let clouds ← required "clouds" Clouds.decode codingPath json
  let dt ← required "dt" int codingPath json
  let sys ← required "sys" Sys.decode codingPath json
  let timezone ← required "timezone" int codingPath json
  let id ← required "id" int codingPath json
  let name ← required "name" string codingPath json
  let cod ← required "cod" int codingPath json
  return { coord, weather, base, main, visibility, wind, clouds, dt, sys, timezone, id, name, cod }

def WeatherData.fields : Schema :=
  properties [("coord", Coordinates.fields), ("weather", under .each Weather.fields), ("base", only .string),
    ("main", Main.fields), ("visibility", only .int), ("wind", Wind.fields), ("clouds", Clouds.fields),
    ("dt", only .int), ("sys", Sys.fields), ("timezone", only .int), ("id", only .int), ("name", only .string),
    ("cod", only .int)]

theorem coordinates_accepts : Accepts Coordinates.decode Coordinates.fields := by
  refine accepts_property "lon" double _ _ _ (by decide) accepts_double fun _ => ?_
  refine accepts_property "lat" double _ _ _ (by decide) accepts_double fun _ => ?_
  exact accepts_nothing _

theorem weather_accepts : Accepts Weather.decode Weather.fields := by
  refine accepts_property "id" int _ _ _ (by decide) accepts_int fun _ => ?_
  refine accepts_property "main" string _ _ _ (by decide) accepts_string fun _ => ?_
  refine accepts_property "description" string _ _ _ (by decide) accepts_string fun _ => ?_
  refine accepts_property "icon" string _ _ _ (by decide) accepts_string fun _ => ?_
  exact accepts_nothing _

theorem main_accepts : Accepts Main.decode Main.fields := by
  refine accepts_property "temp" double _ _ _ (by decide) accepts_double fun _ => ?_
  refine accepts_property "feels_like" double _ _ _ (by decide) accepts_double fun _ => ?_
  refine accepts_property "temp_min" double _ _ _ (by decide) accepts_double fun _ => ?_
  refine accepts_property "temp_max" double _ _ _ (by decide) accepts_double fun _ => ?_
  refine accepts_property "pressure" int _ _ _ (by decide) accepts_int fun _ => ?_
  refine accepts_property "humidity" int _ _ _ (by decide) accepts_int fun _ => ?_
  exact accepts_nothing _

theorem wind_accepts : Accepts Wind.decode Wind.fields := by
  refine accepts_property "speed" double _ _ _ (by decide) accepts_double fun _ => ?_
  refine accepts_property "deg" int _ _ _ (by decide) accepts_int fun _ => ?_
  exact accepts_nothing _

theorem clouds_accepts : Accepts Clouds.decode Clouds.fields := by
  refine accepts_property "all" int _ _ _ (by decide) accepts_int fun _ => ?_
  exact accepts_nothing _

theorem sys_accepts : Accepts Sys.decode Sys.fields := by
  refine accepts_property "type" int _ _ _ (by decide) accepts_int fun _ => ?_
  refine accepts_property "id" int _ _ _ (by decide) accepts_int fun _ => ?_
  refine accepts_property "country" string _ _ _ (by decide) accepts_string fun _ => ?_
  refine accepts_property "sunrise" int _ _ _ (by decide) accepts_int fun _ => ?_
  refine accepts_property "sunset" int _ _ _ (by decide) accepts_int fun _ => ?_
  exact accepts_nothing _

theorem weather_data_accepts : Accepts WeatherData.decode WeatherData.fields := by
  refine accepts_property "coord" Coordinates.decode _ _ _ (by decide) coordinates_accepts fun _ => ?_
  refine accepts_property "weather" (array Weather.decode) _ _ _ (by decide) (accepts_array _ _ (by decide) weather_accepts) fun _ => ?_
  refine accepts_property "base" string _ _ _ (by decide) accepts_string fun _ => ?_
  refine accepts_property "main" Main.decode _ _ _ (by decide) main_accepts fun _ => ?_
  refine accepts_property "visibility" int _ _ _ (by decide) accepts_int fun _ => ?_
  refine accepts_property "wind" Wind.decode _ _ _ (by decide) wind_accepts fun _ => ?_
  refine accepts_property "clouds" Clouds.decode _ _ _ (by decide) clouds_accepts fun _ => ?_
  refine accepts_property "dt" int _ _ _ (by decide) accepts_int fun _ => ?_
  refine accepts_property "sys" Sys.decode _ _ _ (by decide) sys_accepts fun _ => ?_
  refine accepts_property "timezone" int _ _ _ (by decide) accepts_int fun _ => ?_
  refine accepts_property "id" int _ _ _ (by decide) accepts_int fun _ => ?_
  refine accepts_property "name" string _ _ _ (by decide) accepts_string fun _ => ?_
  refine accepts_property "cod" int _ _ _ (by decide) accepts_int fun _ => ?_
  exact accepts_nothing _

end Pets.Clima
