import Mathlib.Data.Rat.Defs

set_option autoImplicit false

namespace Pets.ByteCoin

structure CoinData where
  rate : ℚ
  asset_id_quote : String

structure CoinModel where
  rate : ℚ
  quote : String
deriving DecidableEq

abbrev Data := List UInt8

structure Foundation where
  url : String → Option String
  decode : Data → Except String CoinData
  format : String → ℚ → String

def CoinModel.rateString (foundation : Foundation) (coin : CoinModel) : String :=
  foundation.format ("1 BTC = %.2f " ++ coin.quote) coin.rate

def baseURL : String := "https://rest.coinapi.io/v1/exchangerate/BTC"

def apiKey : String := "64A6A397-EBF8-4E4D-AE3D-398062C2068B"

def currencyArray : List String :=
  ["AUD", "BRL", "CAD", "EUR", "GBP", "HKD", "IDR", "ILS", "INR", "JPY", "MXN", "NOK", "NZD", "PLN", "RON", "RUB",
    "SEK", "SGD", "USD", "ZAR"]

-- The URL of the task that is resumed, none when no task is made.
def performRequest (foundation : Foundation) (urlString : String) : Option String := foundation.url urlString

def coinPriceURL (currency : String) : String := baseURL ++ "/" ++ currency ++ "?apikey=" ++ apiKey

def getCoinPrice (foundation : Foundation) (currency : String) : Option String :=
  performRequest foundation (coinPriceURL currency)

inductive DelegateCall where
  | didUpdateWeather (coin : CoinModel)
  | didFailWithError (error : String)
deriving DecidableEq

def parseJSON (foundation : Foundation) (data : Data) : Option CoinModel × List DelegateCall :=
  match foundation.decode data with
  | .ok decodedData => (some ⟨decodedData.rate, decodedData.asset_id_quote⟩, [])
  | .error error => (none, [.didFailWithError error])

def taskCompleted (foundation : Foundation) (data : Option Data) (error : Option String) : List DelegateCall :=
  match error with
  | some error => [.didFailWithError error]
  | none =>
      match data with
      | none => []
      | some safeData =>
          match parseJSON foundation safeData with
          | (some coin, calls) => calls ++ [.didUpdateWeather coin]
          | (none, calls) => calls

inductive Outcome where
  | failed (error : String)
  | loaded (data : Data)
deriving DecidableEq

def Outcome.completed (foundation : Foundation) : Outcome → List DelegateCall
  | .failed error => taskCompleted foundation none (some error)
  | .loaded data => taskCompleted foundation (some data) none

end Pets.ByteCoin
