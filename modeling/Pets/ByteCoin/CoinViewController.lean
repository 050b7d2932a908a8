import Pets.ByteCoin.CoinManager
import Pets.Library.Client

set_option autoImplicit false

namespace Pets.ByteCoin

open Pets.Transition

-- requests numbers the data tasks from zero as they are resumed. selected is
-- history: the currencies chosen in the picker. currencyLabel is none while the
-- label still reads as in the storyboard.
structure CoinViewController where
  selected : List String
  requests : Session CoinModel
  currencyLabel : Option String
deriving DecidableEq

def launched : CoinViewController := ⟨[], Session.start, none⟩

def didSelectRow (foundation : Foundation) (controller : CoinViewController) (row : ℕ) : Option CoinViewController :=
  currencyArray[row]?.map fun currency =>
    { controller with
      selected := controller.selected ++ [currency]
      requests := match getCoinPrice foundation currency with
        | some _ => controller.requests.issue
        | none => controller.requests }

def DelegateCall.coin? : DelegateCall → Option CoinModel
  | .didUpdateWeather coin => some coin
  | .didFailWithError _ => none

inductive Event where
  | select (row : ℕ)
  | complete (request : ℕ) (outcome : Outcome)
  | turn
deriving DecidableEq

-- A task completes once; a completion of any other request is no event at all.
def completed (foundation : Foundation) (controller : CoinViewController) (request : ℕ) (outcome : Outcome) :
    CoinViewController :=
  if controller.requests.Outstanding request then
    { controller with
      requests := controller.requests.answer request
        ((outcome.completed foundation).findSome? DelegateCall.coin?) }
  else controller

def performUpdate (foundation : Foundation) (controller : CoinViewController) : Option CoinViewController :=
  controller.requests.turn.map fun requests =>
    { controller with requests, currencyLabel := requests.shown.map fun shown => shown.2.rateString foundation }

def step (foundation : Foundation) (controller : CoinViewController) : Event → Option CoinViewController
  | .select row => didSelectRow foundation controller row
  | .complete request outcome => some (completed foundation controller request outcome)
  | .turn => performUpdate foundation controller

def Event.turning : Event → Bool
  | .turn => true
  | _ => false

def Outcome.coin? (foundation : Foundation) : Outcome → Option CoinModel
  | .failed _ => none
  | .loaded data => (parseJSON foundation data).1

def brought (foundation : Foundation) (controller : CoinViewController) : Event → Option (ℕ × CoinModel)
  | .complete request outcome =>
      if controller.requests.Outstanding request then (outcome.coin? foundation).map fun coin => (request, coin)
      else none
  | _ => none

theorem completed_updates (foundation : Foundation) (outcome : Outcome) :
    (outcome.completed foundation).findSome? DelegateCall.coin? = outcome.coin? foundation := by
  cases outcome with
  | failed error => rfl
  | loaded data =>
      rw [Outcome.completed, Outcome.coin?, taskCompleted, parseJSON]
      cases foundation.decode data <;> rfl

theorem step_moves (foundation : Foundation) (controller : CoinViewController) (event : Event)
    (next : CoinViewController) (moved : step foundation controller event = some next) :
    controller.requests.Moves event.turning (brought foundation controller event) next.requests := by
  cases event with
  | select row =>
      obtain ⟨currency, _, rfl⟩ := Option.map_eq_some_iff.mp moved
      cases getCoinPrice foundation currency with
      | none => exact .stays
      | some url => exact .issues
  | complete request outcome =>
      cases moved
      by_cases outstanding : controller.requests.Outstanding request
      · rw [completed, if_pos outstanding, brought, if_pos outstanding, completed_updates]
        exact .answers request _ outstanding
      · rw [completed, if_neg outstanding, brought, if_neg outstanding]
        exact .stays
  | turn =>
      obtain ⟨requests, turned, rfl⟩ := Option.map_eq_some_iff.mp moved
      exact .turns requests turned

def client (foundation : Foundation) : Client CoinViewController Event CoinModel where
  step := step foundation
  launched := launched
  requests := CoinViewController.requests
  turning := Event.turning
  brought := brought foundation
  initial := rfl
  moves := step_moves foundation

structure Follows (foundation : Foundation) (controller : CoinViewController) : Prop where
  rendered : controller.currencyLabel = controller.requests.shown.map fun shown => shown.2.rateString foundation
  counted : controller.requests.issued = controller.selected.length

theorem select_follows (foundation : Foundation) (controller next : CoinViewController) (row : ℕ)
    (accepted : ∀ currency ∈ currencyArray, (foundation.url (coinPriceURL currency)).isSome)
    (inv : Follows foundation controller) (moved : didSelectRow foundation controller row = some next) :
    Follows foundation next := by
  obtain ⟨currency, found, rfl⟩ := Option.map_eq_some_iff.mp moved
  obtain ⟨url, resumed⟩ := Option.isSome_iff_exists.mp (accepted currency (List.mem_of_getElem? found))
  have made : getCoinPrice foundation currency = some url := resumed
  simp only [made]
  refine ⟨inv.rendered, ?_⟩
  rw [List.length_append]
  exact congrArg Nat.succ inv.counted

theorem turn_follows (foundation : Foundation) (controller next : CoinViewController)
    (inv : Follows foundation controller) (moved : performUpdate foundation controller = some next) :
    Follows foundation next := by
  obtain ⟨requests, turned, rfl⟩ := Option.map_eq_some_iff.mp moved
  exact ⟨rfl, (Session.turn_issued controller.requests requests turned).trans inv.counted⟩

theorem step_follows (foundation : Foundation) (controller : CoinViewController) (event : Event)
    (next : CoinViewController)
    (accepted : ∀ currency ∈ currencyArray, (foundation.url (coinPriceURL currency)).isSome)
    (inv : Follows foundation controller) (moved : step foundation controller event = some next) :
    Follows foundation next := by
  cases event with
  | select row => exact select_follows foundation controller next row accepted inv moved
  | complete request outcome =>
      cases moved
      by_cases outstanding : controller.requests.Outstanding request
      · rw [completed, if_pos outstanding]
        refine ⟨?_, (Session.answer_issued ..).trans inv.counted⟩
        rw [Session.answer_shown]
        exact inv.rendered
      · rw [completed, if_neg outstanding]
        exact inv
  | turn => exact turn_follows foundation controller next inv moved

end Pets.ByteCoin
