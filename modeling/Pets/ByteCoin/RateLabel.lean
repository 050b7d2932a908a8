import Pets.ByteCoin.CoinViewController

set_option autoImplicit false

namespace Pets.ByteCoin

open Pets.Transition

-- Once nothing is under way and the task of the last selection has brought a rate, the
-- label shows that rate.
def ShowsLastSelected (foundation : Foundation) (history : List Event) (controller : CoinViewController) : Prop :=
  (∀ request, ¬ controller.requests.Outstanding request) → ((client foundation).ledger history).waiting = [] →
    ∀ last ∈ ((client foundation).ledger history).arrived, last.1 + 1 = controller.selected.length →
      controller.currencyLabel = some (last.2.rateString foundation)

theorem follows_last (foundation : Foundation) (history : List Event) (controller : CoinViewController)
    (follows : Follows foundation controller) (kept : (client foundation).Kept history controller)
    (inOrder : (client foundation).DeliversInOrder history controller) :
    ShowsLastSelected foundation history controller := by
  rw [(client foundation).kept_ordered_iff history controller kept] at inOrder
  intro _ idle last member newest
  rw [Ledger.arrived, idle, List.append_nil, (client foundation).kept_delivered history controller kept] at member
  have shown := Session.ordered_shows_newest _ kept.sound inOrder last member (newest.trans follows.counted.symm)
  change controller.requests.shown = some last at shown
  rw [follows.rendered, shown]
  rfl

theorem rate_follows_picker_iff (foundation : Foundation)
    (accepted : ∀ currency ∈ currencyArray, (foundation.url (coinPriceURL currency)).isSome) (events : List Event) :
    (Always (step foundation) launched (ShowsLastSelected foundation) events ∧
        Along (step foundation) launched (client foundation).NeverReplacedByOlder events) ↔
      Always (step foundation) launched (client foundation).DeliversInOrder events := by
  have newer_iff := (client foundation).never_replaced_iff events
  refine ⟨fun both => newer_iff.mp both.2, fun inOrder => ⟨?_, newer_iff.mpr inOrder⟩⟩
  intro before after controller split reached
  have follows : Follows foundation controller :=
    run_invariant (step foundation) launched (fun _ => Follows foundation) ⟨rfl, rfl⟩
      (fun _ state event next => step_follows foundation state event next accepted) before controller reached
  exact follows_last foundation before controller follows ((client foundation).run_kept before controller reached)
    (inOrder before after controller split reached)

def rateBody (quote : String) : Data :=
  ("\x7b\"time\":\"2023-11-14T22:13:20.0000000Z\",\"asset_id_base\":\"BTC\",\"asset_id_quote\":\"" ++ quote ++
    "\",\"rate\":20000\x7d").toUTF8.data.toList

def readRate (data : Data) : Except String CoinData :=
  if data = rateBody "EUR" then .ok ⟨20000, "EUR"⟩
  else if data = rateBody "USD" then .ok ⟨20000, "USD"⟩ else .error "dataCorrupted"

theorem read_euros : readRate (rateBody "EUR") = .ok ⟨20000, "EUR"⟩ := if_pos rfl

theorem read_dollars : readRate (rateBody "USD") = .ok ⟨20000, "USD"⟩ := by
  have differ : rateBody "USD" ≠ rateBody "EUR" :=
    fun same => absurd (Lists.utf8_between_inj _ _ _ _ same) (by decide)
  rw [readRate, if_neg differ, if_pos rfl]

def twoRates : Foundation := ⟨some, readRate, fun format _ => format⟩

theorem rate_follows_picker_in_turn :
    (∀ currency ∈ currencyArray, (twoRates.url (coinPriceURL currency)).isSome) ∧
      ((Always (step twoRates) launched (ShowsLastSelected twoRates)
            [.select 3, .complete 0 (.loaded (rateBody "EUR")), .turn] ∧
          Along (step twoRates) launched (client twoRates).NeverReplacedByOlder
            [.select 3, .complete 0 (.loaded (rateBody "EUR")), .turn]) ↔
        Always (step twoRates) launched (client twoRates).DeliversInOrder
          [.select 3, .complete 0 (.loaded (rateBody "EUR")), .turn]) :=
  ⟨fun _ _ => rfl, rate_follows_picker_iff twoRates (fun _ _ => rfl) _⟩

theorem completed_loaded (foundation : Foundation) (controller : CoinViewController) (request : ℕ) (data : Data)
    (decodedData : CoinData) (outstanding : controller.requests.Outstanding request)
    (decoded : foundation.decode data = .ok decodedData) :
    completed foundation controller request (.loaded data) =
      { controller with
        requests := controller.requests.answer request (some ⟨decodedData.rate, decodedData.asset_id_quote⟩) } := by
  rw [completed, if_pos outstanding, completed_updates, Outcome.coin?, parseJSON, decoded]

-- Euros are selected, then dollars; the rate in dollars comes first.
def overtaken : List Event :=
  [.select 3, .select 18, .complete 1 (.loaded (rateBody "USD")), .complete 0 (.loaded (rateBody "EUR")), .turn]

def bothSelected : CoinViewController := ⟨["EUR", "USD"], ⟨2, [], Session.start.queue⟩, none⟩

def dollarsShown : CoinViewController where
  selected := ["EUR", "USD"]
  requests := ⟨2, [1, 0], ⟨some (1, ⟨20000, "USD"⟩), [(0, ⟨20000, "EUR"⟩)], [(1, ⟨20000, "USD"⟩)]⟩⟩
  currencyLabel := some "1 BTC = %.2f USD"

theorem overtaken_run : run (step twoRates) launched overtaken = some dollarsShown := by
  let dollarsAnswered := bothSelected.requests.answer 1 (some ⟨20000, "USD"⟩)
  have first := completed_loaded twoRates bothSelected 1 (rateBody "USD") ⟨20000, "USD"⟩ (by decide) read_dollars
  have second := completed_loaded twoRates { bothSelected with requests := dollarsAnswered } 0 (rateBody "EUR")
    ⟨20000, "EUR"⟩ (by decide) read_euros
  have selected : run (step twoRates) launched [.select 3, .select 18] = some bothSelected := by decide +kernel
  have split : overtaken = [.select 3, .select 18] ++
    [.complete 1 (.loaded (rateBody "USD")), .complete 0 (.loaded (rateBody "EUR")), .turn] := rfl
  rw [split, run_append, selected, Option.bind_some, run, step, first, Option.bind_some, run, step, second]
  rfl

theorem euros_replace_dollars :
    ¬ (Always (step twoRates) launched (ShowsLastSelected twoRates) (overtaken ++ [.turn]) ∧
      Along (step twoRates) launched (client twoRates).NeverReplacedByOlder (overtaken ++ [.turn])) := by
  intro ⟨_, newer⟩
  have before : (run (step twoRates) launched overtaken).map (fun state => state.requests.shown.map Prod.fst) =
      some (some 1) := by
    rw [overtaken_run]
    rfl
  have after : (run (step twoRates) launched (overtaken ++ [.turn])).map
      (fun state => state.requests.shown.map Prod.fst) = some (some 0) := by
    rw [run_snoc, overtaken_run]
    rfl
  exact (client twoRates).overwritten overtaken .turn 1 0 before after (by decide) newer

end Pets.ByteCoin
