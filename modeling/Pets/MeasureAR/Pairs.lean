import Pets.MeasureAR.Measurement

set_option autoImplicit false

namespace Pets.MeasureAR

open Pets.Transition

def pairs {Item : Type} : List Item → List (Item × Item)
  | first :: second :: rest => (first, second) :: pairs rest
  | _ => []

def positions (calculation : SCNNode × SCNNode) : SCNVector3 × SCNVector3 := (calculation.1.position, calculation.2.position)

-- The measurements are the pairs of hits in their order, and a first point that
-- waits for its second is the last hit.
def Paired (hit : List SCNVector3) (controller : ViewController) : Prop :=
  (∃ front last, hit = front ++ [last] ∧ Even front.length ∧ controller.points.map SCNNode.position = [last] ∧
      controller.calculations.map positions = pairs front) ∨
    (Even hit.length ∧ controller.points.length ≠ 1 ∧ controller.calculations.map positions = pairs hit)

theorem pairs_append {Item : Type} (items rest : List Item) (even : Even items.length) :
    pairs (items ++ rest) = pairs items ++ pairs rest := by
  induction items using pairs.induct with
  | case1 one two others ih =>
      rw [List.cons_append, List.cons_append, pairs, pairs, List.cons_append, ih]
      simpa [Nat.even_add_one, parity_simps] using even
  | case2 items short =>
      cases items with
      | nil => rfl
      | cons one others =>
          cases others with
          | nil => exact absurd even Nat.not_even_one
          | cons two others => exact absurd rfl (short one two others)

theorem clear_paired (hit : List SCNVector3) (controller : ViewController) (paired : Paired hit controller) :
    Paired hit (clear controller) := by
  by_cases full : 2 ≤ controller.points.length
  · rcases paired with ⟨front, last, _, _, waiting, _⟩ | ⟨even, _, measured⟩
    · have one := congrArg List.length waiting
      rw [List.length_map, List.length_singleton] at one
      omega
    · rw [clear_full controller full]
      exact Or.inr ⟨even, Nat.zero_ne_one, measured⟩
  · rw [clear_open controller (Nat.lt_of_not_le full)]
    exact paired

theorem touch_paired (history : List Touch) (controller next : ViewController) (touch : Touch)
    (kept : Kept (hits history) controller) (paired : Paired (hits history) controller)
    (moved : touchesBegan controller touch = some next) : Paired (hits (history ++ [touch])) next := by
  have cleared := clear_paired (hits history) controller paired
  rw [hits_snoc]
  rcases touch_cases controller touch (clear_kept (hits history) controller kept).2 with
    ⟨missed, same⟩ | ⟨result, found, empty, same⟩ | ⟨result, start, found, one, same⟩
  · cases same.symm.trans moved
    rw [missed, Option.toList_none, List.append_nil]
    exact cleared
  · cases same.symm.trans moved
    rw [found, Option.toList_some]
    rcases cleared with ⟨front, last, _, _, waiting, _⟩ | ⟨even, _, measured⟩
    · rw [empty] at waiting
      cases waiting
    · refine Or.inl ⟨hits history, result, rfl, even, ?_, measured⟩
      rw [withSphere, empty]
      rfl
  · cases same.symm.trans moved
    rw [found, Option.toList_some]
    rcases cleared with ⟨front, last, split, even, waiting, measured⟩ | ⟨_, notOne, _⟩
    · rw [one] at waiting
      cases waiting
      rw [split, List.append_assoc]
      refine Or.inr ⟨?_, ?_, ?_⟩
      · rw [List.length_append]
        exact even.add even_two
      · change (withSphere (clear controller) result).points.length ≠ 1
        rw [withSphere, one]
        exact Nat.succ_ne_self 1
      · change (withMeasurement (clear controller) start result).calculations.map positions = _
        rw [withMeasurement, List.map_append, measured]
        exact (pairs_append front [start.position, result] even).symm
    · rw [one] at notOne
      exact absurd rfl notOne

theorem run_paired (touches : List Touch) (controller : ViewController)
    (reached : run touchesBegan launched touches = some controller) : Paired (hits touches) controller := by
  have both := run_invariant touchesBegan launched
    (fun history state => Kept (hits history) state ∧ Paired (hits history) state)
    ⟨launched_kept, Or.inr ⟨by decide, by decide, rfl⟩⟩
    (fun history state touch next inv moved =>
      ⟨touch_kept history state next touch inv.1 moved, touch_paired history state next touch inv.1 inv.2 moved⟩)
    touches controller reached
  exact both.2

theorem paired_measured (hit : List SCNVector3) (controller : ViewController) (paired : Paired hit controller) :
    controller.calculations.map positions = pairs hit := by
  rcases paired with ⟨front, last, rfl, even, _, measured⟩ | ⟨_, _, measured⟩
  · rw [measured, pairs_append front [last] even]
    exact (List.append_nil _).symm
  · exact measured

-- In every run, whatever touches miss, the hits are measured two by two, and a text
-- in the scene states the distance of the last two measured.
theorem hits_measured_in_pairs (touches : List Touch) (controller : ViewController)
    (reached : run touchesBegan launched touches = some controller) :
    controller.calculations.map positions = pairs (hits touches) ∧
      ∀ text ∈ controller.rootNode, text.isText = true →
        ∃ start finish, (pairs (hits touches)).getLast? = some (start, finish) ∧
          text.geometry = some (.text (distanceString start finish)) := by
  have measured := paired_measured _ controller (run_paired touches controller reached)
  refine ⟨measured, ?_⟩
  intro text member isText
  have kept := run_kept touches controller reached
  have listed : text ∈ controller.rootNode.filter SCNNode.isText := List.mem_filter.mpr ⟨member, isText⟩
  rw [kept.measured.texts] at listed
  split_ifs at listed with none
  · cases listed
  · rw [List.mem_singleton.mp listed]
    obtain ⟨⟨start, finish⟩, last⟩ : ∃ last, controller.calculations.getLast? = some last :=
      ⟨_, List.getLast?_eq_some_getLast none⟩
    refine ⟨start.position, finish.position, ?_, kept.measured.stated start finish last⟩
    rw [← measured, List.getLast?_map, last]
    rfl

theorem three_hits_one_measured :
    ∃ controller, run touchesBegan launched [some [⟨0, 0, 0⟩], some [⟨1, 0, 0⟩], some [⟨2, 0, 0⟩]] = some controller ∧
      controller.calculations.map positions = [(⟨0, 0, 0⟩, ⟨1, 0, 0⟩)] := by
  obtain ⟨controller, reached⟩ := run_reaches [some [⟨0, 0, 0⟩], some [⟨1, 0, 0⟩], some [⟨2, 0, 0⟩]]
  exact ⟨controller, reached, (hits_measured_in_pairs _ controller reached).1⟩

end Pets.MeasureAR
