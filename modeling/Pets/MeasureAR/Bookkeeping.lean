import Pets.MeasureAR.Pairs

set_option autoImplicit false

namespace Pets.MeasureAR

open Pets.Transition

structure Bookkept (history : List Touch) (controller : ViewController) : Prop where
  atMostTwo : controller.points.length ≤ 2
  attached : controller.rootNode.filter SCNNode.isSphere = controller.points
  tapOrder : controller.points.map SCNNode.position <:+ hits history
  oneText : (controller.rootNode.filter SCNNode.isText).length ≤ 1
  measured : controller.calculations.map positions = pairs (hits history)

-- The hit that waits for its partner: none after an even number of hits.
def unpaired (history : List Touch) : List SCNVector3 := (hits history).drop (2 * ((hits history).length / 2))

-- A touch does not trap and places a point where it hits. When that is the second one of a
-- measurement, calculate measures the two points, the last two hits, and otherwise nothing.
def Calculates (history : List Touch) (controller : ViewController) (touch : Touch) : Prop :=
  ∃ next, touchesBegan controller touch = some next ∧
    next.points.map SCNNode.position = unpaired history ++ touch.hit.toList ∧
    if (unpaired history).length = 1 ∧ touch.hit.isSome then
      ∃ start finish, next.points = [start, finish] ∧
        next.calculations = controller.calculations ++ [(start, finish)] ∧
        [start.position, finish.position] <:+ hits (history ++ [touch])
    else next.calculations = controller.calculations

theorem cleared_points (history : List Touch) (controller : ViewController) (kept : Kept (hits history) controller)
    (paired : Paired (hits history) controller) :
    (clear controller).points.map SCNNode.position = unpaired history := by
  have lacking := (clear_kept (hits history) controller kept).2
  rcases clear_paired (hits history) controller paired with
    ⟨front, last, split, even, waiting, _⟩ | ⟨even, notOne, _⟩
  · have half : 2 * ((front ++ [last]).length / 2) = front.length := by
      rw [List.length_append, List.length_singleton]
      obtain ⟨k, double⟩ := even
      omega
    rw [waiting, unpaired, split, half, List.drop_left]
  · have half : 2 * ((hits history).length / 2) = (hits history).length := Nat.two_mul_div_two_of_even even
    rw [unpaired, half, List.drop_length, List.map_eq_nil_iff]
    exact List.length_eq_zero_iff.mp (by omega)

theorem touch_calculates (history : List Touch) (controller : ViewController) (touch : Touch)
    (kept : Kept (hits history) controller) (paired : Paired (hits history) controller) :
    Calculates history controller touch := by
  have lacking := (clear_kept (hits history) controller kept).2
  have log := clear_calculations controller
  have waiting := cleared_points history controller kept paired
  rcases touch_cases controller touch lacking with
    ⟨missed, same⟩ | ⟨result, hit, empty, same⟩ | ⟨result, start, hit, one, same⟩
  · refine ⟨_, same, ?_, ?_⟩
    · rw [waiting, missed, Option.toList_none, List.append_nil]
    · rw [if_neg (by simp [missed])]
      exact log
  · rw [empty] at waiting
    refine ⟨_, same, ?_, ?_⟩
    · rw [withSphere, empty, ← waiting, hit]
      rfl
    · rw [if_neg (by simp [← waiting])]
      exact log
  · have kept' := touch_kept history controller _ touch kept same
    rw [one] at waiting
    have points : (withSphere (clear controller) result).points = [start, sphere (clear controller) result] := by
      rw [withSphere, one]
      rfl
    refine ⟨_, same, ?_, ?_⟩
    · change (withSphere (clear controller) result).points.map SCNNode.position = _
      rw [points, ← waiting, hit]
      rfl
    · rw [if_pos ⟨by rw [← waiting]; rfl, by rw [hit]; rfl⟩]
      refine ⟨start, sphere (clear controller) result, points, ?_, ?_⟩
      · change (clear controller).calculations ++ _ = _
        rw [log]
      · have order := kept'.tapOrder
        change (withSphere (clear controller) result).points.map SCNNode.position <:+ _ at order
        rwa [points] at order

theorem kept_bookkept (history : List Touch) (controller : ViewController) (kept : Kept (hits history) controller)
    (paired : Paired (hits history) controller) : Bookkept history controller := by
  refine ⟨?_, kept.attached, kept.tapOrder, ?_, paired_measured (hits history) controller paired⟩
  · by_contra many
    obtain ⟨start, finish, points, _⟩ := kept.measured.full (by omega)
    rw [points] at many
    exact many le_rfl
  · rw [kept.measured.texts]
    split
    · exact Nat.zero_le 1
    · exact le_rfl

theorem points_bookkept (touches : List Touch) :
    (run touchesBegan launched touches).isSome ∧ Always touchesBegan launched Bookkept touches ∧
      Along touchesBegan launched Calculates touches := by
  refine ⟨Option.isSome_iff_exists.mpr (run_reaches touches), ?_, ?_⟩
  · intro before _ state _ reached
    exact kept_bookkept before state (run_kept before state reached) (run_paired before state reached)
  · intro before touch _ state _ reached
    exact touch_calculates before state touch (run_kept before state reached) (run_paired before state reached)

-- Of a hit, a miss and a second hit the two hits are the points, and they are measured.
theorem two_hits_bookkept :
    ∃ controller, run touchesBegan launched [some [⟨0, 0, 0⟩], some [], some [⟨1, 0, 0⟩]] = some controller ∧
      controller.points.map SCNNode.position = [⟨0, 0, 0⟩, ⟨1, 0, 0⟩] ∧
      controller.calculations.map positions = [(⟨0, 0, 0⟩, ⟨1, 0, 0⟩)] := by
  obtain ⟨_, always, along⟩ := points_bookkept [some [⟨0, 0, 0⟩], some [], some [⟨1, 0, 0⟩]]
  obtain ⟨state, reached⟩ := run_reaches [some [⟨0, 0, 0⟩], some []]
  obtain ⟨next, moved, placed, _⟩ := along [some [⟨0, 0, 0⟩], some []] (some [⟨1, 0, 0⟩]) [] state rfl reached
  have ran : run touchesBegan launched ([some [⟨0, 0, 0⟩], some []] ++ [some [⟨1, 0, 0⟩]]) = some next := by
    rw [run_snoc, reached]
    exact moved
  exact ⟨next, ran, placed, (always _ [] next (List.append_nil _).symm ran).measured⟩

end Pets.MeasureAR
