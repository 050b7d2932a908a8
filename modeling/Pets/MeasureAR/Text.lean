import Pets.MeasureAR.Measurement

set_option autoImplicit false

namespace Pets.MeasureAR

open Pets.Transition

def TextBelongs (controller : ViewController) : Prop :=
  ∀ text ∈ controller.rootNode, text.isText = true → ∃ start finish,
    controller.calculations.getLast? = some (start, finish) ∧
    text.geometry = some (.text (distanceString start.position finish.position)) ∧
    start ∈ controller.rootNode ∧ finish ∈ controller.rootNode ∧ controller.points = [start, finish]

theorem points_in_scene (controller : ViewController)
    (attached : controller.rootNode.filter SCNNode.isSphere = controller.points) :
    ∀ point ∈ controller.points, point ∈ controller.rootNode := by
  intro point member
  rw [← attached] at member
  exact (List.mem_filter.mp member).1

theorem belongs_iff (hit : List SCNVector3) (controller : ViewController) (kept : Kept hit controller) :
    TextBelongs controller ↔ hit.length < 2 ∨ 2 ≤ controller.points.length := by
  by_cases few : hit.length < 2
  · refine iff_of_true ?_ (Or.inl few)
    intro text member isText
    have listed : text ∈ controller.rootNode.filter SCNNode.isText := List.mem_filter.mpr ⟨member, isText⟩
    rw [kept.measured.texts, if_pos (kept.unmeasured.mpr few)] at listed
    cases listed
  · rw [or_iff_right few]
    constructor
    · intro belongs
      have shown : controller.text ∈ controller.rootNode.filter SCNNode.isText := by
        rw [kept.measured.texts, if_neg (mt kept.unmeasured.mp few)]
        exact List.mem_singleton_self _
      obtain ⟨member, isText⟩ := List.mem_filter.mp shown
      obtain ⟨start, finish, _, _, _, _, points⟩ := belongs controller.text member isText
      rw [points]
      exact le_rfl
    · intro full text member isText
      obtain ⟨start, finish, points, last⟩ := kept.measured.full full
      have inScene := points_in_scene controller kept.attached
      rw [points] at inScene
      rw [text_is_text controller kept.measured text member isText]
      exact ⟨start, finish, last, kept.measured.stated start finish last, inScene start List.mem_cons_self,
        inScene finish (List.mem_cons_of_mem _ List.mem_cons_self), points⟩

theorem touch_points (hit : List SCNVector3) (controller next : ViewController) (touch : Touch)
    (kept : Kept hit controller) (moved : touchesBegan controller touch = some next) :
    next.points.length = (clear controller).points.length + touch.hit.toList.length := by
  rcases touch_cases controller touch (clear_kept hit controller kept).2 with
    ⟨missed, same⟩ | ⟨result, found, empty, same⟩ | ⟨result, start, found, one, same⟩
  · cases same.symm.trans moved
    rw [missed]
    rfl
  · cases same.symm.trans moved
    rw [found]
    exact List.length_append
  · cases same.symm.trans moved
    rw [found]
    exact List.length_append

-- The touch after a measurement takes its points away and leaves its text.
theorem touch_after_measurement (history : List Touch) (controller next : ViewController) (touch : Touch)
    (kept : Kept (hits history) controller) (enough : 2 ≤ (hits history).length) (full : 2 ≤ controller.points.length)
    (moved : touchesBegan controller touch = some next) : ¬ TextBelongs next := by
  rw [belongs_iff _ next (touch_kept history controller next touch kept moved), not_or]
  have count := touch_points (hits history) controller next touch kept moved
  rw [clear_full controller full] at count
  have atMostOne : touch.hit.toList.length ≤ 1 := by
    cases touch.hit with
    | none => exact Nat.zero_le 1
    | some result => exact le_rfl
  refine ⟨?_, ?_⟩
  · rw [hits_snoc, List.length_append]
    omega
  · rw [count]
    change ¬ 2 ≤ 0 + _
    omega

theorem touch_before_measurement (history : List Touch) (controller next : ViewController) (touch : Touch)
    (kept : Kept (hits history) controller) (few : (hits history).length < 2)
    (moved : touchesBegan controller touch = some next) : TextBelongs next := by
  rw [belongs_iff _ next (touch_kept history controller next touch kept moved)]
  have count := touch_points (hits history) controller next touch kept moved
  have early := kept.early few
  rw [clear_open controller (by omega)] at count
  rw [hits_snoc, List.length_append]
  omega

theorem text_belongs_iff (touches : List Touch) :
    Always touchesBegan launched (fun _ => TextBelongs) touches ↔
      ∀ before touch after, touches = before ++ touch :: after → (hits before).length < 2 := by
  constructor
  · intro belongs before touch after split
    by_contra many
    obtain ⟨state, reached⟩ := run_reaches before
    have kept := run_kept before state reached
    have full := (belongs_iff _ state kept).mp (belongs before (touch :: after) state split reached)
    obtain ⟨next, moved⟩ := touch_survives (hits before) state touch kept
    apply touch_after_measurement before state next touch kept (by omega) (by omega) moved
    exact always_next touchesBegan launched (fun _ => TextBelongs) touches belongs before after touch state next split reached
      moved
  · intro few
    apply always_from_steps touchesBegan launched (fun _ => TextBelongs) touches
    · exact (belongs_iff [] launched launched_kept).mpr (Or.inl Nat.zero_lt_two)
    · intro before touch after state next split reached moved _
      exact touch_before_measurement before state next touch (run_kept before state reached)
        (few before touch after split) moved

-- Two hits a metre apart and a touch that misses: the text is alone in the scene.
theorem text_outlives_points :
    ¬ Always touchesBegan launched (fun _ => TextBelongs) [some [⟨0, 0, 0⟩], some [⟨1, 0, 0⟩], some []] ∧
      (run touchesBegan launched [some [⟨0, 0, 0⟩], some [⟨1, 0, 0⟩], some []]).map (fun controller =>
        (controller.points, controller.rootNode.map SCNNode.geometry)) = some ([], [some (.text "100.0 cm")]) := by
  have shown : (run touchesBegan launched [some [⟨0, 0, 0⟩], some [⟨1, 0, 0⟩], some []]).map (fun controller =>
      (controller.points, controller.rootNode.map SCNNode.geometry)) = some ([], [some (.text "100.0 cm")]) := by
    decide +kernel
  refine ⟨?_, shown⟩
  intro belongs
  obtain ⟨state, reached, seen⟩ := Option.map_eq_some_iff.mp shown
  obtain ⟨empty, geometries⟩ := Prod.mk.inj seen
  obtain ⟨text, member, geometry⟩ : ∃ text ∈ state.rootNode, text.geometry = some (.text "100.0 cm") := by
    apply List.mem_map.mp
    rw [geometries]
    exact List.mem_singleton_self _
  obtain ⟨start, finish, _, _, _, _, points⟩ :=
    belongs _ [] state (List.append_nil _).symm reached text member (by rw [SCNNode.isText, geometry])
  rw [empty] at points
  cases points

end Pets.MeasureAR
