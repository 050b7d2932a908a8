import Pets.MeasureAR.ViewController

set_option autoImplicit false

namespace Pets.MeasureAR

open Pets.Transition

-- The text has the distance of the last measurement and is attached from the first one on.
structure Measured (controller : ViewController) : Prop where
  texts : controller.rootNode.filter SCNNode.isText = if controller.calculations = [] then [] else [controller.text]
  notSphere : controller.text.isSphere = false
  stated : ∀ start finish, controller.calculations.getLast? = some (start, finish) →
    controller.text.geometry = some (.text (distanceString start.position finish.position))
  full : 2 ≤ controller.points.length →
    ∃ start finish, controller.points = [start, finish] ∧ controller.calculations.getLast? = some (start, finish)

structure Kept (hit : List SCNVector3) (controller : ViewController) : Prop where
  attached : controller.rootNode.filter SCNNode.isSphere = controller.points
  tapOrder : controller.points.map SCNNode.position <:+ hit
  measured : Measured controller
  unmeasured : controller.calculations = [] ↔ hit.length < 2
  early : hit.length < 2 → controller.points.length = hit.length

theorem launched_kept : Kept [] launched := by
  refine ⟨rfl, List.suffix_refl _, ⟨rfl, rfl, ?_, ?_⟩, by decide, fun _ => rfl⟩
  · intro start finish impossible
    cases impossible
  · intro impossible
    exact absurd impossible (by decide)

theorem sphere_not_text (node : SCNNode) (sphere : node.isSphere = true) : node.isText = false := by
  rw [SCNNode.isText, of_decide_eq_true sphere]

theorem cleared_spheres (nodes points : List SCNNode) (attached : nodes.filter SCNNode.isSphere = points) :
    (nodes.filter fun child => child ∉ points).filter SCNNode.isSphere = [] := by
  rw [List.filter_eq_nil_iff]
  intro node member sphere
  obtain ⟨child, outside⟩ := List.mem_filter.mp member
  exact of_decide_eq_true outside (attached ▸ List.mem_filter.mpr ⟨child, sphere⟩)

theorem cleared_texts (nodes points : List SCNNode) (attached : nodes.filter SCNNode.isSphere = points) :
    (nodes.filter fun child => child ∉ points).filter SCNNode.isText = nodes.filter SCNNode.isText := by
  rw [List.filter_filter]
  apply List.filter_congr
  intro node child
  by_cases text : node.isText = true
  · have outside : node ∉ points := by
      intro member
      rw [← attached] at member
      exact absurd text (Bool.eq_false_iff.mp (sphere_not_text node (List.mem_filter.mp member).2))
    rw [decide_eq_true outside, Bool.and_true]
  · rw [Bool.eq_false_iff.mpr text, Bool.false_and]

theorem clear_kept (hit : List SCNVector3) (controller : ViewController) (kept : Kept hit controller) :
    Kept hit (clear controller) ∧ (clear controller).points.length < 2 := by
  by_cases full : 2 ≤ controller.points.length
  · rw [clear_full controller full]
    have measured : ¬ hit.length < 2 := by
      intro few
      rw [kept.early few] at full
      omega
    refine ⟨⟨?_, List.nil_suffix, ⟨?_, kept.measured.notSphere, kept.measured.stated, ?_⟩, kept.unmeasured, ?_⟩, ?_⟩
    · exact cleared_spheres _ _ kept.attached
    · exact (cleared_texts _ _ kept.attached).trans kept.measured.texts
    · exact fun impossible => absurd impossible (Nat.not_succ_le_zero 1)
    · exact fun few => absurd few measured
    · exact Nat.zero_lt_two
  · rw [clear_open controller (Nat.lt_of_not_le full)]
    exact ⟨kept, Nat.lt_of_not_le full⟩

theorem clear_calculations (controller : ViewController) : (clear controller).calculations = controller.calculations := by
  by_cases full : 2 ≤ controller.points.length
  · rw [clear_full controller full]
  · rw [clear_open controller (Nat.lt_of_not_le full)]

def sphere (controller : ViewController) (result : SCNVector3) : SCNNode := ⟨controller.made, some .sphere, result⟩

def withSphere (controller : ViewController) (result : SCNVector3) : ViewController :=
  { controller with
    points := controller.points ++ [sphere controller result]
    rootNode := controller.rootNode ++ [sphere controller result]
    made := controller.made + 1 }

def withMeasurement (controller : ViewController) (start : SCNNode) (result : SCNVector3) : ViewController :=
  { withSphere controller result with
    calculations := controller.calculations ++ [(start, sphere controller result)] }

theorem add_first (controller : ViewController) (result : SCNVector3) (empty : controller.points = []) :
    addPoint controller result = some (withSphere controller result) := by
  rw [addPoint, if_neg]
  · rfl
  · simp [addChildNode, empty]

-- Two points are there when the second one is placed, so the indices are in range.
theorem add_second (controller : ViewController) (start : SCNNode) (result : SCNVector3)
    (one : controller.points = [start]) :
    addPoint controller result = some
      (updateText (withMeasurement controller start result) (distanceString start.position result) result) := by
  rw [addPoint, if_pos]
  · simp only [calculate, addChildNode, one]
    simp [withMeasurement, withSphere, one, sphere]
  · simp [addChildNode, one]

theorem update_texts (controller : ViewController) (string : String) (position : SCNVector3)
    (texts : ∀ node ∈ controller.rootNode, node.isText = true → node = controller.text) :
    (updateText controller string position).rootNode.filter SCNNode.isText =
      [(updateText controller string position).text] := by
  have none : (controller.rootNode.filter fun child => child ≠ controller.text).filter SCNNode.isText = [] := by
    rw [List.filter_eq_nil_iff]
    intro node member text
    obtain ⟨child, other⟩ := List.mem_filter.mp member
    exact of_decide_eq_true other (texts node child text)
  simp only [updateText, addChildNode, removeFromParentNode, List.filter_append, none]
  rfl

theorem update_spheres (controller : ViewController) (string : String) (position : SCNVector3)
    (notSphere : controller.text.isSphere = false) :
    (updateText controller string position).rootNode.filter SCNNode.isSphere =
      controller.rootNode.filter SCNNode.isSphere := by
  have kept : (controller.rootNode.filter fun child => child ≠ controller.text).filter SCNNode.isSphere =
      controller.rootNode.filter SCNNode.isSphere := by
    rw [List.filter_filter]
    apply List.filter_congr
    intro node _
    by_cases same : node = controller.text
    · rw [same, notSphere, Bool.false_and]
    · rw [decide_eq_true same, Bool.and_true]
  simp only [updateText, addChildNode, removeFromParentNode, List.filter_append, kept]
  exact List.append_nil _

theorem sphere_attached (controller : ViewController) (result : SCNVector3)
    (attached : controller.rootNode.filter SCNNode.isSphere = controller.points) :
    (withSphere controller result).rootNode.filter SCNNode.isSphere = (withSphere controller result).points := by
  rw [withSphere, List.filter_append, attached]
  rfl

theorem sphere_texts (controller : ViewController) (result : SCNVector3) :
    (withSphere controller result).rootNode.filter SCNNode.isText = controller.rootNode.filter SCNNode.isText := by
  rw [withSphere, List.filter_append]
  exact List.append_nil _

theorem sphere_tap_order (hit : List SCNVector3) (controller : ViewController) (result : SCNVector3)
    (order : controller.points.map SCNNode.position <:+ hit) :
    (withSphere controller result).points.map SCNNode.position <:+ hit ++ [result] := by
  rw [withSphere, List.map_append]
  exact List.suffix_concat_iff.mpr (Or.inr ⟨_, rfl, order⟩)

theorem first_kept (hit : List SCNVector3) (controller : ViewController) (result : SCNVector3)
    (kept : Kept hit controller) (empty : controller.points = []) :
    Kept (hit ++ [result]) (withSphere controller result) := by
  have measured := kept.measured
  have early := kept.early
  rw [empty, List.length_nil] at early
  have one : (withSphere controller result).points.length = 1 := by rw [withSphere, empty]; rfl
  refine ⟨sphere_attached controller result kept.attached, sphere_tap_order hit controller result kept.tapOrder,
    ⟨?_, measured.notSphere, measured.stated, ?_⟩, ?_, ?_⟩
  · exact (sphere_texts controller result).trans measured.texts
  · intro full
    omega
  · refine kept.unmeasured.trans ?_
    rw [List.length_append, List.length_singleton]
    omega
  · rw [one, List.length_append, List.length_singleton]
    omega

theorem text_is_text (controller : ViewController) (measured : Measured controller) :
    ∀ node ∈ controller.rootNode, node.isText = true → node = controller.text := by
  intro node member text
  have listed : node ∈ controller.rootNode.filter SCNNode.isText := List.mem_filter.mpr ⟨member, text⟩
  rw [measured.texts] at listed
  split at listed
  · cases listed
  · exact List.mem_singleton.mp listed

theorem second_kept (hit : List SCNVector3) (controller : ViewController) (start : SCNNode) (result : SCNVector3)
    (kept : Kept hit controller) (one : controller.points = [start]) :
    Kept (hit ++ [result])
      (updateText (withMeasurement controller start result) (distanceString start.position result) result) := by
  have measured := kept.measured
  have early := kept.early
  rw [one, List.length_singleton] at early
  have attached := sphere_attached controller result kept.attached
  have points : (withSphere controller result).points = [start, sphere controller result] := by rw [withSphere, one]; rfl
  have texts : ∀ node ∈ (withMeasurement controller start result).rootNode, node.isText = true →
      node = controller.text := by
    intro node member text
    rcases List.mem_append.mp member with earlier | now
    · exact text_is_text controller measured node earlier text
    · rw [List.mem_singleton.mp now] at text
      cases text
  refine ⟨?_, sphere_tap_order hit controller result kept.tapOrder, ⟨?_, rfl, ?_, ?_⟩, ?_, ?_⟩
  · exact (update_spheres (withMeasurement controller start result) _ _ measured.notSphere).trans attached
  · rw [update_texts (withMeasurement controller start result) _ _ texts, if_neg]
    exact List.append_ne_nil_of_right_ne_nil _ (List.cons_ne_nil _ _)
  · intro first second last
    have same : some (start, sphere controller result) = some (first, second) := List.getLast?_concat.symm.trans last
    cases same
    rfl
  · intro _
    exact ⟨start, sphere controller result, points, List.getLast?_concat⟩
  · refine iff_of_false (List.append_ne_nil_of_right_ne_nil _ (List.cons_ne_nil _ _)) ?_
    rw [List.length_append, List.length_singleton]
    omega
  · rw [List.length_append, List.length_singleton]
    omega

theorem touch_cases (controller : ViewController) (touch : Touch) (lacking : (clear controller).points.length < 2) :
    (touch.hit = none ∧ touchesBegan controller touch = some (clear controller)) ∨
      (∃ result, touch.hit = some result ∧ (clear controller).points = [] ∧
        touchesBegan controller touch = some (withSphere (clear controller) result)) ∨
      ∃ result start, touch.hit = some result ∧ (clear controller).points = [start] ∧
        touchesBegan controller touch = some
          (updateText (withMeasurement (clear controller) start result) (distanceString start.position result) result) := by
  rw [touch_eq]
  cases touch.hit with
  | none => exact Or.inl ⟨rfl, rfl⟩
  | some result =>
      cases points : (clear controller).points with
      | nil => exact Or.inr (Or.inl ⟨result, rfl, rfl, add_first (clear controller) result points⟩)
      | cons start rest =>
          rw [points, List.length_cons] at lacking
          have alone : rest = [] := List.length_eq_zero_iff.mp (by omega)
          subst alone
          exact Or.inr (Or.inr ⟨result, start, rfl, rfl, add_second (clear controller) start result points⟩)

theorem touch_kept (history : List Touch) (controller next : ViewController) (touch : Touch)
    (kept : Kept (hits history) controller) (moved : touchesBegan controller touch = some next) :
    Kept (hits (history ++ [touch])) next := by
  obtain ⟨cleared, lacking⟩ := clear_kept (hits history) controller kept
  rw [hits_snoc]
  rcases touch_cases controller touch lacking with
    ⟨missed, same⟩ | ⟨result, hit, empty, same⟩ | ⟨result, start, hit, one, same⟩
  · cases same.symm.trans moved
    rw [missed, Option.toList_none, List.append_nil]
    exact cleared
  · cases same.symm.trans moved
    rw [hit, Option.toList_some]
    exact first_kept (hits history) (clear controller) result cleared empty
  · cases same.symm.trans moved
    rw [hit, Option.toList_some]
    exact second_kept (hits history) (clear controller) start result cleared one

theorem touch_survives (hit : List SCNVector3) (controller : ViewController) (touch : Touch)
    (kept : Kept hit controller) : ∃ next, touchesBegan controller touch = some next := by
  rcases touch_cases controller touch (clear_kept hit controller kept).2 with
    ⟨_, same⟩ | ⟨_, _, _, same⟩ | ⟨_, _, _, _, same⟩
  · exact ⟨_, same⟩
  · exact ⟨_, same⟩
  · exact ⟨_, same⟩

theorem run_kept (touches : List Touch) (controller : ViewController)
    (reached : run touchesBegan launched touches = some controller) : Kept (hits touches) controller := by
  apply run_invariant touchesBegan launched (fun history => Kept (hits history)) launched_kept _ touches controller reached
  exact fun history state touch next kept moved => touch_kept history state next touch kept moved

theorem run_reaches (touches : List Touch) : ∃ controller, run touchesBegan launched touches = some controller := by
  apply Option.isSome_iff_exists.mp
  rw [run_survives_iff]
  intro before touch after controller _ reached
  obtain ⟨next, moved⟩ := touch_survives (hits before) controller touch (run_kept before controller reached)
  rw [moved]
  rfl

end Pets.MeasureAR
