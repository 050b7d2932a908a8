import Pets.Library.Lists
import Pets.Library.Root
import Pets.Library.Transition

set_option autoImplicit false

namespace Pets.MeasureAR

open Pets.Lists Pets.Printed Pets.Transition

structure SCNVector3 where
  x : ℚ
  y : ℚ
  z : ℚ
deriving DecidableEq

inductive SCNGeometry where
  | sphere
  | text (string : String)
deriving DecidableEq

structure SCNNode where
  id : ℕ
  geometry : Option SCNGeometry
  position : SCNVector3
deriving DecidableEq

def SCNNode.isSphere (node : SCNNode) : Bool := node.geometry = some .sphere

def SCNNode.isText (node : SCNNode) : Bool :=
  match node.geometry with
  | some (.text _) => true
  | _ => false

-- made numbers the nodes. calculations is history: the two nodes that each call
-- of calculate has measured.
structure ViewController where
  points : List SCNNode
  text : SCNNode
  rootNode : List SCNNode
  made : ℕ
  calculations : List (SCNNode × SCNNode)
deriving DecidableEq

-- The first text is a node without a geometry and without a parent.
def launched : ViewController := ⟨[], ⟨0, none, ⟨0, 0, 0⟩⟩, [], 1, []⟩

def addChildNode (controller : ViewController) (node : SCNNode) : ViewController :=
  { controller with rootNode := controller.rootNode ++ [node] }

def removeFromParentNode (controller : ViewController) (node : SCNNode) : ViewController :=
  { controller with rootNode := controller.rootNode.filter (fun child => child ≠ node) }

def updateText (controller : ViewController) (string : String) (position : SCNVector3) : ViewController :=
  let removed := removeFromParentNode controller controller.text
  let text : SCNNode := ⟨removed.made, some (.text string), position⟩
  addChildNode { removed with text := text, made := removed.made + 1 } text

def squaredDistance (start finish : SCNVector3) : ℚ :=
  (finish.x - start.x) ^ 2 + (finish.y - start.y) ^ 2 + (finish.z - start.z) ^ 2

-- String(format: "%.1f", abs(distance) * 100): a thousand times the root, as
-- the root of a million times the square, in tenths.
def distanceString (start finish : SCNVector3) : String :=
  String.ofList (pointed 1 (nearestRoot (squaredDistance start finish * 1000 ^ 2)).toNat) ++ " cm"

def calculate (controller : ViewController) : Option ViewController :=
  match controller.points[0]?, controller.points[1]? with
  | some start, some finish =>
      some (updateText { controller with calculations := controller.calculations ++ [(start, finish)] }
        (distanceString start.position finish.position) finish.position)
  | _, _ => none

def addPoint (controller : ViewController) (result : SCNVector3) : Option ViewController :=
  let point : SCNNode := ⟨controller.made, some .sphere, result⟩
  let added := addChildNode { controller with made := controller.made + 1 } point
  let placed := { added with points := added.points ++ [point] }
  if 2 ≤ placed.points.length then calculate placed else some placed

def clear (controller : ViewController) : ViewController :=
  if 2 ≤ controller.points.length then
    { controller.points.foldl removeFromParentNode controller with points := [] }
  else controller

-- The first touch with the positions of the feature points that its hit test finds.
abbrev Touch := Option (List SCNVector3)

def touchesBegan (controller : ViewController) (touches : Touch) : Option ViewController :=
  let cleared := clear controller
  match touches with
  | some results =>
      match results.head? with
      | some result => addPoint cleared result
      | none => some cleared
  | none => some cleared

def Touch.hit (touch : Touch) : Option SCNVector3 := touch.bind List.head?

def hits (touches : List Touch) : List SCNVector3 := touches.filterMap Touch.hit

theorem hits_snoc (history : List Touch) (touch : Touch) :
    hits (history ++ [touch]) = hits history ++ touch.hit.toList := by
  rw [hits, List.filterMap_append]
  cases found : touch.hit with
  | none => simp [hits, found]
  | some result => simp [hits, found]

theorem touch_eq (controller : ViewController) (touch : Touch) :
    touchesBegan controller touch =
      match touch.hit with
      | some result => addPoint (clear controller) result
      | none => some (clear controller) := by
  cases touch with
  | none => rfl
  | some results => cases results <;> rfl

theorem remove_each (nodes : List SCNNode) (controller : ViewController) :
    nodes.foldl removeFromParentNode controller =
      { controller with rootNode := controller.rootNode.filter (fun child => child ∉ nodes) } := by
  induction nodes generalizing controller with
  | nil => simp
  | cons node rest ih =>
      rw [List.foldl_cons, ih]
      simp only [removeFromParentNode, filter_without_cons]

theorem clear_full (controller : ViewController) (full : 2 ≤ controller.points.length) :
    clear controller =
      { controller with
        points := []
        rootNode := controller.rootNode.filter (fun child => child ∉ controller.points) } := by
  rw [clear, if_pos full, remove_each]

theorem clear_open (controller : ViewController) (lacking : controller.points.length < 2) :
    clear controller = controller := if_neg (Nat.not_le.mpr lacking)

-- Where the distance is rational, the text is its hundredfold with one place.
theorem distance_rational (start finish : SCNVector3) (distance : ℚ) (nonneg : 0 ≤ distance)
    (square : squaredDistance start finish = distance ^ 2) :
    distanceString start finish = String.ofList (formatted 1 (.finite (distance * 100))) ++ " cm" := by
  have tenths : squaredDistance start finish * 1000 ^ 2 = (distance * 100 * 10 ^ 1) ^ 2 := by
    rw [square]
    ring
  rw [distanceString, tenths, nearest_root_sq _ (by positivity), formatted_nonneg 1 _ (by positivity)]

theorem distance_close (start finish : SCNVector3) :
    |(nearestRoot (squaredDistance start finish * 1000 ^ 2) : ℝ) - 1000 * √(squaredDistance start finish : ℝ)| ≤ 1 / 2 := by
  have nonneg : 0 ≤ squaredDistance start finish := by
    rw [squaredDistance]
    positivity
  have close := nearest_root_close (squaredDistance start finish * 1000 ^ 2) (by positivity)
  have scaled : √((squaredDistance start finish * 1000 ^ 2 : ℚ) : ℝ) = 1000 * √(squaredDistance start finish : ℝ) := by
    push_cast
    rw [mul_comm, Real.sqrt_mul (by positivity), Real.sqrt_sq (by positivity)]
  rwa [scaled] at close

end Pets.MeasureAR
