import Mathlib.Data.Rat.Defs
import Pets.Library.Lists
import Pets.Library.Transition

set_option autoImplicit false

namespace Pets.DiceeAR

open Pets.Lists Pets.Transition

structure SCNVector3 where
  x : ℚ
  y : ℚ
  z : ℚ
deriving DecidableEq

-- A child of the root node: a die, or the node ARKit adds for an anchor.
structure SCNNode where
  id : ℕ
  isDice : Bool
  position : SCNVector3
deriving DecidableEq

-- SCNAction.rotateBy, in quarter turns about x and z.
structure RollAction where
  dice : SCNNode
  x : ℕ
  z : ℕ
deriving DecidableEq

-- made numbers the nodes and drawn the random draws. actions and removals are
-- history: what runAction and removeFromParentNode were called on.
structure ViewController where
  dicee : List SCNNode
  rootNode : List SCNNode
  made : ℕ
  drawn : ℕ
  actions : List RollAction
  removals : List SCNNode
deriving DecidableEq

def launched : ViewController := ⟨[], [], 0, 0, [], []⟩

def roll (random : ℕ → Fin 4) (controller : ViewController) (dice : SCNNode) : ViewController :=
  let randomX := (random controller.drawn).val + 1
  let randomZ := (random (controller.drawn + 1)).val + 1
  { controller with
    drawn := controller.drawn + 2
    actions := controller.actions ++ [⟨dice, randomX * 3, randomZ * 3⟩] }

-- radius is that of the bounding sphere of the node named Dice in dice.scn, and
-- none when the scene has no such node.
def addDice (random : ℕ → Fin 4) (radius : Option ℚ) (controller : ViewController) (location : SCNVector3) :
    ViewController :=
  match radius with
  | some radius =>
      let dice : SCNNode := ⟨controller.made, true, ⟨location.x, location.y + radius, location.z⟩⟩
      roll random
        { controller with
          made := controller.made + 1
          dicee := controller.dicee ++ [dice]
          rootNode := controller.rootNode ++ [dice] } dice
  | none => controller

def rollAll (random : ℕ → Fin 4) (controller : ViewController) : ViewController :=
  if controller.dicee.isEmpty then controller else controller.dicee.foldl (roll random) controller

def removeFromParentNode (controller : ViewController) (node : SCNNode) : ViewController :=
  { controller with
    rootNode := controller.rootNode.filter (fun child => child ≠ node)
    removals := controller.removals ++ [node] }

def removePressed (controller : ViewController) : ViewController :=
  if controller.dicee.isEmpty then controller else controller.dicee.foldl removeFromParentNode controller

-- touches is the first touch, which may have no raycast query, with the results
-- of its raycast.
def touchesBegan (random : ℕ → Fin 4) (radius : Option ℚ) (controller : ViewController)
    (touches : Option (Option (List SCNVector3))) : ViewController :=
  match touches with
  | some (some results) =>
      match results.head? with
      | some hitResult => addDice random radius controller hitResult
      | none => controller
  | _ => controller

def didAdd (controller : ViewController) (position : SCNVector3) : ViewController :=
  { controller with
    made := controller.made + 1
    rootNode := controller.rootNode ++ [⟨controller.made, false, position⟩] }

inductive Event where
  | touchesBegan (touches : Option (Option (List SCNVector3)))
  | rollPressed
  | motionEnded
  | removePressed
  | didAdd (position : SCNVector3)
deriving DecidableEq

def step (random : ℕ → Fin 4) (radius : Option ℚ) (controller : ViewController) : Event → Option ViewController
  | .touchesBegan touches => some (touchesBegan random radius controller touches)
  | .rollPressed => some (rollAll random controller)
  | .motionEnded => some (rollAll random controller)
  | .removePressed => some (removePressed controller)
  | .didAdd position => some (didAdd controller position)

structure Rolled (controller next : ViewController) (dice : List SCNNode) : Prop where
  dicee : next.dicee = controller.dicee
  rootNode : next.rootNode = controller.rootNode
  made : next.made = controller.made
  removals : next.removals = controller.removals
  actions : ∃ rolled, next.actions = controller.actions ++ rolled ∧ rolled.map RollAction.dice = dice

theorem roll_each (random : ℕ → Fin 4) (dice : List SCNNode) (controller : ViewController) :
    Rolled controller (dice.foldl (roll random) controller) dice := by
  induction dice generalizing controller with
  | nil => exact ⟨rfl, rfl, rfl, rfl, [], (List.append_nil _).symm, rfl⟩
  | cons die rest ih =>
      have later := ih (roll random controller die)
      obtain ⟨rolled, grown, same⟩ := later.actions
      obtain ⟨action, onDie, first⟩ : ∃ action : RollAction, action.dice = die ∧
          (roll random controller die).actions = controller.actions ++ [action] := ⟨_, rfl, rfl⟩
      refine ⟨later.dicee, later.rootNode, later.made, later.removals, action :: rolled, ?_, ?_⟩
      · rw [List.foldl_cons, grown, first, List.append_assoc]
        rfl
      · rw [List.map_cons, onDie, same]

theorem roll_all_rolled (random : ℕ → Fin 4) (controller : ViewController) :
    Rolled controller (rollAll random controller) controller.dicee := by
  rw [rollAll, guarded_foldl]
  exact roll_each random controller.dicee controller

theorem remove_each (dice : List SCNNode) (controller : ViewController) :
    dice.foldl removeFromParentNode controller =
      { controller with
        rootNode := controller.rootNode.filter (fun child => child ∉ dice)
        removals := controller.removals ++ dice } := by
  induction dice generalizing controller with
  | nil => simp
  | cons die rest ih =>
      rw [List.foldl_cons, ih]
      simp only [removeFromParentNode, filter_without_cons, List.append_assoc, List.singleton_append]

theorem remove_pressed_eq (controller : ViewController) :
    removePressed controller =
      { controller with
        rootNode := controller.rootNode.filter (fun child => child ∉ controller.dicee)
        removals := controller.removals ++ controller.dicee } := by
  rw [removePressed, guarded_foldl, remove_each]

theorem touch_cases (random : ℕ → Fin 4) (radius : Option ℚ) (controller : ViewController)
    (touches : Option (Option (List SCNVector3))) :
    touchesBegan random radius controller touches = controller ∨
      ∃ location rest sphere, touches = some (some (location :: rest)) ∧ radius = some sphere ∧
        touchesBegan random radius controller touches = addDice random (some sphere) controller location := by
  match touches with
  | none => exact Or.inl rfl
  | some none => exact Or.inl rfl
  | some (some []) => exact Or.inl rfl
  | some (some (location :: rest)) =>
      cases radius with
      | none => exact Or.inl rfl
      | some sphere => exact Or.inr ⟨location, rest, sphere, rfl, rfl, rfl⟩

end Pets.DiceeAR
