import Pets.DiceeAR.ViewController

set_option autoImplicit false

namespace Pets.DiceeAR

open Pets.Lists Pets.Transition

structure Bookkept (controller : ViewController) : Prop where
  once : controller.dicee.Nodup
  exact : ∀ node, node ∈ controller.dicee ↔ node ∈ controller.rootNode ∧ node.isDice = true

structure ActsOnVisible (controller next : ViewController) : Prop where
  rolled : ∀ action ∈ next.actions.drop controller.actions.length, action.dice ∈ next.rootNode
  removed : ∀ node ∈ next.removals.drop controller.removals.length, node ∈ controller.rootNode

def VisibleOnly (random : ℕ → Fin 4) (radius : Option ℚ) (controller : ViewController) (event : Event) : Prop :=
  ∀ next, step random radius controller event = some next → ActsOnVisible controller next

def Placed (radius : Option ℚ) (history : List Event) : Prop :=
  radius.isSome = true ∧ ∃ location rest, .touchesBegan (some (some (location :: rest))) ∈ history

def NeverRemovesPlaced (radius : Option ℚ) (history : List Event) (event : Event) : Prop :=
  event = .removePressed → ¬ Placed radius history

structure Numbered (radius : Option ℚ) (history : List Event) (controller : ViewController) : Prop where
  dicee : ∀ node ∈ controller.dicee, node.id < controller.made
  rootNode : ∀ node ∈ controller.rootNode, node.id < controller.made
  placed : Placed radius history ↔ controller.dicee ≠ []

theorem placed_snoc (radius : Option ℚ) (history : List Event) (event : Event) :
    Placed radius (history ++ [event]) ↔ Placed radius history ∨
      (radius.isSome = true ∧ ∃ location rest, event = .touchesBegan (some (some (location :: rest)))) := by
  simp only [Placed, List.mem_append, List.mem_singleton, exists_or, and_or_left, eq_comm]

theorem touch_misses (radius : Option ℚ) (history : List Event) (event : Event)
    (other : ¬ (radius.isSome = true ∧ ∃ location rest, event = .touchesBegan (some (some (location :: rest))))) :
    Placed radius (history ++ [event]) ↔ Placed radius history := by
  rw [placed_snoc, or_iff_left other]

theorem launched_bookkept : Bookkept launched := by
  refine ⟨List.nodup_nil, ?_⟩
  intro node
  simp [launched]

theorem launched_numbered (radius : Option ℚ) : Numbered radius [] launched := by
  refine ⟨?_, ?_, ?_⟩
  · intro node impossible
    cases impossible
  · intro node impossible
    cases impossible
  · simp [Placed, launched]

theorem rolled_bookkept (controller next : ViewController) (dice : List SCNNode) (rolled : Rolled controller next dice)
    (inv : Bookkept controller) : Bookkept next := by
  refine ⟨?_, ?_⟩
  · rw [rolled.dicee]
    exact inv.once
  · rw [rolled.dicee, rolled.rootNode]
    exact inv.exact

theorem rolled_numbered (radius : Option ℚ) (history later : List Event) (controller next : ViewController)
    (dice : List SCNNode) (rolled : Rolled controller next dice) (inv : Numbered radius history controller)
    (same : Placed radius later ↔ Placed radius history) : Numbered radius later next := by
  refine ⟨?_, ?_, ?_⟩
  · rw [rolled.dicee, rolled.made]
    exact inv.dicee
  · rw [rolled.rootNode, rolled.made]
    exact inv.rootNode
  · rw [same, rolled.dicee]
    exact inv.placed

theorem nothing_new {Entry : Type} (log : List Entry) (property : Entry → Prop) :
    ∀ entry ∈ log.drop log.length, property entry := by
  rw [List.drop_length]
  intro entry impossible
  cases impossible

theorem rolled_visible (controller next : ViewController) (rolled : Rolled controller next controller.dicee)
    (inv : Bookkept controller) : ActsOnVisible controller next := by
  obtain ⟨actions, grown, onDice⟩ := rolled.actions
  refine ⟨?_, ?_⟩
  · intro action member
    rw [grown, List.drop_left] at member
    have inArray : action.dice ∈ controller.dicee := onDice ▸ List.mem_map_of_mem member
    rw [rolled.rootNode]
    exact ((inv.exact action.dice).mp inArray).1
  · rw [rolled.removals]
    exact nothing_new _ _

-- The controller as addDice leaves it, but for the roll.
def placing (controller : ViewController) (dice : SCNNode) : ViewController :=
  { controller with
    made := controller.made + 1
    dicee := controller.dicee ++ [dice]
    rootNode := controller.rootNode ++ [dice] }

theorem add_dice_rolls (random : ℕ → Fin 4) (radius : ℚ) (controller : ViewController) (location : SCNVector3) :
    ∃ dice : SCNNode, dice.id = controller.made ∧ dice.isDice = true ∧
      Rolled (placing controller dice) (addDice random (some radius) controller location) [dice] :=
  ⟨_, rfl, rfl, roll_each random [_] _⟩

theorem placing_bookkept (controller : ViewController) (dice : SCNNode) (isDice : dice.isDice = true)
    (unused : dice ∉ controller.dicee) (inv : Bookkept controller) : Bookkept (placing controller dice) := by
  refine ⟨nodup_snoc _ _ inv.once unused, ?_⟩
  intro node
  simp only [placing, List.mem_append, List.mem_singleton]
  constructor
  · intro member
    rcases member with earlier | now
    · exact ⟨Or.inl ((inv.exact node).mp earlier).1, ((inv.exact node).mp earlier).2⟩
    · exact ⟨Or.inr now, now ▸ isDice⟩
  · intro ⟨member, die⟩
    rcases member with earlier | now
    · exact Or.inl ((inv.exact node).mpr ⟨earlier, die⟩)
    · exact Or.inr now

theorem snoc_numbered (nodes : List SCNNode) (node : SCNNode) (made : ℕ) (fresh : node.id = made)
    (below : ∀ other ∈ nodes, other.id < made) : ∀ other ∈ nodes ++ [node], other.id < made + 1 := by
  intro other member
  rcases List.mem_append.mp member with earlier | now
  · exact Nat.lt_succ_of_lt (below other earlier)
  · rw [List.mem_singleton.mp now, fresh]
    exact Nat.lt_succ_self made

theorem add_dice_numbered (random : ℕ → Fin 4) (radius : ℚ) (history : List Event) (controller : ViewController)
    (location : SCNVector3) (rest : List SCNVector3) (inv : Numbered (some radius) history controller) :
    Numbered (some radius) (history ++ [.touchesBegan (some (some (location :: rest)))])
      (addDice random (some radius) controller location) := by
  obtain ⟨dice, fresh, _, rolled⟩ := add_dice_rolls random radius controller location
  refine ⟨?_, ?_, ?_⟩
  · rw [rolled.dicee, rolled.made]
    exact snoc_numbered controller.dicee dice controller.made fresh inv.dicee
  · rw [rolled.rootNode, rolled.made]
    exact snoc_numbered controller.rootNode dice controller.made fresh inv.rootNode
  · rw [rolled.dicee]
    refine ⟨fun _ => List.append_ne_nil_of_right_ne_nil _ (List.cons_ne_nil _ _), fun _ => ?_⟩
    exact (placed_snoc _ _ _).mpr (Or.inr ⟨rfl, location, rest, rfl⟩)

theorem add_dice_bookkept (random : ℕ → Fin 4) (radius : ℚ) (history : List Event) (controller : ViewController)
    (location : SCNVector3) (numbered : Numbered (some radius) history controller) (inv : Bookkept controller) :
    Bookkept (addDice random (some radius) controller location) ∧
      ActsOnVisible controller (addDice random (some radius) controller location) := by
  obtain ⟨dice, fresh, isDice, rolled⟩ := add_dice_rolls random radius controller location
  have unused : dice ∉ controller.dicee := by
    intro member
    have below := numbered.dicee dice member
    rw [fresh] at below
    exact Nat.lt_irrefl _ below
  refine ⟨rolled_bookkept _ _ _ rolled (placing_bookkept controller dice isDice unused inv), ?_, ?_⟩
  · obtain ⟨actions, grown, onDice⟩ := rolled.actions
    intro action member
    rw [grown, placing, List.drop_left] at member
    have rolledDice : action.dice ∈ [dice] := onDice ▸ List.mem_map_of_mem member
    rw [rolled.rootNode, List.mem_singleton.mp rolledDice]
    exact List.mem_append_right _ (List.mem_singleton_self _)
  · rw [rolled.removals]
    exact nothing_new _ _

theorem did_add_bookkept (controller : ViewController) (position : SCNVector3) (inv : Bookkept controller) :
    Bookkept (didAdd controller position) := by
  refine ⟨inv.once, ?_⟩
  intro node
  simp only [didAdd, List.mem_append, List.mem_singleton]
  rw [inv.exact node]
  constructor
  · intro ⟨member, die⟩
    exact ⟨Or.inl member, die⟩
  · intro ⟨member, die⟩
    rcases member with earlier | now
    · exact ⟨earlier, die⟩
    · rw [now] at die
      cases die

theorem removed_dice_stay (controller : ViewController) (inv : Bookkept (removePressed controller)) :
    controller.dicee = [] := by
  cases dice : controller.dicee with
  | nil => rfl
  | cons die rest =>
      rw [remove_pressed_eq] at inv
      have child := ((inv.exact die).mp (dice ▸ List.mem_cons_self)).1
      have outside := (List.mem_filter.mp child).2
      simp [dice] at outside

theorem remove_none (controller : ViewController) (empty : controller.dicee = []) : removePressed controller = controller := by
  rw [removePressed, empty, List.isEmpty_nil, if_pos rfl]

theorem remove_numbered (radius : Option ℚ) (history : List Event) (controller : ViewController)
    (inv : Numbered radius history controller) :
    Numbered radius (history ++ [.removePressed]) (removePressed controller) := by
  rw [remove_pressed_eq]
  refine ⟨inv.dicee, ?_, ?_⟩
  · intro node member
    exact inv.rootNode node (List.mem_filter.mp member).1
  · rw [touch_misses radius history .removePressed (by simp)]
    exact inv.placed

theorem did_add_numbered (radius : Option ℚ) (history : List Event) (controller : ViewController)
    (position : SCNVector3) (inv : Numbered radius history controller) :
    Numbered radius (history ++ [.didAdd position]) (didAdd controller position) := by
  refine ⟨?_, snoc_numbered controller.rootNode _ controller.made rfl inv.rootNode, ?_⟩
  · intro node member
    exact Nat.lt_succ_of_lt (inv.dicee node member)
  · rw [touch_misses radius history (.didAdd position) (by simp)]
    exact inv.placed

theorem step_numbered (random : ℕ → Fin 4) (radius : Option ℚ) (history : List Event) (controller : ViewController)
    (event : Event) (next : ViewController) (inv : Numbered radius history controller)
    (moved : step random radius controller event = some next) : Numbered radius (history ++ [event]) next := by
  cases event with
  | touchesBegan touches =>
      cases moved
      by_cases hits : radius.isSome = true ∧ ∃ location rest, touches = some (some (location :: rest))
      · obtain ⟨found, location, rest, rfl⟩ := hits
        obtain ⟨sphere, rfl⟩ := Option.isSome_iff_exists.mp found
        exact add_dice_numbered random sphere history controller location rest inv
      · have missed : Placed radius (history ++ [.touchesBegan touches]) ↔ Placed radius history :=
          touch_misses radius history _ (by simpa using hits)
        rcases touch_cases random radius controller touches with same | ⟨location, rest, sphere, hit, found, _⟩
        · rw [same]
          exact ⟨inv.dicee, inv.rootNode, missed.trans inv.placed⟩
        · exact absurd ⟨by rw [found]; rfl, location, rest, hit⟩ hits
  | rollPressed =>
      cases moved
      exact rolled_numbered radius history _ _ _ _ (roll_all_rolled random controller) inv
        (touch_misses radius history _ (by simp))
  | motionEnded =>
      cases moved
      exact rolled_numbered radius history _ _ _ _ (roll_all_rolled random controller) inv
        (touch_misses radius history _ (by simp))
  | removePressed =>
      cases moved
      exact remove_numbered radius history controller inv
  | didAdd position =>
      cases moved
      exact did_add_numbered radius history controller position inv

theorem unchanged_visible (controller : ViewController) : ActsOnVisible controller controller :=
  ⟨nothing_new _ _, nothing_new _ _⟩

theorem step_bookkept (random : ℕ → Fin 4) (radius : Option ℚ) (history : List Event) (controller : ViewController)
    (event : Event) (next : ViewController) (numbered : Numbered radius history controller)
    (inv : Bookkept controller) (kept : NeverRemovesPlaced radius history event)
    (moved : step random radius controller event = some next) : Bookkept next ∧ ActsOnVisible controller next := by
  cases event with
  | touchesBegan touches =>
      cases moved
      rcases touch_cases random radius controller touches with same | ⟨location, rest, sphere, rfl, rfl, added⟩
      · rw [same]
        exact ⟨inv, unchanged_visible controller⟩
      · rw [added]
        exact add_dice_bookkept random sphere history controller location numbered inv
  | rollPressed =>
      cases moved
      have rolled := roll_all_rolled random controller
      exact ⟨rolled_bookkept _ _ _ rolled inv, rolled_visible _ _ rolled inv⟩
  | motionEnded =>
      cases moved
      have rolled := roll_all_rolled random controller
      exact ⟨rolled_bookkept _ _ _ rolled inv, rolled_visible _ _ rolled inv⟩
  | removePressed =>
      cases moved
      have empty : controller.dicee = [] := not_not.mp (mt numbered.placed.mpr (kept rfl))
      rw [remove_none controller empty]
      exact ⟨inv, unchanged_visible controller⟩
  | didAdd position =>
      cases moved
      have visible := unchanged_visible controller
      refine ⟨did_add_bookkept controller position inv, ⟨?_, visible.removed⟩⟩
      intro action member
      exact List.mem_append_left _ (visible.rolled action member)

theorem bookkeeping_iff (random : ℕ → Fin 4) (radius : Option ℚ) (events : List Event) :
    (Always (step random radius) launched (fun _ => Bookkept) events ∧
        Along (step random radius) launched (fun _ => VisibleOnly random radius) events) ↔
      Along (step random radius) launched (fun history _ => NeverRemovesPlaced radius history) events := by
  have numbered : ∀ before controller, run (step random radius) launched before = some controller →
      Numbered radius before controller :=
    run_invariant (step random radius) launched (Numbered radius) (launched_numbered radius)
      (step_numbered random radius)
  constructor
  · intro ⟨bookkept, _⟩ before event after controller split reached pressed
    cases pressed
    have empty := removed_dice_stay controller
      (always_next _ _ _ events bookkept before after .removePressed controller _ split reached rfl)
    exact fun placed => (numbered before controller reached).placed.mp placed empty
  · intro kept
    have bookkept : Always (step random radius) launched (fun _ => Bookkept) events := by
      apply always_from_steps (step random radius) launched (fun _ => Bookkept) events launched_bookkept
      intro before event after controller next split reached moved inv
      exact (step_bookkept random radius before controller event next (numbered before controller reached) inv
        (kept before event after controller split reached) moved).1
    refine ⟨bookkept, ?_⟩
    intro before event after controller split reached next moved
    have inv := bookkept before (event :: after) controller split reached
    exact (step_bookkept random radius before controller event next (numbered before controller reached) inv
      (kept before event after controller split reached) moved).2

theorem removed_die_in_array :
    ¬ (Always (step (fun _ => 0) (some 1)) launched (fun _ => Bookkept)
        [.touchesBegan (some (some [⟨0, 0, 0⟩])), .removePressed] ∧
      Along (step (fun _ => 0) (some 1)) launched (fun _ => VisibleOnly (fun _ => 0) (some 1))
        [.touchesBegan (some (some [⟨0, 0, 0⟩])), .removePressed]) := by
  intro ⟨bookkept, _⟩
  have inv := bookkept [.touchesBegan (some (some [⟨0, 0, 0⟩])), .removePressed] [] _ rfl rfl
  have empty := removed_dice_stay (touchesBegan (fun _ => 0) (some 1) launched (some (some [⟨0, 0, 0⟩]))) inv
  exact absurd empty (List.cons_ne_nil _ _)

end Pets.DiceeAR
