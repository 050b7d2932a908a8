import Pets.Library.Binary64
import Pets.Calculator.Safety

set_option autoImplicit false

namespace Pets.Calculator

open Pets.Decimal Pets.Transition

-- The keys typed since entry began: a calculation key ends the entry.
def entryKeys (history : List Press) : List Mark :=
  history.foldl (fun keys key =>
    match key with
    | .number numberValue => keys ++ [numberValue]
    | .calculate _ => []) []

def Glyph.points : Glyph → Nat
  | .mark .point => 1
  | .double _ => 1
  | _ => 0

def labelPoints (label : Label) : Nat := (label.map Glyph.points).sum

def HoldsDigit (label : Label) : Prop := ∃ digit, Glyph.mark (.digit digit) ∈ label

section Rounded

variable (round : ℚ → Double)

def EntryShown (history : List Press) (calculator : ViewController) : Prop :=
  labelPoints calculator.displayLabel ≤ 1 ∧
    (entryKeys history ≠ [] → HoldsDigit calculator.displayLabel →
      displayValue round calculator = round (Decimal.value (entryKeys history)))

-- A second point finds digits that stand for a number with a fractional part, as stored.
def PointGuard (history : List Press) (_ : ViewController) (key : Press) : Prop :=
  key = .number .point → 0 < points (entryKeys history) →
    digits (entryKeys history) ≠ [] ∧
      ¬ (round (Decimal.value (entryKeys history))).floor.equal (round (Decimal.value (entryKeys history)))

end Rounded

theorem entry_keys_number (history : List Press) (numberValue : Mark) :
    entryKeys (history ++ [.number numberValue]) = entryKeys history ++ [numberValue] := by
  simp [entryKeys]

theorem entry_keys_calculate (history : List Press) (method : Method) :
    entryKeys (history ++ [.calculate method]) = [] := by
  simp [entryKeys]

theorem label_points_marks (keys : List Mark) : labelPoints (keys.map .mark) = points keys := by
  induction keys with
  | nil => rfl
  | cons key rest ih =>
      have counted : labelPoints ((key :: rest).map Glyph.mark) = Glyph.points (.mark key) + points rest := by
        rw [← ih]
        simp [labelPoints]
      have tallied : points (key :: rest) = points rest + Glyph.points (.mark key) := by
        cases key <;> simp [points, Glyph.points]
      rw [counted, tallied, Nat.add_comm]

theorem label_points_int (n : Int) : labelPoints (textOfInt n) = 0 := by
  have digits : labelPoints ((decimal n.natAbs).map fun digit => .mark (.digit digit)) = 0 := by
    have marks := label_points_marks ((decimal n.natAbs).map .digit)
    rwa [List.map_map, points_map_digit] at marks
  by_cases negative : n < 0
  · rw [textOfInt, if_pos negative]
    simpa [labelPoints, Glyph.points] using digits
  · rw [textOfInt, if_neg negative]
    exact digits

theorem set_display_value_points (calculator next : ViewController) (value : Double)
    (shown : setDisplayValue calculator value = some next) : labelPoints next.displayLabel ≤ 1 := by
  by_cases whole : value.floor.equal value = true
  · rw [setDisplayValue, if_pos whole] at shown
    obtain ⟨n, _, rfl⟩ := Option.map_eq_some_iff.mp shown
    exact (label_points_int n).trans_le (Nat.zero_le 1)
  · rw [setDisplayValue, if_neg whole] at shown
    cases shown
    exact Nat.le_refl 1

theorem holds_digit_marks (keys : List Mark) : HoldsDigit (keys.map .mark) ↔ digits keys ≠ [] := by
  constructor
  · intro ⟨digit, member⟩ empty
    have typed : Mark.digit digit ∈ keys := by simpa using member
    have found : digit ∈ digits keys := List.mem_filterMap.mpr ⟨.digit digit, typed, rfl⟩
    rw [empty] at found
    cases found
  · intro nonempty
    obtain ⟨digit, found⟩ := List.exists_mem_of_ne_nil _ nonempty
    obtain ⟨key, typed, same⟩ := List.mem_filterMap.mp found
    cases key with
    | digit d =>
        cases same
        exact ⟨digit, by simpa using typed⟩
    | point => cases same

-- While guarded, the text is the keys with the ignored points left out.
structure EntryText (history : List Press) (calculator : ViewController) : Prop where
  idle : entryKeys history = [] → calculator.isFinishedTypingNumber = true ∧
    labelPoints calculator.displayLabel ≤ 1
  typed : entryKeys history ≠ [] → calculator.isFinishedTypingNumber = false ∧
    calculator.displayLabel = (single (entryKeys history)).map .mark

theorem launched_entry_text : EntryText [] launched := by
  refine ⟨fun _ => ⟨rfl, ?_⟩, fun nonempty => absurd rfl nonempty⟩
  decide

theorem append_mark (keys : List Mark) (key : Mark) :
    keys.map Glyph.mark ++ [.mark key] = (keys ++ [key]).map .mark := by
  simp

section Rounding

variable (round : ℚ → Double)

theorem typed_display (history : List Press) (calculator : ViewController) (text : EntryText history calculator)
    (nonempty : entryKeys history ≠ []) :
    displayValue round calculator =
      if digits (entryKeys history) ≠ [] then round (Decimal.value (entryKeys history)) else 0 := by
  have bound : points (single (entryKeys history)) ≤ 1 := by
    rw [single_points]
    exact Nat.min_le_left _ _
  rw [displayValue, (text.typed nonempty).2, double_of_marks, Decimal.read, single_digits, single_value]
  by_cases digit : digits (entryKeys history) ≠ []
  · rw [if_pos ⟨bound, digit⟩, if_pos digit]
    rfl
  · rw [if_neg (fun both => digit both.2), if_neg digit]
    rfl

-- Without a digit the text does not read as a number, and the value is the integral 0.
theorem typed_fractional_iff (history : List Press) (calculator : ViewController)
    (text : EntryText history calculator) (nonempty : entryKeys history ≠ []) :
    ¬ (displayValue round calculator).floor.equal (displayValue round calculator) ↔
      digits (entryKeys history) ≠ [] ∧
        ¬ (round (Decimal.value (entryKeys history))).floor.equal (round (Decimal.value (entryKeys history))) := by
  rw [typed_display round history calculator text nonempty]
  by_cases digit : digits (entryKeys history) ≠ []
  · rw [if_pos digit]
    exact ⟨fun fractional => ⟨digit, fractional⟩, And.right⟩
  · rw [if_neg digit]
    have whole : (0 : Double).floor.equal 0 = true := by decide
    exact ⟨fun fractional => absurd whole fractional, fun both => absurd both.1 digit⟩

theorem entry_text_shown (history : List Press) (calculator : ViewController)
    (text : EntryText history calculator) : EntryShown round history calculator := by
  by_cases empty : entryKeys history = []
  · exact ⟨(text.idle empty).2, fun nonempty => absurd empty nonempty⟩
  · refine ⟨?_, ?_⟩
    · rw [(text.typed empty).2, label_points_marks, single_points]
      exact Nat.min_le_left _ _
    · intro nonempty holds
      rw [(text.typed empty).2, holds_digit_marks, single_digits] at holds
      rw [typed_display round history calculator text nonempty, if_pos holds]

theorem number_pressed_typed (history : List Press) (calculator : ViewController) (key : Mark)
    (text : EntryText history calculator) (nonempty : entryKeys history ≠ []) :
    (numberPressed round calculator key).isFinishedTypingNumber = false ∧
      (numberPressed round calculator key).displayLabel =
        if key = .point ∧ digits (entryKeys history) ≠ [] ∧
            ¬ (round (Decimal.value (entryKeys history))).floor.equal (round (Decimal.value (entryKeys history))) then
          calculator.displayLabel
        else (single (entryKeys history) ++ [key]).map .mark := by
  obtain ⟨unfinished, label⟩ := text.typed nonempty
  have guard := typed_fractional_iff round history calculator text nonempty
  simp only [numberPressed, unfinished, Bool.false_eq_true, if_false, guard]
  split
  · exact ⟨unfinished, rfl⟩
  · exact ⟨rfl, by rw [label, append_mark]⟩

theorem value_of_no_point (keys : List Mark) (none : points keys = 0) :
    Decimal.value keys = ((natural (digits keys) : ℤ) : ℚ) := by
  rw [Decimal.value, fraction_of_no_point keys none]
  simp

-- What the rounding is asked for: a whole number is stored as a whole number.
variable (whole : ∀ n : ℤ, (round n).floor.equal (round n) = true)

include whole

theorem number_entry_text (history : List Press) (calculator : ViewController) (key : Mark)
    (text : EntryText history calculator) (guarded : PointGuard round history calculator (.number key)) :
    EntryText (history ++ [.number key]) (numberPressed round calculator key) := by
  refine ⟨fun empty => absurd empty (by simp [entry_keys_number]), fun _ => ?_⟩
  rw [entry_keys_number]
  by_cases empty : entryKeys history = []
  · rw [empty]
    have replaced : numberPressed round calculator key =
        { calculator with displayLabel := [.mark key], isFinishedTypingNumber := false } := by
      rw [numberPressed, if_pos (text.idle empty).1]
    rw [replaced, List.nil_append]
    cases key <;> exact ⟨rfl, rfl⟩
  · obtain ⟨unfinished, label⟩ := number_pressed_typed round history calculator key text empty
    refine ⟨unfinished, ?_⟩
    rw [label]
    cases key with
    | digit d => rw [if_neg (fun both => by cases both.1), single_snoc_digit]
    | point =>
        rw [single_snoc_point]
        by_cases none : points (entryKeys history) = 0
        · have integral := whole (natural (digits (entryKeys history)))
          rw [← value_of_no_point _ none] at integral
          rw [if_neg (fun both => both.2.2 integral), if_pos none]
        · rw [if_pos ⟨rfl, guarded rfl (Nat.pos_of_ne_zero none)⟩, if_neg none]
          exact (text.typed empty).2

omit whole in
theorem calculate_entry_text (history : List Press) (calculator next : ViewController) (method : Method)
    (moved : calculatePressed round calculator method = some next) :
    EntryText (history ++ [.calculate method]) next := by
  obtain ⟨value, result⟩ := handed_some round calculator method
  rw [calculate_pressed_set round calculator method value result] at moved
  refine ⟨fun _ => ⟨?_, set_display_value_points _ next value moved⟩,
    fun nonempty => absurd (entry_keys_calculate history method) nonempty⟩
  exact set_display_value_finished _ next value moved

theorem guarded_entry_text (keys : List Press) (calculator : ViewController)
    (guarded : Along (press round) launched (PointGuard round) keys)
    (ran : run (press round) launched keys = some calculator) : EntryText keys calculator := by
  induction keys using List.reverseRecOn generalizing calculator with
  | nil =>
      cases ran
      exact launched_entry_text
  | append_singleton before key ih =>
      obtain ⟨state, reached, moved⟩ := run_snoc_some (press round) launched calculator before key ran
      obtain ⟨earlier, last⟩ := (along_snoc (press round) launched (PointGuard round) before key).mp guarded
      have text := ih state earlier reached
      cases key with
      | number numberValue =>
          cases moved
          exact number_entry_text round whole before state numberValue text (last state reached)
      | calculate method => exact calculate_entry_text round before state calculator method moved

omit whole in
theorem unguarded_shows_two_points (history : List Press) (calculator : ViewController)
    (text : EntryText history calculator) (present : 0 < points (entryKeys history))
    (unguarded : ¬ PointGuard round history calculator (.number .point)) :
    ¬ EntryShown round (history ++ [.number .point]) (numberPressed round calculator .point) := by
  have nonempty : entryKeys history ≠ [] := by
    intro empty
    rw [empty] at present
    exact absurd present (by decide)
  intro shown
  have label := (number_pressed_typed round history calculator .point text nonempty).2
  rw [if_neg (fun both => unguarded fun _ _ => both.2)] at label
  have few := shown.1
  rw [label, label_points_marks, points_append, single_points, Nat.min_eq_left present] at few
  exact absurd few (by decide)

theorem rounded_entry_shown_iff (keys : List Press) :
    Always (press round) launched (EntryShown round) keys ↔ Along (press round) launched (PointGuard round) keys := by
  constructor
  · intro shown
    induction keys using List.reverseRecOn with
    | nil =>
        intro before key after calculator split
        exact absurd split (by simp)
    | append_singleton before key ih =>
        obtain ⟨earlier, last⟩ := (always_snoc (press round) launched (EntryShown round) before key).mp shown
        have guarded := ih earlier
        refine (along_snoc (press round) launched (PointGuard round) before key).mpr ⟨guarded, ?_⟩
        intro calculator reached
        by_contra unguarded
        obtain ⟨rfl, present⟩ : key = .number .point ∧ 0 < points (entryKeys before) := by
          constructor
          · by_contra other
            exact unguarded fun typed => absurd typed other
          · by_contra absent
            exact unguarded fun _ present => absurd present absent
        have text := guarded_entry_text round whole before calculator guarded reached
        have after := last (numberPressed round calculator .point) (by rw [run_snoc, reached]; rfl)
        exact unguarded_shows_two_points round before calculator text present unguarded after
  · intro guarded before after calculator split reached
    have part := along_prefix (press round) launched (PointGuard round) before after (split ▸ guarded)
    exact entry_text_shown round before calculator (guarded_entry_text round whole before calculator part reached)

end Rounding

theorem entry_shown_iff (keys : List Press) :
    Always (press Binary64.round) launched (EntryShown Binary64.round) keys ↔
      Along (press Binary64.round) launched (PointGuard Binary64.round) keys :=
  rounded_entry_shown_iff Binary64.round Binary64.round_int_whole keys

-- 1 . . shows two points, and the text reads back as 0.
theorem two_points_after_one :
    ¬ Always (press Binary64.round) launched (EntryShown Binary64.round)
      [digitKey 1, .number .point, .number .point] := by
  intro shown
  have few := (shown [digitKey 1, .number .point, .number .point] [] _ rfl rfl).1
  revert few
  decide +kernel

-- 0.99999999999999999 is stored as 1, so a second point goes through there too.
example : (run (press Binary64.round) launched
    ([digitKey 0, .number .point] ++ List.replicate 17 (digitKey 9) ++ [.number .point])).map
      (fun calculator => labelPoints calculator.displayLabel) = some 2 := by
  decide +kernel

end Pets.Calculator
