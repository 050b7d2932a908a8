import Pets.FlashChat.SendMessage

set_option autoImplicit false

namespace Pets.FlashChat

open Pets.Transition

def ErasesOwnText (queue : ComposeQueue) (event : ComposeEvent) : Prop :=
  event = .turn → ∀ send ∈ queue.pending.head?,
    ∃ record : Send, queue.state.sends[send]? = some record ∧ queue.state.text = some record.body

def changesBetween (composer : Composer) (first second : Send) : List FieldChange :=
  (composer.changes.take second.stamp).drop first.stamp

def Unedited (changes : List FieldChange) : Prop := ∀ text, FieldChange.edit text ∉ changes

def NeverWrittenTwice (queue : ComposeQueue) : Prop :=
  ∀ (i j : Nat) (first second : Send), i < j → queue.state.sends[i]? = some first →
    queue.state.sends[j]? = some second → Unedited (changesBetween queue.state first second) →
    first.body = second.body → ¬ (first.status = .acknowledged ∧ second.status = .acknowledged)

def FieldLeftAlone (queue : ComposeQueue) (event : ComposeEvent) : Prop :=
  event = .turn → ∀ send ∈ queue.pending.head?, ∀ record : Send, queue.state.sends[send]? = some record →
    ∀ change ∈ (queue.state.changes.drop record.stamp).getLast?, change.result = record.body

def ClearedBetweenWrites (queue : ComposeQueue) : Prop :=
  ∀ (i j : Nat) (first second : Send), i < j → queue.state.sends[i]? = some first →
    queue.state.sends[j]? = some second → Unedited (changesBetween queue.state first second) →
    first.status = .acknowledged → second.status = .acknowledged →
    .clear ∈ changesBetween queue.state first second ∧ first.body ≠ ""

theorem text_since_tap (queue : ComposeQueue) (inv : SendInvariant queue) (i : Nat) (record : Send)
    (stored : queue.state.sends[i]? = some record) :
    queue.state.text = some record.body ↔
      ∀ change ∈ (queue.state.changes.drop record.stamp).getLast?, change.result = record.body := by
  have split := field_text_append (queue.state.changes.take record.stamp) (queue.state.changes.drop record.stamp)
  rw [List.take_append_drop, ← (inv.stamped i record stored).2] at split
  rw [inv.shown, split, Option.some.injEq]
  cases (queue.state.changes.drop record.stamp).getLast? with
  | none => simp
  | some change => simp

theorem unedited_ends_clear (changes : List FieldChange) (unedited : Unedited changes) (change : FieldChange)
    (last : changes.getLast? = some change) : change = .clear := by
  cases change with
  | clear => rfl
  | edit text => exact absurd (List.mem_of_getLast? last) (unedited text)

-- Without an edit in between, only a clear can have changed what the second tap reads.
theorem second_body (queue : ComposeQueue) (inv : SendInvariant queue) (i j : Nat) (first second : Send)
    (less : i < j) (storedFirst : queue.state.sends[i]? = some first)
    (storedSecond : queue.state.sends[j]? = some second)
    (unedited : Unedited (changesBetween queue.state first second)) :
    first.body = second.body ↔ ¬ (.clear ∈ changesBetween queue.state first second ∧ first.body ≠ "") := by
  have order := inv.ordered i j first second less storedFirst storedSecond
  have split := field_text_append ((queue.state.changes.take second.stamp).take first.stamp)
    (changesBetween queue.state first second)
  rw [changesBetween, List.take_append_drop, List.take_take, Nat.min_eq_left order,
    ← (inv.stamped i first storedFirst).2, ← (inv.stamped j second storedSecond).2] at split
  cases last : (changesBetween queue.state first second).getLast? with
  | none =>
      have empty := List.getLast?_eq_none_iff.mp last
      rw [changesBetween] at last
      rw [last] at split
      simpa [empty] using split.symm
  | some change =>
      have cleared := unedited_ends_clear _ unedited change last
      have present : .clear ∈ changesBetween queue.state first second := cleared ▸ List.mem_of_getLast? last
      rw [changesBetween] at last
      rw [last, cleared] at split
      simp [present, split, FieldChange.result]

theorem erases_own_text_iff (queue : ComposeQueue) (event : ComposeEvent) (inv : SendInvariant queue) :
    ErasesOwnText queue event ↔ FieldLeftAlone queue event := by
  constructor
  · intro own turn send head record stored
    obtain ⟨found, storedFound, text⟩ := own turn send head
    have same : found = record := Option.some.inj (storedFound.symm.trans stored)
    exact (text_since_tap queue inv send record stored).mp (same ▸ text)
  · intro alone turn send head
    obtain ⟨record, stored⟩ := inv.queued send (List.mem_of_mem_head? head)
    exact ⟨record, stored, (text_since_tap queue inv send record stored).mpr (alone turn send head record stored)⟩

theorem never_written_twice_iff (queue : ComposeQueue) (inv : SendInvariant queue) :
    NeverWrittenTwice queue ↔ ClearedBetweenWrites queue := by
  constructor
  · intro never i j first second less storedFirst storedSecond unedited ackFirst ackSecond
    by_contra uncleared
    have same := (second_body queue inv i j first second less storedFirst storedSecond unedited).mpr uncleared
    exact never i j first second less storedFirst storedSecond unedited same ⟨ackFirst, ackSecond⟩
  · intro cleared i j first second less storedFirst storedSecond unedited same both
    have between := cleared i j first second less storedFirst storedSecond unedited both.1 both.2
    exact (second_body queue inv i j first second less storedFirst storedSecond unedited).mp same between

theorem sending_is_safe_iff (events : List ComposeEvent) :
    (Along composeStep composing (fun _ => ErasesOwnText) events ∧
        Always composeStep composing (fun _ => NeverWrittenTwice) events) ↔
      Along composeStep composing (fun _ => FieldLeftAlone) events ∧
        Always composeStep composing (fun _ => ClearedBetweenWrites) events := by
  have keep : ∀ (before : List ComposeEvent) queue event next, SendInvariant queue →
      composeStep queue event = some next → SendInvariant next :=
    fun _ queue event next inv moved => compose_step_invariant queue next event inv moved
  apply and_congr
  · apply along_congr composeStep composing (fun _ => SendInvariant) composing_invariant keep
    exact fun _ queue event inv => erases_own_text_iff queue event inv
  · apply always_congr composeStep composing (fun _ => SendInvariant) composing_invariant keep
    exact fun _ queue inv => never_written_twice_iff queue inv

-- Text typed after the tap is erased unsent, and a second tap sends again.
theorem sending_loses_and_repeats :
    ¬ Along composeStep composing (fun _ => ErasesOwnText)
        [.edit "a", .tap (some "u") 0, .edit "b", .complete 0 none, .turn] ∧
      ¬ Always composeStep composing (fun _ => NeverWrittenTwice)
        [.edit "a", .tap (some "u") 0, .tap (some "u") 1, .complete 0 none, .complete 1 none] := by
  constructor
  · intro holds
    obtain ⟨record, stored, text⟩ := holds [.edit "a", .tap (some "u") 0, .edit "b", .complete 0 none] .turn []
      ⟨⟨some "b", [⟨"a", "u", 0, .acknowledged, 1⟩], [.edit "a", .edit "b"]⟩, [0], []⟩ rfl rfl rfl 0 rfl
    cases stored
    exact absurd text (by decide)
  · intro holds
    have never := holds [.edit "a", .tap (some "u") 0, .tap (some "u") 1, .complete 0 none, .complete 1 none] []
      ⟨⟨some "a", [⟨"a", "u", 0, .acknowledged, 1⟩, ⟨"a", "u", 1, .acknowledged, 1⟩], [.edit "a"]⟩, [0, 1], []⟩
      rfl rfl
    exact never 0 1 _ _ (by decide) rfl rfl (by simp [Unedited, changesBetween]) rfl ⟨rfl, rfl⟩

end Pets.FlashChat
