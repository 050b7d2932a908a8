import Pets.Library.Calendar
import Pets.Library.Printed

set_option autoImplicit false

namespace Pets.DateFormat

open Pets.Calendar Pets.Printed

def localMinute (offset : ℤ) (time : ℚ) : ℤ := ⌊(time + offset) / 60⌋

def dayOf (minute : ℤ) : ℤ := yearStart 1970 + minute / 1440

def minuteOfDay (minute : ℤ) : ℕ := (minute % 1440).toNat

-- The numeric fields by their letters: H is the hour 0 to 23 and h the hour 1
-- to 12, y the calendar year and Y the year of the week.
inductive Field where
  | HH
  | hh
  | mm
  | dd
  | MM
  | yyyy
  | YYYY
  | text (c : Char)
deriving DecidableEq

def fields : List Char → List Field
  | 'H' :: 'H' :: rest => .HH :: fields rest
  | 'h' :: 'h' :: rest => .hh :: fields rest
  | 'm' :: 'm' :: rest => .mm :: fields rest
  | 'd' :: 'd' :: rest => .dd :: fields rest
  | 'M' :: 'M' :: rest => .MM :: fields rest
  | 'y' :: 'y' :: 'y' :: 'y' :: rest => .yyyy :: fields rest
  | 'Y' :: 'Y' :: 'Y' :: 'Y' :: rest => .YYYY :: fields rest
  | c :: rest => .text c :: fields rest
  | [] => []

def hour12 (hour : ℕ) : ℕ := if hour % 12 = 0 then 12 else hour % 12

def shown (week : Week) (minute : ℤ) : Field → List Char
  | .HH => padded 2 (minuteOfDay minute / 60)
  | .hh => padded 2 (hour12 (minuteOfDay minute / 60))
  | .mm => padded 2 (minuteOfDay minute % 60)
  | .dd => padded 2 (civil (dayOf minute)).day
  | .MM => padded 2 (civil (dayOf minute)).month
  | .yyyy => signed 4 (yearOf (dayOf minute))
  | .YYYY => signed 4 (weekYear week (dayOf minute))
  | .text c => [c]

def string (week : Week) (dateFormat : String) (minute : ℤ) : String :=
  String.ofList ((fields dateFormat.toList).flatMap (shown week minute))

theorem minute_of_day_lt (minute : ℤ) : minuteOfDay minute < 1440 := by
  rw [minuteOfDay]
  omega

theorem minute_parts (left right : ℤ) :
    left = right ↔ dayOf left = dayOf right ∧ minuteOfDay left = minuteOfDay right := by
  simp only [dayOf, minuteOfDay]
  omega

theorem hour12_bounds (hour : ℕ) : 1 ≤ hour12 hour ∧ hour12 hour ≤ 12 := by
  rw [hour12]
  split <;> omega

theorem month_at_most (leap : Bool) : ∀ length ∈ monthLengths leap, length ≤ 31 := by
  cases leap <;> decide

theorem civil_small (day : ℤ) : (civil day).month ≤ 12 ∧ (civil day).day ≤ 31 := by
  obtain ⟨length, found, bound⟩ := (civil day).within
  obtain ⟨index, _⟩ := List.getElem?_eq_some_iff.mp found
  have twelve : (monthsOf (civil day).year).length = 12 := rfl
  have short := month_at_most _ length (List.mem_of_getElem? found)
  exact ⟨by omega, by omega⟩

def Field.width : Field → Option ℕ
  | .yyyy => none
  | .YYYY => none
  | .text _ => some 1
  | _ => some 2

theorem shown_width (week : Week) (minute : ℤ) (field : Field) (width : ℕ) (fixed : field.width = some width) :
    (shown week minute field).length = width := by
  have clock := minute_of_day_lt minute
  have date := civil_small (dayOf minute)
  have two : ∀ n, n < 100 → (padded 2 n).length = 2 := fun n small => padded_length 2 n (by decide) (by omega)
  cases field with
  | yyyy => cases fixed
  | YYYY => cases fixed
  | text c =>
      cases fixed
      rfl
  | HH =>
      cases fixed
      exact two _ (by omega)
  | hh =>
      cases fixed
      have bounds := hour12_bounds (minuteOfDay minute / 60)
      exact two _ (by omega)
  | mm =>
      cases fixed
      exact two _ (by omega)
  | dd =>
      cases fixed
      exact two _ (by omega)
  | MM =>
      cases fixed
      exact two _ (by omega)

theorem only_years_vary (field : Field) (varies : field.width = none) : field = .yyyy ∨ field = .YYYY := by
  cases field with
  | yyyy => exact Or.inl rfl
  | YYYY => exact Or.inr rfl
  | text c => cases varies
  | HH => cases varies
  | hh => cases varies
  | mm => cases varies
  | dd => cases varies
  | MM => cases varies

-- Texts are read from the front: only the last field may differ in length.
theorem rendered_same_iff (front : List Field) (last : Field) (left right : Field → List Char)
    (aligned : ∀ field ∈ front, (left field).length = (right field).length) :
    (front ++ [last]).flatMap left = (front ++ [last]).flatMap right ↔ ∀ field ∈ front ++ [last], left field = right field := by
  induction front with
  | nil => simp
  | cons field front ih =>
      have rest := ih (fun later member => aligned later (List.mem_cons_of_mem _ member))
      rw [List.cons_append, List.flatMap_cons, List.flatMap_cons, List.forall_mem_cons, ← rest]
      refine ⟨fun same => List.append_inj same (aligned field List.mem_cons_self), ?_⟩
      intro ⟨head, tail⟩
      rw [head, tail]

theorem string_same_iff (week : Week) (dateFormat : String) (front : List Field) (last : Field) (left right : ℤ)
    (pattern : fields dateFormat.toList = front ++ [last])
    (aligned : ∀ field ∈ front, field = .yyyy ∨ field = .YYYY → shown week left field = shown week right field) :
    string week dateFormat left = string week dateFormat right ↔
      ∀ field ∈ front ++ [last], shown week left field = shown week right field := by
  have lengths : ∀ field ∈ front, (shown week left field).length = (shown week right field).length := by
    intro field member
    cases fixed : field.width with
    | none => rw [aligned field member (only_years_vary field fixed)]
    | some width => rw [shown_width week left field width fixed, shown_width week right field width fixed]
  rw [string, string, String.ofList_inj, pattern, rendered_same_iff front last _ _ lengths]

end Pets.DateFormat
