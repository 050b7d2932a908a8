import Mathlib.Data.List.Basic
import Mathlib.Tactic.Linarith

set_option autoImplicit false

namespace Pets.Calendar

-- Days are counted from the first of January of the year 1, a Monday. The
-- Gregorian rule is used for every year.
def yearStart (year : ℤ) : ℤ := 365 * (year - 1) + (year - 1) / 4 - (year - 1) / 100 + (year - 1) / 400

def isLeap (year : ℤ) : Bool := decide (year % 4 = 0 ∧ (year % 100 ≠ 0 ∨ year % 400 = 0))

def monthLengths (leap : Bool) : List ℕ := [31, if leap then 29 else 28, 31, 30, 31, 30, 31, 31, 30, 31, 30, 31]

def monthsOf (year : ℤ) : List ℕ := monthLengths (isLeap year)

-- 400 years have 146097 days, so the guess is at most one year off.
def yearOf (day : ℤ) : ℤ :=
  let guess := 400 * day / 146097 + 1
  if day < yearStart guess then guess - 1 else if day < yearStart (guess + 1) then guess else guess + 1

def locate : List ℕ → ℕ → ℕ × ℕ
  | [], position => (0, position)
  | length :: later, position =>
      if position < length then (0, position) else ((locate later (position - length)).1 + 1, (locate later (position - length)).2)

structure Date where
  year : ℤ
  month : ℕ
  day : ℕ
  monthFrom : 1 ≤ month
  dayFrom : 1 ≤ day
  within : ∃ length, (monthsOf year)[month - 1]? = some length ∧ day ≤ length

def Date.number (date : Date) : ℤ :=
  yearStart date.year + ((monthsOf date.year).take (date.month - 1)).sum + (date.day - 1)

theorem months_sum (leap : Bool) : (monthLengths leap).sum = if leap then 366 else 365 := by
  cases leap <;> rfl

theorem year_start_next (year : ℤ) : yearStart (year + 1) = yearStart year + (monthsOf year).sum := by
  rw [monthsOf, months_sum]
  by_cases leap : isLeap year = true
  · rw [if_pos leap]
    have rule := of_decide_eq_true leap
    unfold yearStart
    omega
  · rw [if_neg leap]
    have rule := of_decide_eq_false (Bool.eq_false_iff.mpr leap)
    unfold yearStart
    omega

theorem year_start_step (year : ℤ) : yearStart year + 365 ≤ yearStart (year + 1) ∧ yearStart (year + 1) ≤ yearStart year + 366 := by
  rw [year_start_next, monthsOf, months_sum]
  split <;> omega

theorem year_start_mono (first second : ℤ) (before : first ≤ second) : yearStart first ≤ yearStart second := by
  unfold yearStart
  omega

theorem year_of_bounds (day : ℤ) : yearStart (yearOf day) ≤ day ∧ day < yearStart (yearOf day + 1) := by
  obtain ⟨guess, low, high⟩ : ∃ guess, 400 * day / 146097 + 1 = guess ∧ 0 ≤ 400 * day - 146097 * (guess - 1) ∧
      400 * day - 146097 * (guess - 1) < 146097 := ⟨_, rfl, by omega, by omega⟩
  simp only [yearOf, low]
  by_cases early : day < yearStart guess
  · rw [if_pos early]
    unfold yearStart at early ⊢
    omega
  · rw [if_neg early]
    by_cases now : day < yearStart (guess + 1)
    · rw [if_pos now]
      exact ⟨not_lt.mp early, now⟩
    · rw [if_neg now]
      unfold yearStart at early now ⊢
      omega

theorem year_of_unique (day year : ℤ) (first : yearStart year ≤ day) (last : day < yearStart (year + 1)) :
    yearOf day = year := by
  obtain ⟨low, high⟩ := year_of_bounds day
  rcases lt_trichotomy (yearOf day) year with before | same | after
  · have mono := year_start_mono (yearOf day + 1) year before
    omega
  · exact same
  · have mono := year_start_mono (year + 1) (yearOf day) after
    omega

theorem locate_spec (lengths : List ℕ) (position : ℕ) (bound : position < lengths.sum) :
    (∃ length, lengths[(locate lengths position).1]? = some length ∧ (locate lengths position).2 < length) ∧
      (lengths.take (locate lengths position).1).sum + (locate lengths position).2 = position := by
  induction lengths generalizing position with
  | nil => exact absurd bound (Nat.not_lt_zero _)
  | cons length later ih =>
      by_cases here : position < length
      · rw [locate, if_pos here]
        exact ⟨⟨length, rfl, here⟩, Nat.zero_add _⟩
      · rw [List.sum_cons] at bound
        obtain ⟨inside, total⟩ := ih (position - length) (by omega)
        rw [locate, if_neg here]
        refine ⟨inside, ?_⟩
        rw [List.take_succ_cons, List.sum_cons]
        omega

theorem locate_unique (lengths : List ℕ) (index place length : ℕ) (found : lengths[index]? = some length)
    (within : place < length) : locate lengths ((lengths.take index).sum + place) = (index, place) := by
  induction lengths generalizing index with
  | nil => cases found
  | cons first later ih =>
      cases index with
      | zero =>
          cases found
          rw [List.take_zero, List.sum_nil, Nat.zero_add, locate, if_pos within]
      | succ index =>
          have rest := ih index found
          have sum : ((first :: later).take (index + 1)).sum + place - first = (later.take index).sum + place := by
            rw [List.take_succ_cons, List.sum_cons]
            omega
          rw [locate, if_neg (by rw [List.take_succ_cons, List.sum_cons]; omega), sum, rest]

def dayOfYear (day : ℤ) : ℕ := (day - yearStart (yearOf day)).toNat

theorem day_of_year_lt (day : ℤ) : dayOfYear day < (monthsOf (yearOf day)).sum := by
  obtain ⟨first, last⟩ := year_of_bounds day
  rw [year_start_next] at last
  rw [dayOfYear]
  omega

def civil (day : ℤ) : Date :=
  { year := yearOf day
    month := (locate (monthsOf (yearOf day)) (dayOfYear day)).1 + 1
    day := (locate (monthsOf (yearOf day)) (dayOfYear day)).2 + 1
    monthFrom := Nat.le_add_left _ _
    dayFrom := Nat.le_add_left _ _
    within := (locate_spec _ _ (day_of_year_lt day)).1 }

theorem number_civil (day : ℤ) : (civil day).number = day := by
  have total := (locate_spec _ _ (day_of_year_lt day)).2
  have first := (year_of_bounds day).1
  have cast : ((dayOfYear day : ℕ) : ℤ) = day - yearStart (yearOf day) := Int.toNat_of_nonneg (by omega)
  simp only [Date.number, civil, Nat.add_sub_cancel]
  omega

theorem date_eq (left right : Date) (year : left.year = right.year) (month : left.month = right.month)
    (day : left.day = right.day) : left = right := by
  cases left
  cases right
  cases year
  cases month
  cases day
  rfl

theorem civil_inj (left right : ℤ) (year : yearOf left = yearOf right) (month : (civil left).month = (civil right).month)
    (day : (civil left).day = (civil right).day) : left = right := by
  have same := date_eq (civil left) (civil right) year month day
  rw [← number_civil left, same, number_civil]

theorem take_sum_lt (lengths : List ℕ) (index length : ℕ) (found : lengths[index]? = some length) :
    (lengths.take index).sum + length ≤ lengths.sum := by
  obtain ⟨bound, here⟩ := List.getElem?_eq_some_iff.mp found
  have split := congrArg List.sum (List.take_append_drop index lengths)
  rw [List.sum_append, List.drop_eq_getElem_cons bound, here, List.sum_cons] at split
  omega

theorem civil_number (date : Date) : civil date.number = date := by
  obtain ⟨length, found, bound⟩ := date.within
  have dayFrom := date.dayFrom
  have monthFrom := date.monthFrom
  have room := take_sum_lt (monthsOf date.year) (date.month - 1) length found
  have next := year_start_next date.year
  have year : yearOf date.number = date.year := by
    apply year_of_unique
    · rw [Date.number]
      omega
    · rw [next, Date.number]
      omega
  have place : dayOfYear date.number = ((monthsOf date.year).take (date.month - 1)).sum + (date.day - 1) := by
    rw [dayOfYear, year, Date.number]
    omega
  have located := locate_unique (monthsOf date.year) (date.month - 1) (date.day - 1) length found (by omega)
  apply date_eq
  · exact year
  · simp only [civil, year, place, located]
    omega
  · simp only [civil, year, place, located]
    omega

-- The locale's week: the weekday it starts on, counted from Monday, and the
-- number of its days that a first week of the year has at least.
structure Week where
  firstWeekday : Fin 7
  minimumDays : ℕ
  fromOne : 1 ≤ minimumDays
  toSeven : minimumDays ≤ 7

-- The week with the first of January is week 1 if enough of its days are in the year.
def weekYearStart (week : Week) (year : ℤ) : ℤ :=
  let before := (yearStart year - week.firstWeekday.val) % 7
  if week.minimumDays ≤ 7 - before then yearStart year - before else yearStart year - before + 7

def weekYear (week : Week) (day : ℤ) : ℤ :=
  if day < weekYearStart week (yearOf day) then yearOf day - 1
  else if day < weekYearStart week (yearOf day + 1) then yearOf day else yearOf day + 1

theorem week_year_start_near (week : Week) (year : ℤ) :
    yearStart year - 6 ≤ weekYearStart week year ∧ weekYearStart week year ≤ yearStart year + 6 := by
  have upper := week.toSeven
  simp only [weekYearStart]
  split <;> omega

theorem week_year_bounds (week : Week) (day : ℤ) :
    weekYearStart week (weekYear week day) ≤ day ∧ day < weekYearStart week (weekYear week day + 1) := by
  obtain ⟨first, last⟩ := year_of_bounds day
  by_cases early : day < weekYearStart week (yearOf day)
  · have near := week_year_start_near week (yearOf day - 1)
    have long := year_start_step (yearOf day - 1)
    rw [weekYear, if_pos early, sub_add_cancel]
    rw [sub_add_cancel] at long
    exact ⟨by omega, early⟩
  · by_cases now : day < weekYearStart week (yearOf day + 1)
    · rw [weekYear, if_neg early, if_pos now]
      exact ⟨not_lt.mp early, now⟩
    · have near := week_year_start_near week (yearOf day + 1 + 1)
      have long := year_start_step (yearOf day + 1)
      rw [weekYear, if_neg early, if_neg now]
      exact ⟨not_lt.mp now, by omega⟩

theorem week_year_own_iff (week : Week) (day : ℤ) :
    weekYear week day = yearOf day ↔
      weekYearStart week (yearOf day) ≤ day ∧ day < weekYearStart week (yearOf day + 1) := by
  refine ⟨fun same => same ▸ week_year_bounds week day, ?_⟩
  intro ⟨first, last⟩
  rw [weekYear, if_neg (not_lt.mpr first), if_pos last]

end Pets.Calendar
