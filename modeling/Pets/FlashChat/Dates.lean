import Pets.FlashChat.Snapshot
import Pets.Library.DateFormat

set_option autoImplicit false

namespace Pets.FlashChat

open Pets.Calendar Pets.DateFormat Pets.Printed

-- The week of the locale and the offset of the time zone are what DateFormatter takes from the phone.
def getDate (week : Week) (offset : ℤ) (date : TimeInterval) : String :=
  string week "HH:mm dd.MM.YYYY" (localMinute offset date)

def ShowsCivilDate (week : Week) (offset : ℤ) (date : TimeInterval) : Prop :=
  getDate week offset date = string week "HH:mm dd.MM.yyyy" (localMinute offset date)

def InOwnWeekYear (week : Week) (day : ℤ) : Prop :=
  weekYearStart week (yearOf day) ≤ day ∧ day < weekYearStart week (yearOf day + 1)

structure SameButYear (week : Week) (left right : ℤ) : Prop where
  clock : minuteOfDay left = minuteOfDay right
  day : (civil (dayOf left)).day = (civil (dayOf right)).day
  month : (civil (dayOf left)).month = (civil (dayOf right)).month
  years : yearOf (dayOf left) ≠ yearOf (dayOf right)
  weekYears : weekYear week (dayOf left) = weekYear week (dayOf right)

def clockAndDay : List Field := [.HH, .text ':', .mm, .text ' ', .dd, .text '.', .MM, .text '.']

theorem message_fields : fields "HH:mm dd.MM.YYYY".toList = clockAndDay ++ [.YYYY] := by decide +kernel

theorem civil_fields : fields "HH:mm dd.MM.yyyy".toList = clockAndDay ++ [.yyyy] := by decide +kernel

theorem shows_civil_date_iff (week : Week) (offset : ℤ) (date : TimeInterval) :
    ShowsCivilDate week offset date ↔ InOwnWeekYear week (dayOf (localMinute offset date)) := by
  rw [InOwnWeekYear, ← week_year_own_iff, ShowsCivilDate, getDate, string, string, String.ofList_inj, message_fields,
    civil_fields, List.flatMap_append, List.flatMap_append, List.append_cancel_left_eq, List.flatMap_singleton,
    List.flatMap_singleton]
  exact ⟨signed_inj 4 _ _, congrArg (signed 4)⟩

theorem same_text_iff (week : Week) (left right : ℤ) :
    string week "HH:mm dd.MM.YYYY" left = string week "HH:mm dd.MM.YYYY" right ↔
      left = right ∨ SameButYear week left right := by
  have aligned : ∀ field ∈ clockAndDay, field = .yyyy ∨ field = .YYYY → shown week left field = shown week right field := by
    intro field member year
    rcases year with rfl | rfl
    · exact absurd member (by decide)
    · exact absurd member (by decide)
  rw [string_same_iff week _ clockAndDay .YYYY left right message_fields aligned]
  refine ⟨?_, ?_⟩
  · intro same
    have hour := padded_inj 2 _ _ (same .HH (by decide))
    have minute := padded_inj 2 _ _ (same .mm (by decide))
    have day := padded_inj 2 _ _ (same .dd (by decide))
    have month := padded_inj 2 _ _ (same .MM (by decide))
    have weekYears := signed_inj 4 _ _ (same .YYYY (by decide))
    have clock : minuteOfDay left = minuteOfDay right := by omega
    by_cases years : yearOf (dayOf left) = yearOf (dayOf right)
    · exact Or.inl ((minute_parts left right).mpr ⟨civil_inj _ _ years month day, clock⟩)
    · exact Or.inr ⟨clock, day, month, years, weekYears⟩
  · intro same field member
    rcases same with rfl | confused
    · rfl
    · cases field with
      | HH => rw [shown, shown, confused.clock]
      | hh => rw [shown, shown, confused.clock]
      | mm => rw [shown, shown, confused.clock]
      | dd => rw [shown, shown, confused.day]
      | MM => rw [shown, shown, confused.month]
      | yyyy => exact absurd member (by decide)
      | YYYY => rw [shown, shown, confused.weekYears]
      | text c => rfl

theorem dates_shown_iff (week : Week) (offset : ℤ) (date : TimeInterval) :
    (ShowsCivilDate week offset date ↔ InOwnWeekYear week (dayOf (localMinute offset date))) ∧
      ∀ other, getDate week offset date = getDate week offset other ↔
        localMinute offset date = localMinute offset other ∨
          SameButYear week (localMinute offset date) (localMinute offset other) :=
  ⟨shows_civil_date_iff week offset date, fun _ => same_text_iff week _ _⟩

theorem day_has_date (offset day : ℤ) : ∃ date : TimeInterval, dayOf (localMinute offset date) = day := by
  refine ⟨((day - yearStart 1970) * 1440 * 60 - offset : ℤ), ?_⟩
  have seconds : (((day - yearStart 1970) * 1440 * 60 - offset : ℤ) : ℚ) + offset =
      (((day - yearStart 1970) * 1440 : ℤ) : ℚ) * 60 := by
    push_cast
    ring
  have minute : localMinute offset (((day - yearStart 1970) * 1440 * 60 - offset : ℤ) : ℚ) =
      (day - yearStart 1970) * 1440 := by
    rw [localMinute, seconds, mul_div_cancel_right₀ _ (by norm_num), Int.floor_intCast]
  rw [minute, dayOf, Int.mul_ediv_cancel _ (by decide)]
  omega

theorem week_from_new_year (week : Week) (year : ℤ) (same : weekYearStart week year = yearStart year) :
    (yearStart year - week.firstWeekday.val) % 7 = 0 := by
  simp only [weekYearStart] at same
  split at same <;> omega

-- Two years in a row do not both start with a week, so no locale is spared.
theorem some_date_shown_wrong (week : Week) (offset : ℤ) : ∃ date, ¬ ShowsCivilDate week offset date := by
  obtain ⟨year, apart⟩ : ∃ year, weekYearStart week year ≠ yearStart year := by
    by_contra every
    push Not at every
    have first := week_from_new_year week 1 (every 1)
    have second := week_from_new_year week 2 (every 2)
    have days : yearStart 1 = 0 ∧ yearStart 2 = 365 := by decide
    omega
  obtain ⟨day, wrong⟩ : ∃ day, ¬ InOwnWeekYear week day := by
    rcases lt_or_gt_of_ne apart with early | late
    · have step := year_start_step (year - 1)
      rw [sub_add_cancel] at step
      have own : yearOf (yearStart year - 1) = year - 1 := by
        apply year_of_unique
        · omega
        · rw [sub_add_cancel]
          omega
      refine ⟨yearStart year - 1, ?_⟩
      rw [InOwnWeekYear, own, sub_add_cancel]
      omega
    · have step := year_start_step year
      have own : yearOf (yearStart year) = year := year_of_unique _ _ le_rfl (by omega)
      refine ⟨yearStart year, ?_⟩
      rw [InOwnWeekYear, own]
      omega
  obtain ⟨date, found⟩ := day_has_date offset day
  refine ⟨date, ?_⟩
  rw [shows_civil_date_iff, found]
  exact wrong

theorem accepted_message_date (week : Week) (offset : ℤ) (document : Document) (message : Message)
    (accepted : acceptedMessage (getDate week offset) document = some message) :
    ∃ seconds, document.lookup dateField = some (.number seconds) ∧ message.date = getDate week offset seconds := by
  unfold acceptedMessage at accepted
  split at accepted
  · rename_i sender body seconds _ _ dateRead
    cases accepted
    exact ⟨seconds, dateRead, rfl⟩
  · cases accepted

-- Weeks start on Monday, and the first one has at least four days in the year.
def mondayWeek : Week := ⟨⟨0, by decide⟩, 4, by decide, by decide⟩

-- Noon of the last day of 2019 and noon of the last day of 2020, both UTC.
theorem new_years_eve_shown_wrong :
    ¬ ShowsCivilDate mondayWeek 0 1577793600 ∧
      getDate mondayWeek 0 1577793600 = "12:00 31.12.2020" ∧ getDate mondayWeek 0 1609416000 = "12:00 31.12.2020" := by
  have text : getDate mondayWeek 0 1577793600 = "12:00 31.12.2020" := by decide +kernel
  have civil : string mondayWeek "HH:mm dd.MM.yyyy" (localMinute 0 1577793600) = "12:00 31.12.2019" := by decide +kernel
  refine ⟨?_, text, by decide +kernel⟩
  intro shows
  rw [ShowsCivilDate, text, civil] at shows
  exact absurd shows (by decide)

end Pets.FlashChat
