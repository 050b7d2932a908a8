import Pets.Clima.WeatherViewController
import Pets.Library.DateFormat

set_option autoImplicit false

namespace Pets.Clima

open Pets.Calendar Pets.DateFormat Pets.Printed

def getDate (week : Week) (offset timestamp : ℤ) : String :=
  string week "dd.MM.YYYY hh:mm" (localMinute offset timestamp)

def TwelveHoursApart (left right : ℤ) : Prop := left = right + 720 ∨ right = left + 720

def dayAndHour : List Field := [.dd, .text '.', .MM, .text '.', .YYYY, .text ' ', .hh, .text ':']

theorem event_fields : fields "dd.MM.YYYY hh:mm".toList = dayAndHour ++ [.mm] := by decide +kernel

theorem hour12_same_iff (left right : ℕ) : hour12 left = hour12 right ↔ left % 12 = right % 12 := by
  simp only [hour12]
  split <;> split <;> omega

theorem same_text_iff (week : Week) (left right : ℤ) (sameDay : dayOf left = dayOf right) :
    string week "dd.MM.YYYY hh:mm" left = string week "dd.MM.YYYY hh:mm" right ↔
      minuteOfDay left % 720 = minuteOfDay right % 720 := by
  have aligned : ∀ field ∈ dayAndHour, field = .yyyy ∨ field = .YYYY → shown week left field = shown week right field := by
    intro field member year
    rcases year with rfl | rfl
    · exact absurd member (by decide)
    · rw [shown, shown, sameDay]
  rw [string_same_iff week _ dayAndHour .mm left right event_fields aligned]
  refine ⟨?_, ?_⟩
  · intro same
    have hour := (hour12_same_iff _ _).mp (padded_inj 2 _ _ (same .hh (by decide)))
    have minute := padded_inj 2 _ _ (same .mm (by decide))
    omega
  · intro same field member
    have hour : hour12 (minuteOfDay left / 60) = hour12 (minuteOfDay right / 60) := (hour12_same_iff _ _).mpr (by omega)
    have minute : minuteOfDay left % 60 = minuteOfDay right % 60 := by omega
    cases field with
    | HH => exact absurd member (by decide)
    | hh => rw [shown, shown, hour]
    | mm => rw [shown, shown, minute]
    | dd => rw [shown, shown, sameDay]
    | MM => rw [shown, shown, sameDay]
    | yyyy => exact absurd member (by decide)
    | YYYY => rw [shown, shown, sameDay]
    | text c => rfl

theorem half_day_iff (left right : ℤ) (sameDay : dayOf left = dayOf right) (differ : left ≠ right) :
    minuteOfDay left % 720 = minuteOfDay right % 720 ↔ TwelveHoursApart left right := by
  simp only [dayOf, minuteOfDay, TwelveHoursApart] at sameDay ⊢
  omega

theorem times_differ_iff (week : Week) (offset left right : ℤ)
    (sameDay : dayOf (localMinute offset left) = dayOf (localMinute offset right))
    (differ : localMinute offset left ≠ localMinute offset right) :
    getDate week offset left ≠ getDate week offset right ↔
      ¬ TwelveHoursApart (localMinute offset left) (localMinute offset right) := by
  rw [getDate, getDate, not_iff_not, same_text_iff week _ _ sameDay, half_day_iff _ _ sameDay differ]

theorem event_labels_same_iff (week : Week) (offset : ℤ) (foundation : Foundation)
    (dated : foundation.date = getDate week offset) (left right : WeatherModel) :
    ((showWeather foundation left).sunriseLabel = (showWeather foundation right).sunriseLabel ↔
        getDate week offset left.sunrise = getDate week offset right.sunrise) ∧
      ((showWeather foundation left).sunsetLabel = (showWeather foundation right).sunsetLabel ↔
        getDate week offset left.sunset = getDate week offset right.sunset) := by
  simp only [showWeather, dated, String.append_right_inj, true_and]

def sundayWeek : Week := ⟨⟨6, by decide⟩, 1, by decide, by decide⟩

theorem morning_times_differ_iff :
    getDate sundayWeek 0 1720850400 ≠ getDate sundayWeek 0 1720854000 ↔
      ¬ TwelveHoursApart (localMinute 0 1720850400) (localMinute 0 1720854000) :=
  times_differ_iff sundayWeek 0 1720850400 1720854000 (by decide +kernel) (by decide +kernel)

-- Six in the morning and six in the evening of that day.
theorem sunrise_like_sunset :
    getDate sundayWeek 0 1720850400 = "13.07.2024 06:00" ∧ getDate sundayWeek 0 1720893600 = "13.07.2024 06:00" ∧
      dayOf (localMinute 0 1720850400) = dayOf (localMinute 0 1720893600) ∧
      localMinute 0 1720850400 ≠ localMinute 0 1720893600 := by
  refine ⟨by decide +kernel, by decide +kernel, by decide +kernel, by decide +kernel⟩

end Pets.Clima
