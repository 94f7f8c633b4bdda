import Keyring.Instant.Calendar
import Mathlib.Tactic.Use

/-!
# Days and dates

The date of a day is a date of the calendar, and the day of that date is the day.  Years within a
cycle of 400 are counted from March on, so that what has to be shown is how many days a year of the
cycle begins after the start of the cycle.
-/

namespace Keyring.Date

variable {day year : Int}

/-- The century of a day of the cycle is the one of its year; the last day of the cycle, which
would start a fifth one, stands apart. -/
theorem century_cases (h0 : 0 ≤ day) (h1 : day < 146097)
    (hyear : year = (day - day / 1460 + day / 36524 - day / 146096) / 365) :
  (∃ century ∈ [0, 1, 2, 3], year / 100 = century ∧ year = (day - day / 1460 + century) / 365) ∨
    day = 146096 ∧ year = 399
  := by
  have hcentury : day / 36524 = 0 ∧ year / 100 = 0 ∨ day / 36524 = 1 ∧ year / 100 = 1 ∨
      day / 36524 = 2 ∧ year / 100 = 2 ∨ day / 36524 = 3 ∧ year / 100 = 3 ∧ day / 146096 = 0 ∨
      day = 146096 ∧ year = 399 := by omega
  rcases hcentury with ⟨hc, hdiv⟩ | ⟨hc, hdiv⟩ | ⟨hc, hdiv⟩ | ⟨hc, hdiv, hend⟩ | hlast
  · exact .inl ⟨0, by simp, hdiv, by omega⟩
  · exact .inl ⟨1, by simp, hdiv, by omega⟩
  · exact .inl ⟨2, by simp, hdiv, by omega⟩
  · exact .inl ⟨3, by simp, hdiv, by omega⟩
  · exact .inr hlast

/-- A day of the cycle is one of the at most 366 days of its year. -/
theorem dayOfYear_bounds (h0 : 0 ≤ day) (h1 : day < 146097)
    (hyear : year = (day - day / 1460 + day / 36524 - day / 146096) / 365) :
  365 * year + year / 4 - year / 100 ≤ day ∧
    day ≤ 365 * year + year / 4 - year / 100 + 365
  := by
  rcases century_cases h0 h1 hyear with ⟨century, hc, hdiv, hy⟩ | ⟨rfl, rfl⟩
  · rw [hdiv]
    simp only [List.mem_cons, List.not_mem_nil, or_false] at hc
    rcases hc with rfl | rfl | rfl | rfl <;> omega
  · omega

/-- Only a year that ends in a leap day has a 366th day. -/
theorem isLeapYear_of_lastDay (h0 : 0 ≤ day) (h1 : day < 146097)
    (hyear : year = (day - day / 1460 + day / 36524 - day / 146096) / 365)
    (hlast : day = 365 * year + year / 4 - year / 100 + 365) (cycle : Int) :
  isLeapYear (year + cycle * 400 + 1) = true
  := by
  have hrest : year % 4 = 0 ∨ year % 4 = 1 ∨ year % 4 = 2 ∨ year % 4 = 3 := by omega
  have hmod : year % 4 = 3 ∧ (year % 100 ≠ 99 ∨ year = 399) := by
    rcases century_cases h0 h1 hyear with ⟨century, hc, hdiv, hy⟩ | ⟨rfl, rfl⟩
    · rw [hdiv] at hlast
      simp only [List.mem_cons, List.not_mem_nil, or_false] at hc
      rcases hc with rfl | rfl | rfl | rfl <;> rcases hrest with hr | hr | hr | hr <;> omega
    · omega
  simp only [isLeapYear, Bool.and_eq_true, Bool.or_eq_true, decide_eq_true_eq]
  omega

/-- The parts of the date of a day: its cycle, its year within the cycle, its day within the year and
its month, all counted from zero. -/
theorem exists_parts (days : Int) :
  ∃ cycle year dayOfYear month : Int, 0 ≤ year ∧ year ≤ 399 ∧ 0 ≤ dayOfYear ∧ dayOfYear ≤ 365 ∧
    (dayOfYear = 365 → isLeapYear (year + cycle * 400 + 1) = true) ∧
    month = (5 * dayOfYear + 2) / 153 ∧
    days = cycle * 146097 + (365 * year + year / 4 - year / 100 + dayOfYear) - 719468 ∧
    ofDays days =
      if month < 10 then
        ⟨year + cycle * 400, (month + 3).toNat, (dayOfYear - (153 * month + 2) / 5 + 1).toNat⟩
      else
        ⟨year + cycle * 400 + 1, (month - 9).toNat,
          (dayOfYear - (153 * month + 2) / 5 + 1).toNat⟩
  := by
  obtain ⟨day, hday⟩ : ∃ day, day = (days + 719468) % 146097 := ⟨_, rfl⟩
  obtain ⟨year, hyear⟩ : ∃ year, year = (day - day / 1460 + day / 36524 - day / 146096) / 365 :=
    ⟨_, rfl⟩
  have h0 : 0 ≤ day := by omega
  have h1 : day < 146097 := by omega
  have hbounds := dayOfYear_bounds h0 h1 hyear
  use (days + 719468) / 146097, year, day - (365 * year + year / 4 - year / 100),
    (5 * (day - (365 * year + year / 4 - year / 100)) + 2) / 153
  refine ⟨by omega, by omega, by omega, by omega, ?_, rfl, by omega, ?_⟩
  · intro hlast
    exact isLeapYear_of_lastDay h0 h1 hyear (by omega) _
  · rw [hyear, hday]
    rfl

/-- The day of the date of a day is that day. -/
theorem toDays_ofDays (days : Int) :
  (ofDays days).toDays = days
  := by
  obtain ⟨cycle, year, dayOfYear, month, hy, hy', hd, hd', -, hmonth, hdays, he⟩ :=
    exists_parts days
  have hm : 0 ≤ month ∧ month ≤ 11 := by omega
  have hday : 0 ≤ dayOfYear - (153 * month + 2) / 5 + 1 := by omega
  rw [he]
  by_cases hten : month < 10
  · rw [if_pos hten]
    have hspring : ¬(month + 3).toNat ≤ 2 := by omega
    have hcycle : (year + cycle * 400) / 400 = cycle := by omega
    have hyear : (year + cycle * 400) % 400 = year := by omega
    simp only [toDays, hspring, if_false, hcycle, hyear]
    omega
  · rw [if_neg hten]
    have hspring : (month - 9).toNat ≤ 2 := by omega
    have hcycle : (year + cycle * 400 + 1 - 1) / 400 = cycle := by omega
    have hyear : (year + cycle * 400 + 1 - 1) % 400 = year := by omega
    simp only [toDays, hspring, if_true, hcycle, hyear]
    omega

/-- The months of a year that starts in March are as long as they should be. -/
theorem le_daysInMonth (year : Int) {dayOfYear month : Int} (h0 : 0 ≤ dayOfYear) (h1 : dayOfYear ≤ 365)
    (hleap : dayOfYear = 365 → isLeapYear (year + 1) = true)
    (hmonth : month = (5 * dayOfYear + 2) / 153) :
  (dayOfYear - (153 * month + 2) / 5 + 1).toNat ≤
    if month < 10 then daysInMonth year (month + 3).toNat
    else daysInMonth (year + 1) (month - 9).toNat
  := by
  have hm : month = 0 ∨ month = 1 ∨ month = 2 ∨ month = 3 ∨ month = 4 ∨ month = 5 ∨ month = 6 ∨
    month = 7 ∨ month = 8 ∨ month = 9 ∨ month = 10 ∨ month = 11 := by omega
  rcases hm with rfl | rfl | rfl | rfl | rfl | rfl | rfl | rfl | rfl | rfl | rfl | rfl
  case inr.inr.inr.inr.inr.inr.inr.inr.inr.inr.inr =>
    -- February
    rcases hl : isLeapYear (year + 1) with _ | _
    · have hlast : dayOfYear ≠ 365 := fun h => by simp [hl] at hleap; exact hleap h
      simp [daysInMonth, hl]
      omega
    · simp [daysInMonth, hl]
      omega
  all_goals
    simp [daysInMonth]
    omega

/-- The date of a day within the calendar is a date of the calendar. -/
theorem isValid_ofDays {days : Int} (hmin : toDays ⟨minYear, 1, 1⟩ ≤ days)
    (hmax : days < toDays ⟨maxYear + 1, 1, 1⟩) :
  (ofDays days).isValid = true
  := by
  obtain ⟨cycle, year, dayOfYear, month, hy, hy', hd, hd', hleap, hmonth, hdays, he⟩ :=
    exists_parts days
  have hfirst : toDays ⟨minYear, 1, 1⟩ = -96465292 := by decide
  have hlast : toDays ⟨maxYear + 1, 1, 1⟩ = 95026237 := by decide
  rw [hfirst] at hmin
  rw [hlast] at hmax
  have hday := le_daysInMonth (year + cycle * 400) hd hd' hleap hmonth
  have hm : 0 ≤ month ∧ month ≤ 11 ∧ 0 < dayOfYear - (153 * month + 2) / 5 + 1 := by omega
  have hcycle : -656 ≤ cycle ∧ cycle ≤ 655 := by omega
  have hyear : minYear ≤ (if month < 10 then year + cycle * 400 else year + cycle * 400 + 1) ∧
      (if month < 10 then year + cycle * 400 else year + cycle * 400 + 1) ≤ maxYear := by
    rw [minYear, maxYear]
    -- Only the first and the last cycle of the calendar reach its bounds.
    by_cases hlow : cycle = -656
    · subst hlow
      omega
    · by_cases hhigh : cycle = 655
      · subst hhigh
        omega
      · omega
  rw [he]
  by_cases hten : month < 10
  · rw [if_pos hten] at hday hyear ⊢
    simp only [isValid, Bool.and_eq_true, decide_eq_true_eq]
    exact ⟨⟨⟨⟨hyear, by omega⟩, by omega⟩, by omega⟩, hday⟩
  · rw [if_neg hten] at hday hyear ⊢
    simp only [isValid, Bool.and_eq_true, decide_eq_true_eq]
    exact ⟨⟨⟨⟨hyear, by omega⟩, by omega⟩, by omega⟩, hday⟩

end Keyring.Date
