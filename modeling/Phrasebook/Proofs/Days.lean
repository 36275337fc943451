import Mathlib.Tactic.IntervalCases
import Phrasebook.Calendar.Day

/-! The days of the calendar are numbered without gaps. Both directions go by years that start in
March, whose months start at fixed days. -/
namespace Phrasebook.Calendar
variable {year year' n d : ℤ} {month day : ℕ}

theorem isLeapYear_iff : isLeapYear year ↔ year % 4 = 0 ∧ (year % 100 ≠ 0 ∨ year % 400 = 0) := by
  simp [isLeapYear]

/-- The days before a year that starts in March, from the start of year 0 on. -/
def daysBefore (year : ℤ) : ℤ :=
  365 * year + year / 4 - year / 100 + year / 400

/-- A year that starts in March ends with the leap day of the next one. -/
theorem daysBefore_succ (year : ℤ) :
    daysBefore (year + 1) = daysBefore year + if isLeapYear (year + 1) then 366 else 365 := by
  simp only [isLeapYear_iff, daysBefore]
  split <;> omega

theorem daysBefore_le (h : year ≤ year') : daysBefore year ≤ daysBefore year' := by
  simp only [daysBefore]
  omega

/-- Every era of 400 years has as many days. -/
theorem daysBefore_era (year era : ℤ) :
    daysBefore (year + era * 400) = daysBefore year + era * 146097 := by
  simp only [daysBefore]
  omega

/-! The year of a day in its era. -/

/-- A day of an era by centuries, cycles of four years, years and days. The last year of a cycle is
longer, but that of a century only in the last one. -/
structure EraDay where
  century : ℤ
  century_range : 0 ≤ century ∧ century ≤ 3
  cycle : ℤ
  cycle_range : 0 ≤ cycle ∧ cycle ≤ 24
  year : ℤ
  year_range : 0 ≤ year ∧ year ≤ 3
  day : ℕ
  day_lt : day < 365 ∨ day = 365 ∧ year = 3 ∧ (cycle < 24 ∨ century = 3)

namespace EraDay

/-- The days of the era before this one. -/
def number (e : EraDay) : ℤ :=
  36524 * e.century + 1461 * e.cycle + 365 * e.year + e.day

/-- The year of the era that the day is in. -/
def yearOfEra (e : EraDay) : ℤ :=
  100 * e.century + 4 * e.cycle + e.year

theorem exists_number_eq (h : 0 ≤ d) (hlt : d < 146097) : ∃ e : EraDay, e.number = d := by
  let century := min (d / 36524) 3
  let ofCentury := d - 36524 * century
  let ofCycle := ofCentury % 1461
  let year := min (ofCycle / 365) 3
  refine ⟨⟨century, by omega, ofCentury / 1461, by omega, year, by omega,
    (ofCycle - 365 * year).toNat, by omega⟩, ?_⟩
  simp only [number]
  omega

theorem number_range (e : EraDay) : 0 ≤ e.number ∧ e.number < 146097 := by
  obtain ⟨century, hcentury, cycle, hcycle, year, hyear, day, hlt⟩ := e
  simp only [number]
  omega

theorem daysBefore_yearOfEra (e : EraDay) : daysBefore e.yearOfEra = e.number - e.day := by
  obtain ⟨century, hcentury, cycle, hcycle, year, hyear, day, -⟩ := e
  simp only [daysBefore, yearOfEra, number]
  omega

theorem number_lt (e : EraDay) : e.number < daysBefore (e.yearOfEra + 1) := by
  rw [daysBefore_succ, daysBefore_yearOfEra]
  rcases e.day_lt with hshort | ⟨hday, hyear, hlong⟩
  · split <;> omega
  · have hleap : isLeapYear (e.yearOfEra + 1) := by
      obtain ⟨hcycle, hcycle'⟩ := e.cycle_range
      rw [isLeapYear_iff, yearOfEra, hyear]
      omega
    rw [if_pos hleap]
    omega

/-- The year is what a single division gives once the leap days are taken out. -/
theorem yearOfEra_eq (e : EraDay) : (e.number - e.number / 1460 + e.number / 36524 -
    e.number / 146096) / 365 = e.yearOfEra := by
  obtain ⟨century, hcentury, cycle, hcycle, year, hyear, day, hlt⟩ := e
  simp only [number, yearOfEra]
  generalize hd : 36524 * century + 1461 * cycle + 365 * year + (day : ℤ) = d
  by_cases hlast : d = 146096
  · subst hlast
    omega
  · have hcenturies : d / 36524 = century := by omega
    have hera : d / 146096 = 0 := by omega
    -- Cycles of 1460 days are too short, but a day is taken for one of the next cycle only in the
    -- last year of its own.
    have hcycles : d / 1460 = 25 * century + cycle ∨
        year = 3 ∧ 0 < day ∧ d / 1460 = 25 * century + cycle + 1 := by omega
    rw [hcenturies, hera]
    omega

/-- The day of the year is what is left of the day of the era. -/
theorem day_eq (e : EraDay) :
    e.number - (365 * e.yearOfEra + e.yearOfEra / 4 - e.yearOfEra / 100) = e.day := by
  obtain ⟨century, hcentury, cycle, hcycle, year, hyear, day, -⟩ := e
  simp only [number, yearOfEra]
  omega

end EraDay

/-! Days by years that start in March, which is month 0. -/

/-- The days before a month of a year that starts in March. -/
def monthStart (month : ℕ) : ℕ :=
  (153 * month + 2) / 5

/-- The day with this month of a year that starts in March. -/
def Day.ofMarch (year : ℤ) (month day : ℕ) : Day :=
  if month < 10 then ⟨year, month + 3, day⟩ else ⟨year + 1, month - 9, day⟩

theorem Day.exists_ofMarch_eq {d : Day} (h : 1 ≤ d.month ∧ d.month ≤ 12) :
    ∃ year month, month < 12 ∧ ofMarch year month d.day = d := by
  obtain ⟨year, month, day⟩ := d
  dsimp only at h
  by_cases hm : month ≤ 2
  · refine ⟨year - 1, month + 9, by omega, ?_⟩
    rw [ofMarch, if_neg (by omega), Int.sub_add_cancel, Nat.add_sub_cancel]
  · refine ⟨year, month - 3, by omega, ?_⟩
    rw [ofMarch, if_pos (by omega), Nat.sub_add_cancel (by omega)]

theorem Day.number_ofMarch (h : month < 12) : (ofMarch year month day).number =
    daysBefore year + (monthStart month + day : ℕ) - 719469 := by
  by_cases hmonth : month < 10
  · have hmarch : ¬ month + 3 ≤ 2 := by omega
    simp only [ofMarch, hmonth, number, hmarch, if_true, if_false, daysBefore, monthStart]
    omega
  · have hmarch : month - 9 ≤ 2 := by omega
    simp only [ofMarch, hmonth, number, hmarch, if_true, if_false, daysBefore, monthStart]
    omega

/-- A month lasts until the next one starts, but the last one until the year ends. -/
theorem Day.isValid_ofMarch (h : month < 12) : (ofMarch year month (day + 1)).isValid ↔
    monthStart month + day < monthStart (month + 1) ∧
      daysBefore year + (monthStart month + day : ℕ) < daysBefore (year + 1) := by
  rw [daysBefore_succ]
  by_cases hleap : isLeapYear (year + 1)
  all_goals
    interval_cases month
    all_goals
      simp [ofMarch, isValid, daysInMonth, monthStart, hleap]
      omega

/-- A day of a year that starts in March; the days of a month are counted from 0. -/
structure MarchDay where
  year : ℤ
  month : ℕ
  month_lt : month < 12
  day : ℕ
  day_lt : monthStart month + day < monthStart (month + 1)
  day_lt_year : daysBefore year + (monthStart month + day : ℕ) < daysBefore (year + 1)

namespace MarchDay
variable {m m' : MarchDay}

def toDay (m : MarchDay) : Day :=
  .ofMarch m.year m.month (m.day + 1)

theorem number_toDay (m : MarchDay) : m.toDay.number =
    daysBefore m.year + (monthStart m.month + m.day : ℕ) - 719468 := by
  rw [toDay, Day.number_ofMarch m.month_lt]
  omega

theorem isValid_toDay (m : MarchDay) : m.toDay.isValid :=
  (Day.isValid_ofMarch m.month_lt).mpr ⟨m.day_lt, m.day_lt_year⟩

theorem exists_toDay_eq {d : Day} (h : d.isValid) : ∃ m : MarchDay, m.toDay = d := by
  have hrange : (1 ≤ d.month ∧ d.month ≤ 12) ∧ 1 ≤ d.day := by
    simp only [Day.isValid, Bool.and_eq_true, decide_eq_true_eq] at h
    exact h.1
  obtain ⟨year, month, hmonth, hd⟩ := Day.exists_ofMarch_eq hrange.1
  rw [← Nat.sub_add_cancel hrange.2] at hd
  rw [← hd] at h ⊢
  obtain ⟨hlt, hyear⟩ := (Day.isValid_ofMarch hmonth).mp h
  exact ⟨⟨year, month, hmonth, d.day - 1, hlt, hyear⟩, rfl⟩

/-- Different days have different numbers, as neither years nor months overlap. -/
theorem eq_of_number_eq (h : m.toDay.number = m'.toDay.number) : m = m' := by
  rw [number_toDay, number_toDay] at h
  obtain ⟨year, month, hmonth, day, hday, hlt⟩ := m
  obtain ⟨year', month', hmonth', day', hday', hlt'⟩ := m'
  dsimp only at h
  have hyear : year = year' := by
    rcases lt_trichotomy year year' with hbefore | heq | hafter
    · have hle := daysBefore_le (Int.add_one_le_of_lt hbefore)
      omega
    · exact heq
    · have hle := daysBefore_le (Int.add_one_le_of_lt hafter)
      omega
  subst hyear
  simp only [monthStart] at h hday hday'
  obtain rfl : month = month' := by omega
  obtain rfl : day = day' := by omega
  rfl

/-- The month of a day of the year, by the number of days before it. -/
def monthOf (day : ℕ) : ℕ :=
  (5 * day + 2) / 153

theorem monthOf_spec (day : ℕ) :
    monthStart (monthOf day) ≤ day ∧ day < monthStart (monthOf day + 1) := by
  simp only [monthStart, monthOf]
  omega

/-- A day of an era, by its year. -/
def ofEra (era : ℤ) (e : EraDay) : MarchDay where
  year := e.yearOfEra + era * 400
  month := monthOf e.day
  month_lt := by
    have hlt := e.day_lt
    rw [monthOf]
    omega
  day := e.day - monthStart (monthOf e.day)
  day_lt := by
    have hmonth := monthOf_spec e.day
    omega
  day_lt_year := by
    have hmonth := monthOf_spec e.day
    have hdays := e.daysBefore_yearOfEra
    have hlt := e.number_lt
    rw [Int.add_right_comm, daysBefore_era, daysBefore_era]
    omega

theorem number_toDay_ofEra (era : ℤ) (e : EraDay) :
    (ofEra era e).toDay.number = era * 146097 + e.number - 719468 := by
  have hmonth := monthOf_spec e.day
  have hdays := e.daysBefore_yearOfEra
  rw [number_toDay, ofEra, daysBefore_era]
  dsimp only
  omega

theorem ofNumber_eq (era : ℤ) (e : EraDay) :
    Day.ofNumber (era * 146097 + e.number - 719468) = (ofEra era e).toDay := by
  have hrange := e.number_range
  have hera : (era * 146097 + e.number) / 146097 = era := by omega
  have hnumber : era * 146097 + e.number - era * 146097 = e.number := by omega
  have hmonth : (5 * (e.day : ℤ) + 2) / 153 = monthOf e.day := by
    rw [monthOf]
    omega
  have hday : ((e.day : ℤ) - (153 * monthOf e.day + 2) / 5 + 1).toNat =
      e.day - monthStart (monthOf e.day) + 1 := by
    have hspec := monthOf_spec e.day
    rw [monthStart] at hspec ⊢
    omega
  change Day.ofNumber _ = .ofMarch (e.yearOfEra + era * 400) (monthOf e.day)
    (e.day - monthStart (monthOf e.day) + 1)
  simp only [Day.ofNumber, Int.sub_add_cancel, hera, hnumber, e.yearOfEra_eq, e.day_eq, hmonth,
    hday, Int.toNat_natCast, Nat.cast_lt_ofNat, Day.ofMarch]

end MarchDay

namespace Day

theorem exists_marchDay (n : ℤ) : ∃ m : MarchDay, m.toDay.number = n ∧ ofNumber n = m.toDay := by
  obtain ⟨e, he⟩ := EraDay.exists_number_eq (d := (n + 719468) % 146097) (by omega) (by omega)
  have hn : n = (n + 719468) / 146097 * 146097 + e.number - 719468 := by omega
  rw [hn]
  exact ⟨_, MarchDay.number_toDay_ofEra _ e, MarchDay.ofNumber_eq _ e⟩

/-- Each number is that of its day. -/
theorem number_ofNumber (n : ℤ) : (ofNumber n).number = n := by
  obtain ⟨m, hn, hm⟩ := exists_marchDay n
  rw [hm, hn]

theorem isValid_ofNumber (n : ℤ) : (ofNumber n).isValid := by
  obtain ⟨m, -, hm⟩ := exists_marchDay n
  exact hm ▸ m.isValid_toDay

/-- Each day of the calendar is that of its number. -/
theorem ofNumber_number {d : Day} (h : d.isValid) : ofNumber d.number = d := by
  obtain ⟨m, rfl⟩ := MarchDay.exists_toDay_eq h
  obtain ⟨m', hn, hm⟩ := exists_marchDay m.toDay.number
  rw [hm, MarchDay.eq_of_number_eq hn]

example : ofNumber (-719469) = ⟨0, 2, 29⟩ ∧ ofNumber (-719468 + 146097) = ⟨400, 3, 1⟩ := by
  decide

end Day
end Phrasebook.Calendar
