import Phrasebook.Proofs.ReadMoments

/-! The ends of the calendar. What is read as a date has a wall clock, and so has every date in UTC;
only an offset moves a date off the calendar. -/
namespace Phrasebook.Calendar

/-- Later days are not in earlier years. -/
theorem Day.year_le_of_number_le {d d' : Day} (hd : d.isValid) (hd' : d'.isValid)
    (h : d.number ≤ d'.number) : d.year ≤ d'.year := by
  obtain ⟨m, rfl⟩ := MarchDay.exists_toDay_eq hd
  obtain ⟨m', rfl⟩ := MarchDay.exists_toDay_eq hd'
  have hmonth := m.month_lt
  have hmonth' := m'.month_lt
  have hlt' := m'.day_lt
  have hyear' := m'.day_lt_year
  rw [MarchDay.number_toDay, MarchDay.number_toDay] at h
  have hmarch : m.year ≤ m'.year := by
    by_contra hafter
    have hle := daysBefore_le (Int.add_one_le_of_lt (not_le.mp hafter))
    omega
  simp only [MarchDay.toDay, Day.ofMarch, monthStart] at h hlt' ⊢
  -- January and February are in the year after the one that their March year has.
  by_cases hsame : m.year = m'.year
  · rw [hsame] at h ⊢
    split <;> split <;> dsimp only <;> omega
  · split <;> split <;> dsimp only <;> omega

namespace Moment
variable {m : Moment}

/-- The calendar begins and ends with whole years in UTC. -/
theorem isOnCalendar_ofMillis {ms : ℤ} (hfirst : firstMillis ≤ ms) (hlast : ms ≤ lastMillis) :
    (ofMillis ms).IsOnCalendar := by
  let first : Day := ⟨firstYear, 1, 1⟩
  let last : Day := ⟨lastYear, 12, 31⟩
  have hvalid : (ofMillis ms).clock.date.isValid := Day.isValid_ofNumber _
  have hnumber : (ofMillis ms).clock.date.number = ms / 1000 / 86400 := by
    simp only [clock, ofMillis, Offset.utc, Day.number_ofNumber, add_zero]
  have hbegin : first.number = firstMillis / 1000 / 86400 := by decide
  have hend : last.number = lastMillis / 1000 / 86400 := by decide
  have hafter : first.number ≤ (ofMillis ms).clock.date.number := by omega
  have hbefore : (ofMillis ms).clock.date.number ≤ last.number := by omega
  exact ⟨Day.year_le_of_number_le (by decide : first.isValid) hvalid hafter,
    Day.year_le_of_number_le hvalid (by decide : last.isValid) hbefore⟩

end Moment

/-- A text has four digits for the year. -/
theorem Written.isOnCalendar_moment (w : Written) : w.moment.IsOnCalendar := by
  have hyear := w.clock_isReadable.year
  apply Moment.isOnCalendar_of_year
  rw [moment, Moment.clock_ofClock w.clock_isReadable]
  exact ⟨by dsimp only; omega, hyear.2⟩

end Phrasebook.Calendar

namespace Phrasebook.Value
open Calendar
variable {v : Value} {d : Moment}

/-- Dates that their offset moves off the calendar. -/
def IsOffCalendar : Value → Prop
  | date d => ¬ d.IsOnCalendar
  | _ => False

theorem isOnCalendar_of_ofMillis? {ms : ℤ} (h : Moment.ofMillis? ms = some d) : d.IsOnCalendar := by
  simp only [Moment.ofMillis?] at h
  split at h
  · rename_i hrange
    cases h
    simp only [Bool.and_eq_true, decide_eq_true_eq] at hrange
    exact Moment.isOnCalendar_ofMillis hrange.1 hrange.2
  · cases h

/-- Numbers and texts stand for dates on the calendar. -/
theorem isOnCalendar_of_moment? (hv : ¬ v.IsOffCalendar) (h : v.moment? = some d) :
    d.IsOnCalendar := by
  cases v with
  | integer n => exact isOnCalendar_of_ofMillis? h
  | float x =>
    simp only [moment?] at h
    split at h
    · exact isOnCalendar_of_ofMillis? h
    · cases h
  | text s =>
    obtain ⟨w, -, rfl⟩ := moment?_eq_some_iff.mp h
    exact w.isOnCalendar_moment
  | date m =>
    cases h
    exact not_not.mp hv

/-- What a text is taken for is no date off the calendar. -/
theorem not_isOffCalendar_ofText (s : String) : ¬ (ofText s).IsOffCalendar := by
  simp only [ofText]
  split
  · exact not_false
  · split
    · exact not_false
    · split
      · rename_i m hm
        obtain ⟨w, -, rfl⟩ := moment?_eq_some_iff.mp hm
        exact not_not.mpr w.isOnCalendar_moment
      · exact not_false

end Phrasebook.Value
