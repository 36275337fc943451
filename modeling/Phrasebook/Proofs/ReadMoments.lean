import Phrasebook.Proofs.MomentText

/-! A moment that is read from a text is one that is read back from what it is shown as, so that
reading and showing it once more changes nothing. -/
namespace Phrasebook.Calendar
variable {c : Clock} {m : Moment}

namespace Moment

/-- The moment is in a leap second. -/
def IsLeap (m : Moment) : Prop :=
  1000000000 ≤ m.nanos

instance : Decidable m.IsLeap :=
  inferInstanceAs (Decidable (1000000000 ≤ m.nanos))

theorem isLeap_inMillis : m.inMillis.IsLeap ↔ m.IsLeap := by
  simp only [IsLeap, inMillis]
  omega

/-- What is less than a millisecond is not shown. -/
theorem text_inMillis (m : Moment) : m.inMillis.text = m.text := by
  have hsecond : m.nanos / 1000000 * 1000000 / 1000000000 = m.nanos / 1000000000 := by omega
  have hmillis : m.nanos / 1000000 * 1000000 % 1000000000 / 1000000 =
      m.nanos % 1000000000 / 1000000 := by omega
  simp only [text, leapClock, clock, subsecond, inMillis, hsecond, hmillis]

/-- A clock shows the time that it was set to. A leap second repeats the second before. -/
theorem clock_ofClock (h : c.IsReadable) (nanos : ℕ) (o : Offset) :
    (ofClock c nanos o).clock = { c with second := c.second - c.second / 60 } := by
  obtain ⟨-, hdate, hhour, hminute, hsecond⟩ := h
  obtain ⟨date, hour, minute, second⟩ := c
  dsimp only at *
  have hlast : second - second / 60 ≤ 59 := by omega
  simp only [ofClock, clock, Int.sub_add_cancel]
  generalize second - second / 60 = second at hlast
  have hofDay : hour * 3600 + minute * 60 + second < 86400 := by omega
  generalize hn : hour * 3600 + minute * 60 + second = ofDay at hofDay
  have hday : (date.number * 86400 + (ofDay : ℤ)) / 86400 = date.number := by omega
  have htime : ((date.number * 86400 + (ofDay : ℤ)) % 86400).toNat = ofDay := by omega
  rw [hday, htime, Day.ofNumber_number hdate]
  congr <;> omega

end Moment

namespace Written

theorem clock_isReadable (w : Written) : w.clock.IsReadable where
  year := by
    have hlt := w.year.value_lt
    simp only [clock]
    omega
  date := w.isValid_date
  hour := w.hour_le
  minute := w.minute_le
  second := w.second_le

/-- Only a second 60 is read as a leap second, so that it ends its minute. -/
theorem moment_isOnClock (w : Written) : w.moment.IsOnClock := by
  have hfraction := fractionNanos_lt w.isDigit_fraction
  have hsecond := w.second_le
  have hclock := Moment.clock_ofClock w.clock_isReadable (fractionNanos w.fraction) w.zone.offset
  rw [Moment.IsOnClock, moment, hclock]
  simp only [Moment.ofClock, clock]
  omega

/-- What is read from a text is read back from what it is shown as. -/
theorem ofText?_text_moment (w : Written) :
    Moment.ofText? w.moment.text = some w.moment.inMillis := by
  refine Moment.ofText?_text ?_ w.moment_isOnClock (Dvd.intro_left w.zone.minutes rfl)
  rw [moment, Moment.clock_ofClock w.clock_isReadable]
  exact w.clock_isReadable.year

end Written
end Phrasebook.Calendar

namespace Phrasebook.Value
open Calendar
variable {s : String} {m : Moment}

/-- A text stands for a date just if it is, without the white space around it, a way to write it. -/
theorem moment_text_eq_ok_iff : (text s).moment = .ok m ↔
    ∃ w : Written, w.text = (Text.trim s).toList ∧ w.moment = m := by
  rw [← moment?_eq_some_iff, moment, moment?, Moment.ofText?]
  cases Calendar.moment? (Text.trim s).toList with
  | none => simp
  | some m' => simp

/-- A date that is read from a text is read again from its plain text, up to the millisecond. In a
leap second it stays in one, and its plain text stays the same. -/
theorem moment_plainText_of_moment (h : (text s).moment = .ok m) :
    (text (date m).plainText).moment = .ok m.inMillis ∧ (m.inMillis.IsLeap ↔ m.IsLeap) ∧
      (date m.inMillis).plainText = (date m).plainText := by
  obtain ⟨w, -, rfl⟩ := moment_text_eq_ok_iff.mp h
  refine ⟨?_, Moment.isLeap_inMillis, Moment.text_inMillis _⟩
  rw [plainText, moment, moment?, Text.trim_of_isSolid (Moment.isSolid_text _),
    w.ofText?_text_moment]

/-- A leap second in the evening that is already in the next year in UTC. -/
theorem moment_plainText_of_moment_leap_second : ∃ m : Moment,
    (text " 2016-12-31t23:59:60.9876543219\u221201:30 ").moment = .ok m ∧
      m = ⟨1483234199, 1987654321, ⟨-5400, by decide⟩⟩ ∧
      (date m).plainText = "2016-12-31T23:59:60.987-01:30" ∧
      (text "2016-12-31T23:59:60.987-01:30").moment = .ok m.inMillis ∧ m.inMillis.IsLeap ∧
      (date m.inMillis).plainText = "2016-12-31T23:59:60.987-01:30" := by
  let m : Moment := ⟨1483234199, 1987654321, ⟨-5400, by decide⟩⟩
  have hread : (text " 2016-12-31t23:59:60.9876543219\u221201:30 ").moment = .ok m := by
    decide
  have hplain : (date m).plainText = "2016-12-31T23:59:60.987-01:30" := by decide
  obtain ⟨hagain, hleap, hsame⟩ := moment_plainText_of_moment hread
  rw [hplain] at hagain hsame
  exact ⟨m, hread, rfl, hplain, hagain, hleap.mpr (by decide), hsame⟩

end Phrasebook.Value
