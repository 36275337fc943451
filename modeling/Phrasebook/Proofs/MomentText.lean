import Phrasebook.Proofs.Days
import Phrasebook.Proofs.WrittenMoments
import Phrasebook.Format.Date
import Phrasebook.Value

/-! Moments as text. What is written in RFC 3339 is read back, up to the millisecond. -/
namespace Phrasebook.Calendar
open Decimal
variable {n : ℕ}

theorem isSolid_padded (width n : ℕ) : Text.isSolid (padded width n) := by
  rw [Text.isSolid, padded, String.toList_ofList, List.all_eq_true]
  intro c hc
  have hword := Text.isWordChar_of_isDigit (isDigit_of_mem_digits hc)
  simpa using Text.isBlank_eq_false_of_isWordChar hword

theorem isSolid_yearText (year : ℤ) : Text.isSolid (yearText year) := by
  rw [yearText]
  split
  · exact isSolid_padded 4 _
  · rw [Text.isSolid_append, isSolid_padded]
    split <;> decide

namespace Offset
variable {o : Offset}

theorem toList_text (o : Offset) : o.text.toList = (if o.seconds < 0 then '-' else '+') ::
    (digits 2 ((o.seconds.natAbs + 30) / 60 / 60) ++ ':' ::
      digits 2 ((o.seconds.natAbs + 30) / 60 % 60)) := by
  rw [text]
  split <;> simp [padded]

/-- The text of an offset of whole minutes is a way to write it. -/
theorem exists_zone (h : 60 ∣ o.seconds) :
    ∃ z : Zone, z.text = o.textOrZ.toList ∧ z.offset = o := by
  obtain ⟨seconds, hlt⟩ := o
  rw [textOrZ]
  split
  · rename_i hz
    obtain rfl : seconds = 0 := hz
    exact ⟨.utc 'Z' (Or.inl rfl), by decide, rfl⟩
  · rw [toList_text]
    dsimp only at h ⊢
    have hwhole : (seconds.natAbs + 30) / 60 * 60 = seconds.natAbs := by omega
    generalize (seconds.natAbs + 30) / 60 = minutes at hwhole
    refine ⟨.hoursMinutes (if seconds < 0 then '-' else '+') (by split <;> decide)
      (.ofNat (minutes / 60) (by omega) (by decide)) (by rw [Field.value_ofNat]; omega)
      (.ofNat (minutes % 60) (by omega) (by decide)) (by rw [Field.value_ofNat]; omega), rfl, ?_⟩
    simp only [Zone.offset, Zone.minutes, Field.value_ofNat, mk.injEq]
    by_cases hneg : seconds < 0
    · rw [if_pos hneg, if_neg (by decide)]
      omega
    · rw [if_neg hneg, if_pos rfl]
      omega

theorem isSolid_textOrZ (o : Offset) : Text.isSolid o.textOrZ := by
  rw [textOrZ]
  split
  · decide
  · simp only [text, Text.isSolid_append, isSolid_padded, Bool.and_true]
    split <;> decide

end Offset

theorem daysInMonth_le (year : ℤ) (month : ℕ) : daysInMonth year month ≤ 31 := by
  rw [daysInMonth]
  split <;> split <;> decide

/-- A clock whose text is read: a leap second may follow any minute. -/
structure Clock.IsReadable (c : Clock) : Prop where
  year : 0 ≤ c.date.year ∧ c.date.year ≤ 9999
  date : c.date.isValid
  hour : c.hour ≤ 23
  minute : c.minute ≤ 59
  second : c.second ≤ 60

theorem Clock.IsReadable.month_day {c : Clock} (h : c.IsReadable) :
    c.date.month ≤ 12 ∧ c.date.day ≤ 31 := by
  have hdate := h.date
  have hle := daysInMonth_le c.date.year c.date.month
  simp only [Day.isValid, Bool.and_eq_true, decide_eq_true_eq] at hdate
  omega

/-- Milliseconds as the fraction of a second. -/
theorem fraction_digits (hn : n < 1000) : fractionText (digits 3 n) = '.' :: digits 3 n ∧
    fractionNanos (digits 3 n) = n * 1000000 := by
  have hlength : (digits 3 n).length = 3 := length_digits hn (by decide)
  have htake : (digits 3 n).take 9 = digits 3 n := List.take_of_length_le (by omega)
  constructor
  · rw [fractionText]
    intro h
    rw [h] at hlength
    cases hlength
  · rw [fractionNanos, htake, hlength, ofDigitChars_digits_nil]
    rfl

/-- There is a way to write each readable clock in milliseconds. -/
theorem Clock.IsReadable.exists_written {c : Clock} {o : Offset} {millis : ℕ} (h : c.IsReadable)
    (hmillis : millis < 1000) (ho : 60 ∣ o.seconds) :
    ∃ w : Written, w.text = digits 4 c.date.year.natAbs ++ '-' :: (digits 2 c.date.month ++ '-' ::
      (digits 2 c.date.day ++ 'T' :: (digits 2 c.hour ++ ':' :: (digits 2 c.minute ++ ':' ::
        (digits 2 c.second ++ '.' :: (digits 3 millis ++ o.textOrZ.toList)))))) ∧
      w.moment = .ofClock c (millis * 1000000) o := by
  obtain ⟨hmonth, hday⟩ := h.month_day
  obtain ⟨⟨hyear, hyear'⟩, hdate, hhour, hminute, hsecond⟩ := h
  obtain ⟨⟨year, month, day⟩, hour, minute, second⟩ := c
  obtain ⟨year, rfl⟩ := Int.eq_ofNat_of_zero_le hyear
  dsimp only at *
  obtain ⟨zone, hzone, rfl⟩ := o.exists_zone ho
  let w : Written :=
    { year := .ofNat year (by omega) (by decide)
      month := .ofNat month (by omega) (by decide)
      day := .ofNat day (by omega) (by decide)
      isValid_date := by simpa using hdate
      separator := 'T'
      isSeparator_separator := Or.inl rfl
      hour := .ofNat hour (by omega) (by decide)
      hour_le := by simpa using hhour
      minute := .ofNat minute (by omega) (by decide)
      minute_le := by simpa using hminute
      second := .ofNat second (by omega) (by decide)
      second_le := by simpa using hsecond
      fraction := digits 3 millis
      isDigit_fraction := fun _ hc => isDigit_of_mem_digits hc
      zone }
  obtain ⟨hfraction, hnanos⟩ := fraction_digits hmillis
  refine ⟨w, ?_, ?_⟩
  · simp [w, Written.text, Field.ofNat, hfraction, hzone]
  · simp [w, Written.moment, Written.clock, hnanos]

namespace Moment
variable {m : Moment}

/-- A leap second ends its minute. -/
def IsOnClock (m : Moment) : Prop :=
  m.nanos < 1000000000 ∨ m.clock.second = 59 ∧ m.nanos < 2000000000

/-- Without what is less than a millisecond. -/
def inMillis (m : Moment) : Moment :=
  { m with nanos := m.nanos / 1000000 * 1000000 }

theorem second_le (m : Moment) : m.clock.second ≤ 59 := by
  simp only [clock]
  omega

theorem seconds_eq (m : Moment) : m.seconds = m.clock.date.number * 86400 +
    (m.clock.hour * 3600 + m.clock.minute * 60 + m.clock.second : ℕ) - m.offset.seconds := by
  simp only [clock, Day.number_ofNumber]
  omega

theorem leapClock_isReadable (hyear : 0 ≤ m.clock.date.year ∧ m.clock.date.year ≤ 9999)
    (h : m.IsOnClock) : m.leapClock.IsReadable where
  year := hyear
  date := Day.isValid_ofNumber _
  hour := by
    simp only [leapClock, clock]
    omega
  minute := by
    simp only [leapClock, clock]
    omega
  second := by
    have hsecond := m.second_le
    simp only [leapClock]
    rcases h with hlt | ⟨hlast, hlt⟩ <;> omega

/-- The moment when a clock shows what it shows at a moment. -/
theorem ofClock_leapClock (h : m.IsOnClock) :
    ofClock m.leapClock (m.subsecond / 1000000 * 1000000) m.offset = m.inMillis := by
  have hseconds := m.seconds_eq
  have hleap : (m.clock.second + m.nanos / 1000000000) / 60 = m.nanos / 1000000000 := by
    have hsecond := m.second_le
    rcases h with hlt | ⟨hlast, hlt⟩ <;> omega
  simp only [ofClock, leapClock, subsecond, inMillis, hleap, mk.injEq, and_true]
  omega

theorem toList_text (h : 0 ≤ m.clock.date.year ∧ m.clock.date.year ≤ 9999) : m.text.toList =
    digits 4 m.leapClock.date.year.natAbs ++ '-' :: (digits 2 m.leapClock.date.month ++ '-' ::
      (digits 2 m.leapClock.date.day ++ 'T' :: (digits 2 m.leapClock.hour ++ ':' ::
        (digits 2 m.leapClock.minute ++ ':' :: (digits 2 m.leapClock.second ++ '.' ::
          (digits 3 (m.subsecond / 1000000) ++ m.offset.textOrZ.toList)))))) := by
  simp [text, Clock.dateText, Clock.timeText, yearText, leapClock, h, padded]

/-- A moment is read back from its text up to the millisecond, if it has a year of four digits and
an offset of whole minutes. -/
theorem ofText?_text (hyear : 0 ≤ m.clock.date.year ∧ m.clock.date.year ≤ 9999) (h : m.IsOnClock)
    (hoffset : 60 ∣ m.offset.seconds) : ofText? m.text = some m.inMillis := by
  have hmillis : m.subsecond / 1000000 < 1000 := by
    rw [subsecond]
    omega
  rw [ofText?, toList_text hyear, moment?_eq_some_iff, ← ofClock_leapClock h]
  exact (leapClock_isReadable hyear h).exists_written hmillis hoffset

theorem isSolid_text (m : Moment) : Text.isSolid m.text := by
  simp only [text, Clock.dateText, Clock.timeText, isSolid_yearText, Offset.isSolid_textOrZ,
    Text.isSolid_append, isSolid_padded, Bool.and_true, Bool.true_and]
  decide

/-! Moments by their milliseconds. -/

theorem millis_ofMillis (ms : ℤ) : (ofMillis ms).millis = ms := by
  simp only [ofMillis, millis]
  omega

theorem inMillis_ofMillis (ms : ℤ) : (ofMillis ms).inMillis = ofMillis ms := by
  simp only [ofMillis, inMillis, mk.injEq, and_true, true_and]
  omega

theorem isOnClock_ofMillis (ms : ℤ) : (ofMillis ms).IsOnClock := by
  left
  simp only [ofMillis]
  omega

end Moment
end Phrasebook.Calendar

namespace Phrasebook
open Calendar

theorem Value.eq_ofMillis_of_moment {n : Int64} {m : Moment} (h : (integer n).moment = .ok m) :
    m = .ofMillis n.toInt := by
  simp only [moment, moment?, Moment.ofMillis?] at h
  split at h
  · rename_i m' hm
    split at hm
    · cases hm
      cases h
      rfl
    · cases hm
  · cases h

namespace DateFormat
variable {M : Type → Type} [Monad M]

/-- A count of milliseconds that stands for a date is what the date is shown as in milliseconds,
whatever offset it was moved to. Its text in RFC 3339 stands for the same date in UTC, as long as
the year has four digits. -/
theorem format_of_millis {n : Int64} {m : Moment} (h : (Value.integer n).moment = .ok m)
    (data : LocaleData M) (l : Locale) (offset : Offset) :
    timestamp.format data l (m.withOffset offset) = pure (.ok (Value.integer n).plainText) ∧
      (0 ≤ m.inUtc.clock.date.year ∧ m.inUtc.clock.date.year ≤ 9999 →
        ∃ text, iso8601.format data l (m.withOffset offset) = pure (.ok text) ∧
          (Value.text text).moment = .ok m.inUtc) := by
  obtain rfl := Value.eq_ofMillis_of_moment h
  constructor
  · have hmillis : ((Moment.ofMillis n.toInt).withOffset offset).millis = n.toInt :=
      Moment.millis_ofMillis n.toInt
    rw [format, hmillis, Value.plainText]
  · intro hyear
    have hread : Moment.ofText? (Moment.ofMillis n.toInt).inUtc.text =
        some (Moment.ofMillis n.toInt).inUtc := by
      rw [Moment.ofText?_text hyear (Moment.isOnClock_ofMillis n.toInt) (dvd_zero 60)]
      exact congrArg some (Moment.inMillis_ofMillis n.toInt)
    refine ⟨(Moment.ofMillis n.toInt).inUtc.text, rfl, ?_⟩
    rw [Value.moment, Value.moment?, Text.trim_of_isSolid (Moment.isSolid_text _), hread]

/-- The last millisecond of the leap day of year 0, with an offset that moves it into March. -/
theorem format_of_millis_leap_day : ∃ m : Moment,
    (Value.integer (-62162035200001)).moment = .ok m ∧
      (m.withOffset ⟨3600, by decide⟩).clock.date = ⟨0, 3, 1⟩ ∧
      timestamp.format .direct .english (m.withOffset ⟨3600, by decide⟩) =
        .ok "-62162035200001" ∧
      iso8601.format .direct .english (m.withOffset ⟨3600, by decide⟩) =
        .ok "0000-02-29T23:59:59.999Z" ∧
      (Value.text "0000-02-29T23:59:59.999Z").moment = .ok m.inUtc := by
  let m : Moment := .ofMillis (-62162035200001)
  have hmoment : (Value.integer (-62162035200001)).moment = .ok m := by decide
  obtain ⟨htimestamp, htext⟩ := format_of_millis hmoment .direct .english ⟨3600, by decide⟩
  obtain ⟨text, hiso8601, hread⟩ := htext (by decide)
  have hplain : (Value.integer (-62162035200001)).plainText = "-62162035200001" := by
    decide
  have hshown : m.inUtc.text = "0000-02-29T23:59:59.999Z" := by decide
  have hdirect : iso8601.format .direct .english (m.withOffset ⟨3600, by decide⟩) =
      .ok "0000-02-29T23:59:59.999Z" := congrArg Except.ok hshown
  obtain rfl : text = "0000-02-29T23:59:59.999Z" :=
    Except.ok.inj (hiso8601.symm.trans hdirect)
  exact ⟨m, hmoment, by decide, hplain ▸ htimestamp, hdirect, hread⟩

end DateFormat
end Phrasebook
