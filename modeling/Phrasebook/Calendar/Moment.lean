import Phrasebook.Calendar.Day

/-! Instants, each with the offset from UTC that it is shown in. -/
namespace Phrasebook.Calendar

/-- An offset from UTC of less than a day, in seconds to the east. -/
structure Offset where
  seconds : Int
  lt_day : seconds.natAbs < 86400
deriving DecidableEq, Repr

namespace Offset

def utc : Offset := ⟨0, by decide⟩

def ofSeconds? (seconds : Int) : Option Offset :=
  if h : seconds.natAbs < 86400 then some ⟨seconds, h⟩ else none

end Offset

/-- An instant by its whole seconds since 1970-01-01 in UTC and the nanoseconds after them. In a leap
second these are one thousand million or more, counted from the second before it. -/
structure Moment where
  seconds : Int
  nanos : Nat
  offset : Offset
deriving DecidableEq, Repr

/-- A wall clock: a day and a time on it. -/
structure Clock where
  date : Day
  hour : Nat
  minute : Nat
  second : Nat
deriving DecidableEq, Repr

namespace Moment

/-- The wall clock in the moment's offset, on a calendar without end. It has no leap seconds and
repeats the second before. -/
def clock (m : Moment) : Clock :=
  let seconds := m.seconds + m.offset.seconds
  let ofDay := (seconds % 86400).toNat
  ⟨.ofNumber (seconds / 86400), ofDay / 3600, ofDay / 60 % 60, ofDay % 60⟩

/-- The first and the last year of the calendar. -/
def firstYear : Int := -262143
def lastYear : Int := 262142

/-- The moment's offset does not move it off the calendar. -/
def IsOnCalendar (m : Moment) : Prop :=
  firstYear ≤ m.clock.date.year ∧ m.clock.date.year ≤ lastYear

instance (m : Moment) : Decidable m.IsOnCalendar :=
  inferInstanceAs (Decidable (_ ∧ _))

theorem isOnCalendar_of_year {m : Moment}
    (h : -9999 ≤ m.clock.date.year ∧ m.clock.date.year ≤ 9999) : m.IsOnCalendar := by
  simp only [IsOnCalendar, firstYear, lastYear]
  omega

/-- The wall clock in the moment's offset, if it is on the calendar. -/
def clock? (m : Moment) : Option Clock :=
  if m.IsOnCalendar then some m.clock else none

theorem clock?_of_isOnCalendar {m : Moment} (h : m.IsOnCalendar) : m.clock? = some m.clock :=
  if_pos h

theorem clock?_of_not_isOnCalendar {m : Moment} (h : ¬ m.IsOnCalendar) : m.clock? = none :=
  if_neg h

/-- The wall clock that counts a leap second as one more. -/
def leapClock (m : Moment) : Clock :=
  { m.clock with second := m.clock.second + m.nanos / 1000000000 }

/-- The nanoseconds into the second that `leapClock` shows. -/
def subsecond (m : Moment) : Nat :=
  m.nanos % 1000000000

/-- The same instant in another offset. -/
def withOffset (m : Moment) (offset : Offset) : Moment :=
  { m with offset }

def inUtc (m : Moment) : Moment :=
  m.withOffset .utc

/-- The moment when a clock in `offset` shows this time; a second 60 is a leap second. -/
def ofClock (c : Clock) (nanos : Nat) (offset : Offset) : Moment :=
  let leap := c.second / 60
  let seconds := c.date.number * 86400 + (c.hour * 3600 + c.minute * 60 + (c.second - leap) : Nat)
  ⟨seconds - offset.seconds, nanos + leap * 1000000000, offset⟩

/-- Midnight in UTC. -/
def ofDay (d : Day) : Moment :=
  ofClock ⟨d, 0, 0, 0⟩ 0 .utc

/-- The milliseconds since 1970-01-01 in UTC. -/
def millis (m : Moment) : Int :=
  m.seconds * 1000 + (m.nanos / 1000000 : Nat)

/-- The moment in UTC at this many milliseconds since 1970-01-01. -/
def ofMillis (ms : Int) : Moment :=
  ⟨ms / 1000, (ms % 1000).toNat * 1000000, .utc⟩

/-- The first and the last millisecond of the calendar, in UTC. -/
def firstMillis : Int := -8334601228800000
def lastMillis : Int := 8210266876799999

def ofMillis? (ms : Int) : Option Moment :=
  if firstMillis ≤ ms && ms ≤ lastMillis then some (ofMillis ms) else none

end Moment
end Phrasebook.Calendar
