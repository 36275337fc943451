import Phrasebook.Calendar.Text
import Phrasebook.Error
import Phrasebook.Format.DateStyle
import Phrasebook.Format.LocaleData

/-! Formats of dates and times. -/
namespace Phrasebook
open Calendar
variable {m : Type → Type} [Monad m]

namespace DateFields

/-- The clock that shows a moment in its own offset, if its year has at most four digits. -/
def clock (date : Moment) : Except Failure Clock :=
  date.clock?.elim (.error .offCalendar) fun c =>
    if -9999 ≤ c.date.year ∧ c.date.year ≤ 9999 then .ok c
    else .error (.mismatch ⟨"date in the supported range", date.textInSeconds⟩)

theorem clock_of_isOnCalendar {date : Moment} (h : date.IsOnCalendar) : clock date =
    if -9999 ≤ date.clock.date.year ∧ date.clock.date.year ≤ 9999 then .ok date.clock
    else .error (.mismatch ⟨"date in the supported range", date.textInSeconds⟩) := by
  rw [clock, date.clock?_of_isOnCalendar h, Option.elim_some]

theorem clock_of_not_isOnCalendar {date : Moment} (h : ¬ date.IsOnCalendar) :
    clock date = .error .offCalendar := by
  rw [clock, date.clock?_of_not_isOnCalendar h, Option.elim_none]

/-- The shown fields of a moment, the name of its time zone last. -/
def format (f : DateFields) (data : LocaleData m) (l : Locale) (date : Moment) :
    m (Except Failure String) :=
  match clock date with
  | .error e => pure (.error e)
  | .ok c => do
    let layout ← data.layout l f
    let text := layout.render c
    let gap := if text = "" then "" else " "
    pure (.ok (if f.timeZoneName then text ++ gap ++ date.offset.name else text))

end DateFields

inductive DateFormat where
  | fields (f : DateFields)
  | iso8601
  | rfc1123
  /-- Milliseconds since 1970. -/
  | timestamp
deriving DecidableEq, Repr

namespace DateFormat

/-- Reads a format: the name or letter of a style, or of one of the fixed formats. -/
def ofText (format : Option String) : Except PlaceholderError DateFormat :=
  let f := format.getD ""
  if f = "" then .ok (.fields DateStyle.short.fields)
  else if f ∈ ["iso8601", "O", "o"] then .ok .iso8601
  else if f ∈ ["rfc1123", "R", "r"] then .ok .rfc1123
  else if f = "timestamp" then .ok .timestamp
  else
    match DateStyle.ofName? f with
    | some style => .ok (.fields style.fields)
    | none => .error (.unknownDateFormat f)

def format (f : DateFormat) (data : LocaleData m) (l : Locale) (date : Moment) :
    m (Except Failure String) :=
  match f with
  | fields f => f.format data l date
  | iso8601 => pure (.ok date.inUtc.text)
  | rfc1123 => pure (.ok date.rfc1123)
  | timestamp => pure (.ok (Decimal.ofInt date.millis).text)

end DateFormat

inductive TimeFormat where
  | short
  | long
deriving DecidableEq, Repr

namespace TimeFormat

def ofText (format : Option String) : Except PlaceholderError TimeFormat :=
  let f := format.getD ""
  if f = "" || f = "short" then .ok short
  else if f = "long" then .ok long
  else .error (.unknownDateFormat f)

def fields (f : TimeFormat) : DateFields :=
  DateFields.addTime {} (f = long)

def format (f : TimeFormat) (data : LocaleData m) (l : Locale) (date : Moment) :
    m (Except Failure String) :=
  f.fields.format data l date

end TimeFormat
end Phrasebook
