import Phrasebook.Binary64.Text
import Phrasebook.Calendar.Moment

/-! Dates as text: RFC 3339, read and written, and RFC 1123, written. -/
namespace Phrasebook.Calendar

/-- A number in decimal, with zeros in front up to a width. -/
def padded (width n : Nat) : String :=
  .ofList (Decimal.digits width n)

/-- Four digits; outside the years 0 to 9999 also a sign, and more digits as needed. -/
def yearText (year : Int) : String :=
  if 0 ≤ year && year ≤ 9999 then padded 4 year.natAbs
  else (if year < 0 then "-" else "+") ++ padded 4 year.natAbs

namespace Offset

/-- Sign, hours and minutes; the seconds go to the nearest minute, half a minute away from zero. -/
def text (o : Offset) : String :=
  let minutes := (o.seconds.natAbs + 30) / 60
  (if o.seconds < 0 then "-" else "+") ++ padded 2 (minutes / 60) ++ ":" ++ padded 2 (minutes % 60)

/-- Like `text`, but `Z` for no offset at all. -/
def textOrZ (o : Offset) : String :=
  if o.seconds = 0 then "Z" else o.text

/-- The name of the time zone with this offset. Seconds are shown unless they are zero. -/
def name (o : Offset) : String :=
  if o.seconds = 0 then "UTC"
  else
    let s := o.seconds.natAbs
    "GMT" ++ (if o.seconds < 0 then "-" else "+") ++ padded 2 (s / 3600) ++ ":" ++
      padded 2 (s / 60 % 60) ++ (if s % 60 = 0 then "" else ":" ++ padded 2 (s % 60))

end Offset

namespace Clock

def dateText (c : Clock) : String :=
  yearText c.date.year ++ "-" ++ padded 2 c.date.month ++ "-" ++ padded 2 c.date.day

def timeText (c : Clock) : String :=
  padded 2 c.hour ++ ":" ++ padded 2 c.minute ++ ":" ++ padded 2 c.second

end Clock

namespace Moment

/-- RFC 3339 with milliseconds, in the moment's offset. -/
def text (m : Moment) : String :=
  m.leapClock.dateText ++ "T" ++ m.leapClock.timeText ++ "." ++ padded 3 (m.subsecond / 1000000) ++
    m.offset.textOrZ

/-- RFC 3339 in whole seconds. -/
def textInSeconds (m : Moment) : String :=
  m.leapClock.dateText ++ "T" ++ m.leapClock.timeText ++ m.offset.textOrZ

/-- The date of RFC 1123, which is in UTC and English. -/
def rfc1123 (m : Moment) : String :=
  let c := m.inUtc.leapClock
  let days := ["Mon", "Tue", "Wed", "Thu", "Fri", "Sat", "Sun"]
  let months :=
    ["Jan", "Feb", "Mar", "Apr", "May", "Jun", "Jul", "Aug", "Sep", "Oct", "Nov", "Dec"]
  days.getD c.date.weekday "" ++ ", " ++ padded 2 c.date.day ++ " " ++
    months.getD (c.date.month - 1) "" ++ " " ++ yearText c.date.year ++ " " ++ c.timeText ++ " GMT"

end Moment

/-- A number of exactly `count` digits at the front, and the rest. -/
def fixedDigits? (count : Nat) (cs : List Char) : Option (Nat × List Char) :=
  let ds := cs.take count
  if ds.length = count && ds.all Char.isDigit then some (Binary64.digitsValue ds, cs.drop count)
  else none

/-- The rest after a given character. -/
def after? (c : Char) : List Char → Option (List Char)
  | c' :: cs => if c' = c then some cs else none
  | [] => none

/-- The nanoseconds of a fraction at the front: a point and digits, of which nine count. -/
def fraction? : List Char → Option (Nat × List Char)
  | '.' :: cs =>
    let ds := cs.takeWhile Char.isDigit
    if ds.isEmpty then none
    else
      let kept := ds.take 9
      some (Binary64.digitsValue kept * Nat.pow 10 (9 - kept.length), cs.dropWhile Char.isDigit)
  | cs => some (0, cs)

/-- The offset that is the whole text: `Z`, or a sign, hours and minutes. -/
def offset? : List Char → Option Offset
  | ['Z'] | ['z'] => some .utc
  | sign :: cs => do
    let negative ← if sign = '+' then some false
      else if sign = '-' || sign = '\u2212' then some true
      else none
    let (hours, cs) ← fixedDigits? 2 cs
    let (minutes, rest) ← fixedDigits? 2 (← after? ':' cs)
    if rest.isEmpty && hours ≤ 23 && minutes ≤ 59 then
      let seconds : Int := (hours * 3600 + minutes * 60 : Nat)
      Offset.ofSeconds? (if negative then -seconds else seconds)
    else none
  | [] => none

/-- Reads RFC 3339: a date, `T` or a space, a time to the second with an optional fraction, and an
offset. Any minute may have a second 60. -/
def moment? (cs : List Char) : Option Moment := do
  let (year, cs) ← fixedDigits? 4 cs
  let (month, cs) ← fixedDigits? 2 (← after? '-' cs)
  let (day, cs) ← fixedDigits? 2 (← after? '-' cs)
  let cs ← match cs with
    | c :: cs => if c = 'T' || c = 't' || c = ' ' then some cs else none
    | [] => none
  let (hour, cs) ← fixedDigits? 2 cs
  let (minute, cs) ← fixedDigits? 2 (← after? ':' cs)
  let (second, cs) ← fixedDigits? 2 (← after? ':' cs)
  let (nanos, cs) ← fraction? cs
  let offset ← offset? cs
  let date : Day := ⟨year, month, day⟩
  if date.isValid && hour ≤ 23 && minute ≤ 59 && second ≤ 60 then
    some (.ofClock ⟨date, hour, minute, second⟩ nanos offset)
  else none

/-- The moment that a text is in RFC 3339. -/
def Moment.ofText? (s : String) : Option Moment :=
  moment? s.toList

end Phrasebook.Calendar
