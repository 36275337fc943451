import Phrasebook.Locale.DatePatterns

/-! The fields of a date and time that a format shows, and how a locale lays them out. -/
namespace Phrasebook
open Calendar

inductive NameWidth where
  | short
  | long
deriving DecidableEq, Repr

inductive MonthForm where
  | numeric
  | text (width : NameWidth)
deriving DecidableEq, Repr

/-- The fields that are shown; at first none is. -/
structure DateFields where
  weekday : Option NameWidth := none
  era : Bool := false
  year : Bool := false
  month : Option MonthForm := none
  day : Bool := false
  hour : Bool := false
  minute : Bool := false
  second : Bool := false
  timeZoneName : Bool := false
deriving DecidableEq, Repr

/-- How a locale lays fields out: parts with a comma between them, each as a pattern for most years
and one for years before 1000. -/
structure DateLayout where
  parts : List (Pattern × Pattern)
  names : DateNames
  symbols : NumberSymbols
deriving DecidableEq, Repr

namespace DateFields

/-- Day, month and year in numbers. -/
def numericDate : DateFields :=
  { year := true, month := some .numeric, day := true }

/-- Weekday, day, month and year, with names. -/
def longDate : DateFields :=
  { numericDate with weekday := some .long, month := some (.text .long) }

/-- Adds hours and minutes, and seconds for an exact time. -/
def addTime (f : DateFields) (exact : Bool) : DateFields :=
  { f with hour := true, minute := true, second := exact }

/-- The widest name that is shown sets the length of the whole date. -/
def length (f : DateFields) : DateLength :=
  if f.weekday = some .long || f.month = some (.text .long) then .long
  else if f.weekday = some .short || f.month = some (.text .short) then .medium
  else .short

/-- A time is shown: whether with seconds. An hour comes with its minutes, and minutes with their
hour. -/
def time? (f : DateFields) : Option Bool :=
  if f.second then some true
  else if f.hour || f.minute then some false
  else none

/-- A date with a day or a weekday. A year is then shown with its month and day, a weekday with a
month with its day. -/
def dayShape? (f : DateFields) : Option DateShape :=
  match f.year, f.month.isSome, f.day, f.weekday.isSome with
  | _, _, false, false => none
  | true, _, _, false => some .yearMonthDay
  | true, _, _, true => some .yearMonthDayWeekday
  | false, true, _, false => some .monthDay
  | false, true, _, true => some .monthDayWeekday
  | false, false, true, false => some .day
  | false, false, true, true => some .dayWeekday
  | false, false, false, true => some .weekday

/-- A month or a year without a day. -/
def periodShape? (f : DateFields) : Option DateShape :=
  match f.year, f.month.isSome with
  | true, true => some .yearMonth
  | true, false => some .year
  | false, true => some .month
  | false, false => none

/-- The patterns of the parts, of which one has both date and time if `attach` is set. A time is
never attached to a month or a year. -/
def patterns (f : DateFields) (p : DatePatterns) (attach : Bool) : List (String × String) :=
  let dated (shape : DateShape) :=
    let early := p.dateWithEra f.length shape
    (if f.era then early else p.date f.length shape, early)
  let timed := f.time?.toList.map fun exact => (p.time.get exact, p.time.get exact)
  match f.dayShape?, f.time? with
  | some shape, some exact =>
    if attach then
      let whole := p.dateAndTime f.length shape exact
      [(whole (dated shape).1, whole (dated shape).2)]
    else dated shape :: timed
  | some shape, none => [dated shape]
  | none, _ => (f.periodShape?.toList.map dated) ++ timed

/-- How a locale lays the fields out. English keeps date and time apart. -/
def layout (l : Locale) (f : DateFields) : DateLayout where
  parts := (f.patterns (.ofLocale l) (l.id.language != "en")).map fun (usual, early) =>
    (.ofText usual, .ofText early)
  names := .ofLocale l
  symbols := .ofLocale l

end DateFields

/-- The text of a layout on a clock. -/
def DateLayout.render (d : DateLayout) (c : Clock) : String :=
  ", ".intercalate <| d.parts.map fun (usual, early) =>
    (if c.date.year < 1000 then early else usual).render d.names d.symbols c

end Phrasebook
