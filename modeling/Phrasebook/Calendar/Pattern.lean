import Phrasebook.Calendar.Moment
import Phrasebook.Locale.DateNames
import Phrasebook.Locale.NumberSymbols

/-! Date patterns: runs of a letter stand for fields, and other text, or text in single quotes, stands
for itself. -/
namespace Phrasebook.Calendar

inductive PatternItem where
  | text (c : Char)
  /-- A field by its letter, and how often the letter is written. -/
  | field (letter : Char) (width : Nat)
deriving DecidableEq, Repr

abbrev Pattern := List PatternItem

namespace Pattern

/-- Puts a letter in front, joining it to a field of that letter. -/
def consLetter (c : Char) : Pattern → Pattern
  | .field letter width :: items =>
    if letter = c then .field c (width + 1) :: items
    else .field c 1 :: .field letter width :: items
  | items => .field c 1 :: items

/-- Reads a pattern, inside or outside quotes. -/
def read (quoted : Bool) : List Char → Pattern
  | [] => []
  | c :: cs =>
    if c = '\'' then read (!quoted) cs
    else if !quoted && c.isAlpha then consLetter c (read quoted cs)
    else .text c :: read quoted cs

def ofText (s : String) : Pattern :=
  read false s.toList

/-- The pattern shows the hours of half a day. -/
def usesHalfDays (p : Pattern) : Bool :=
  p.any fun
    | .field 'h' _ => true
    | _ => false

end Pattern

/-- The year of its era. -/
def eraYear (year : Int) : Nat :=
  if year ≤ 0 then (1 - year).toNat else year.toNat

/-- The text of a field on a clock. -/
def PatternItem.render (names : DateNames) (symbols : NumberSymbols) (c : Clock) :
    PatternItem → String
  | text c => c.toString
  | field letter width =>
    let number (n : Nat) := symbols.plain width n
    let name (short long : List String) (n : Nat) :=
      (if width ≤ 3 then short else long).getD n ""
    let month := c.date.month - 1
    match letter with
    | 'y' => number (eraYear c.date.year)
    | 'M' =>
      if width ≤ 2 then number c.date.month else name names.shortMonths names.months month
    | 'L' =>
      if width ≤ 2 then number c.date.month
      else name names.aloneShortMonths names.aloneMonths month
    | 'd' => number c.date.day
    | 'E' => name names.shortWeekdays names.weekdays c.date.weekday
    | 'c' => name names.aloneShortWeekdays names.aloneWeekdays c.date.weekday
    | 'G' => names.eras.getD (if c.date.year ≤ 0 then 0 else 1) ""
    | 'a' => names.periods.getD (c.hour / 12) ""
    | 'H' => number c.hour
    | 'h' => number ((c.hour + 11) % 12 + 1)
    | 'm' => number c.minute
    | 's' => number c.second
    | _ => ""

/-- The text of a pattern on a clock. -/
def Pattern.render (names : DateNames) (symbols : NumberSymbols) (c : Clock) (p : Pattern) :
    String :=
  String.join (p.map (·.render names symbols c))

end Phrasebook.Calendar
