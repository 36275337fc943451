import Phrasebook.Format.DateFields

/-! Named styles of dates. -/
namespace Phrasebook

inductive DateStyle where
  | short | long | shortWithTime | shortWithExactTime | longWithTime | longWithExactTime
  | monthDay | shortMonthDay | monthYear | shortMonthYear | timeOnly | exactTime
deriving DecidableEq, Repr

namespace DateStyle

def all : List DateStyle :=
  [short, long, shortWithTime, shortWithExactTime, longWithTime, longWithExactTime,
    monthDay, shortMonthDay, monthYear, shortMonthYear, timeOnly, exactTime]

def name : DateStyle → String
  | short => "short"
  | long => "long"
  | shortWithTime => "shortWithTime"
  | shortWithExactTime => "shortWithExactTime"
  | longWithTime => "longWithTime"
  | longWithExactTime => "longWithExactTime"
  | monthDay => "monthDay"
  | shortMonthDay => "shortMonthDay"
  | monthYear => "monthYear"
  | shortMonthYear => "shortMonthYear"
  | timeOnly => "timeOnly"
  | exactTime => "exactTime"

/-- The letter that stands for a style. -/
def letter : DateStyle → Char
  | short => 'd'
  | long => 'D'
  | shortWithTime => 'g'
  | shortWithExactTime => 'G'
  | longWithTime => 'f'
  | longWithExactTime => 'F'
  | monthDay => 'M'
  | shortMonthDay => 'm'
  | monthYear => 'Y'
  | shortMonthYear => 'y'
  | timeOnly => 't'
  | exactTime => 'T'

/-- A style by its name or letter. -/
def ofName? (s : String) : Option DateStyle :=
  match s.toList with
  | [c] => all.find? (·.letter == c)
  | _ => all.find? (·.name == s)

def fields : DateStyle → DateFields
  | short => .numericDate
  | long => .longDate
  | shortWithTime => DateFields.numericDate.addTime false
  | shortWithExactTime => DateFields.numericDate.addTime true
  | longWithTime => DateFields.longDate.addTime false
  | longWithExactTime => DateFields.longDate.addTime true
  | monthDay => { month := some (.text .long), day := true }
  | shortMonthDay => { month := some (.text .short), day := true }
  | monthYear => { month := some (.text .long), year := true }
  | shortMonthYear => { month := some (.text .short), year := true }
  | timeOnly => DateFields.addTime {} false
  | exactTime => DateFields.addTime {} true

end DateStyle
end Phrasebook
