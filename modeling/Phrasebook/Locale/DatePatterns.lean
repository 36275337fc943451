import Phrasebook.Calendar.Pattern

/-! The patterns that locales write dates and times with. -/
namespace Phrasebook

/-- Which parts of a date are shown. -/
inductive DateShape where
  | yearMonthDay | yearMonthDayWeekday | monthDay | monthDayWeekday | day | dayWeekday | weekday
  | yearMonth | month | year
deriving DecidableEq, Repr

/-- How much room a date takes. -/
inductive DateLength where
  | short | medium | long
deriving DecidableEq, Repr

/-- The patterns of one shape by length. -/
structure ByLength where
  short : String
  medium : String
  long : String
deriving DecidableEq, Repr

def ByLength.get (b : ByLength) : DateLength → String
  | .short => b.short
  | .medium => b.medium
  | .long => b.long

/-- One pattern for all lengths. -/
def ByLength.same (s : String) : ByLength :=
  ⟨s, s, s⟩

/-- A pattern with minutes, and one with seconds. -/
structure TimePatterns where
  minutes : String
  seconds : String
deriving DecidableEq, Repr

def TimePatterns.get (t : TimePatterns) (exact : Bool) : String :=
  if exact then t.seconds else t.minutes

/-- The patterns of one locale, as written. -/
structure DatePatterns where
  yearMonthDay : ByLength
  yearMonthDayWeekday : ByLength
  monthDay : ByLength
  monthDayWeekday : ByLength := yearMonthDayWeekday
  day : String := "d"
  dayWeekday : ByLength := monthDayWeekday
  weekday : ByLength := ⟨"ccc", "ccc", "cccc"⟩
  yearMonth : ByLength
  month : ByLength := ⟨"L", "LLL", "LLLL"⟩
  year : String := "y"
  time : TimePatterns
  /-- What stands between a date and a time. -/
  between : ByLength
  /-- What stands after the time of a long date. -/
  afterLong : String := ""
  /-- The year and its era. -/
  yearWithEra : String := "y GGG"
  /-- A long date with its weekday and era, where it is not the usual pattern with `yearWithEra`. -/
  longWithEra : Option String := none
  /-- Dates with times that do not have their parts' patterns. -/
  withTime : List ((DateShape × DateLength) × TimePatterns) := []
deriving DecidableEq, Repr

namespace DatePatterns

/-- The pattern of a date. -/
def date (p : DatePatterns) (length : DateLength) : DateShape → String
  | .yearMonthDay => p.yearMonthDay.get length
  | .yearMonthDayWeekday => p.yearMonthDayWeekday.get length
  | .monthDay => p.monthDay.get length
  | .monthDayWeekday => p.monthDayWeekday.get length
  | .day => p.day
  | .dayWeekday => p.dayWeekday.get length
  | .weekday => p.weekday.get length
  | .yearMonth => p.yearMonth.get length
  | .month => p.month.get length
  | .year => p.year

/-- The pattern of a date that names the era of its year. -/
def dateWithEra (p : DatePatterns) (length : DateLength) (shape : DateShape) : String :=
  let usual := (p.date length shape).replace "y" p.yearWithEra
  if shape = .yearMonthDayWeekday && length = .long then p.longWithEra.getD usual else usual

/-- The pattern of a date and a time, given the date's. -/
def dateAndTime (p : DatePatterns) (length : DateLength) (shape : DateShape) (exact : Bool)
    (date : String) : String :=
  match p.withTime.lookup (shape, length) with
  | some patterns => patterns.get exact
  | none =>
    date ++ p.between.get length ++ p.time.get exact ++ if length = .long then p.afterLong else ""

/-- The patterns of locales in which only the usual dates are written. -/
def usual (numeric full monthDay shortMonthDay monthYear shortMonthYear : String)
    (time : TimePatterns) (between betweenLong : String) : DatePatterns where
  yearMonthDay := .same numeric
  yearMonthDayWeekday := .same full
  monthDay := ⟨shortMonthDay, shortMonthDay, monthDay⟩
  yearMonth := ⟨shortMonthYear, shortMonthYear, monthYear⟩
  time
  between := ⟨between, between, betweenLong⟩

/-- Hours and minutes with two digits each, from 0 to 23. -/
def fullDay : TimePatterns :=
  ⟨"HH:mm", "HH:mm:ss"⟩

/-- Hours from 0 to 23 with as many digits as they have. -/
def shortHours : TimePatterns :=
  ⟨"H:mm", "H:mm:ss"⟩

/-- Hours from 1 to 12 with a day period. -/
def halfDay : TimePatterns :=
  ⟨"h:mm\u202fa", "h:mm:ss\u202fa"⟩

def root : DatePatterns :=
  usual "y-MM-dd" "y MMMM d, EEEE" "MMMM d" "MMM d" "y MMMM" "y MMM" fullDay " " " "

def english : DatePatterns where
  yearMonthDay := ⟨"M/d/y", "MMM d, y", "MMMM d, y"⟩
  yearMonthDayWeekday := ⟨"E, MMM d, y", "E, MMM d, y", "EEEE, MMMM d, y"⟩
  monthDay := ⟨"M/d", "MMM d", "MMMM d"⟩
  monthDayWeekday := ⟨"E, MMM d", "E, MMM d", "EEEE, MMMM d"⟩
  dayWeekday := ⟨"d E", "d E", "d EEEE"⟩
  yearMonth := ⟨"M/y", "MMM y", "MMMM y"⟩
  time := halfDay
  between := .same ", "

def british : DatePatterns where
  yearMonthDay := ⟨"dd/MM/y", "d MMM y", "d MMMM y"⟩
  yearMonthDayWeekday := ⟨"E, d MMM y", "E, d MMM y", "EEEE, d MMMM y"⟩
  monthDay := ⟨"dd/MM", "d MMM", "d MMMM"⟩
  monthDayWeekday := ⟨"E d MMM", "E d MMM", "EEEE d MMMM"⟩
  dayWeekday := ⟨"E d", "E d", "EEEE d"⟩
  yearMonth := ⟨"MM/y", "MMM y", "MMMM y"⟩
  time := fullDay
  between := .same ", "

def canadian : DatePatterns :=
  { english with yearMonthDay := ⟨"y-MM-dd", "MMM d, y", "MMMM d, y"⟩ }

def australian : DatePatterns :=
  { british with
    yearMonthDayWeekday := ⟨"E d MMM y", "E d MMM y", "EEEE d MMMM y"⟩
    time := halfDay }

def german : DatePatterns where
  yearMonthDay := ⟨"dd.MM.y", "dd.MM.y", "d. MMMM y"⟩
  yearMonthDayWeekday := ⟨"E, dd.MM.y", "E, dd.MM.y", "EEEE, d. MMMM y"⟩
  monthDay := ⟨"dd.MM.", "d. MMM", "d. MMMM"⟩
  monthDayWeekday := ⟨"E, d. MMM", "E, d. MMM", "EEEE, d. MMMM"⟩
  dayWeekday := ⟨"E, d.", "E, d.", "EEEE, d."⟩
  yearMonth := ⟨"MM/y", "MM/y", "MMMM y"⟩
  time := fullDay
  between := ⟨", ", ", ", " 'um' "⟩
  longWithEra := some "d MMMM 'Y' GGG, EEEE"
  withTime := [
    ((.weekday, .medium), ⟨"E, HH:mm", "E, HH:mm:ss"⟩),
    ((.weekday, .long), ⟨"EEEE, H:m", "EEEE, H:m:s"⟩),
    ((.dayWeekday, .long), ⟨"EEEE, d'. um' HH:mm", "EEEE, d'. um' HH:mm:ss"⟩)]

def french : DatePatterns where
  yearMonthDay := ⟨"dd/MM/y", "d MMM y", "d MMMM y"⟩
  yearMonthDayWeekday := ⟨"E d MMM y", "E d MMM y", "EEEE d MMMM y"⟩
  monthDay := ⟨"dd/MM", "d MMM", "d MMMM"⟩
  monthDayWeekday := ⟨"E d MMM", "E d MMM", "EEEE d MMMM"⟩
  dayWeekday := ⟨"E d", "E d", "EEEE d"⟩
  weekday := ⟨"E", "E", "EEEE"⟩
  yearMonth := ⟨"MM/y", "MMM y", "MMMM y"⟩
  time := fullDay
  between := ⟨" ", ", ", " à "⟩
  withTime := [
    ((.weekday, .medium), ⟨"E HH:mm", "E HH:mm:ss"⟩),
    ((.weekday, .long), ⟨"EEEE H:m", "EEEE H:m:s"⟩)]

def canadianFrench : DatePatterns :=
  { french with
    yearMonthDay := ⟨"y-MM-dd", "d MMM y", "d MMMM y"⟩
    time := ⟨"HH 'h' mm", "HH 'h' mm 'min' ss 's'"⟩ }

def japanese : DatePatterns where
  yearMonthDay := ⟨"y/MM/dd", "y/MM/dd", "y年M月d日"⟩
  yearMonthDayWeekday := ⟨"y/MM/dd(E)", "y/MM/dd(E)", "y年M月d日EEEE"⟩
  monthDay := ⟨"MM/dd", "M月d日", "M月d日"⟩
  monthDayWeekday := ⟨"M月d日(E)", "M月d日(E)", "M月d日EEEE"⟩
  day := "d日"
  dayWeekday := ⟨"d日(E)", "d日(E)", "d日EEEE"⟩
  yearMonth := ⟨"y/MM", "y/MM", "y年M月"⟩
  month := .same "M月"
  year := "y年"
  time := shortHours
  between := .same " "
  yearWithEra := "GGGy"
  withTime := [
    ((.weekday, .medium), ⟨"H:mm (E)", "H:mm:ss (E)"⟩),
    ((.weekday, .long), ⟨"H:m (EEEE)", "H:m:s (EEEE)"⟩)]

def hindi : DatePatterns :=
  { usual "d/M/y" "EEEE, d MMMM, y" "d MMMM" "d MMM" "MMMM y" "MMM y" ⟨"h:mm a", "h:mm:ss a"⟩
      ", " " को " with
    afterLong := " बजे" }

/-- The patterns of the languages that are covered. A language that is not here is given the
patterns of the root locale in place of its own. -/
def table : List (String × DatePatterns) := [
  ("en", english), ("en-GB", british), ("en-CA", canadian), ("en-AU", australian),
  ("de", german), ("fr", french), ("fr-CA", canadianFrench), ("ja", japanese), ("hi", hindi),
  ("es", usual "d/M/y" "EEEE, d 'de' MMMM 'de' y" "d 'de' MMMM" "d MMM" "MMMM 'de' y" "MMM y"
    fullDay ", " " 'a las' "),
  ("it", usual "dd/MM/y" "EEEE d MMMM y" "d MMMM" "d MMM" "MMMM y" "MMM y"
    fullDay ", " " 'alle ore' "),
  ("pt", usual "dd/MM/y" "EEEE, d 'de' MMMM 'de' y" "d 'de' MMMM" "d 'de' MMM" "MMMM 'de' y"
    "MMM 'de' y" fullDay ", " " 'às' "),
  ("nl", usual "dd-MM-y" "EEEE d MMMM y" "d MMMM" "d MMM" "MMMM y" "MMM y"
    fullDay ", " " 'om' "),
  ("ru", usual "dd.MM.y" "EEEE, d MMMM y\u202fг." "d MMMM" "d MMM" "LLLL y\u202fг."
    "LLL y\u202fг." fullDay ", " " в "),
  ("pl", usual "dd.MM.y" "EEEE, d MMMM y" "d MMMM" "d MMM" "LLLL y" "LLL y" fullDay ", " " "),
  ("cs", usual "dd. MM. y" "EEEE d. MMMM y" "d. MMMM" "d. M." "LLLL y" "M/y"
    shortHours " " " 'v' "),
  ("sv", usual "y-MM-dd" "EEEE d MMMM y" "d MMMM" "d MMM" "MMMM y" "MMM y"
    fullDay " " " 'kl.' "),
  ("fi", usual "d.M.y" "cccc d. MMMM y" "d. MMMM" "d.M." "LLLL y" "L.y"
    ⟨"H.mm", "H.mm.ss"⟩ " 'klo' " " 'klo' "),
  ("tr", usual "d.MM.y" "d MMMM y EEEE" "d MMMM" "d MMM" "MMMM y" "MMM y" fullDay " " " "),
  ("zh", usual "y/M/d" "y年M月d日EEEE" "M月d日" "M月d日" "y年M月" "y年M月" fullDay " " " "),
  ("ko", usual "y/M/d" "y년 MMMM d일 EEEE" "MMMM d일" "MMM d일" "y년 MMMM" "y/M"
    ⟨"a h:mm", "a h:mm:ss"⟩ " " " "),
  ("ar", usual "d\u200f/M\u200f/y" "EEEE، d MMMM y" "d MMMM" "d MMM" "MMMM y" "MM\u200f/y"
    ⟨"h:mm a", "h:mm:ss a"⟩ "، " " في "),
  ("he", usual "d.M.y" "EEEE, d בMMMM y" "d בMMMM" "d בMMM" "MMMM y" "MMM y"
    shortHours ", " " בשעה "),
  ("hu", usual "y. MM. dd." "y. MMMM d., EEEE" "MMMM d." "MMM d." "y. MMMM" "y. MMM"
    shortHours " " " ")]

/-- The times that a locale asks for by its hour cycle, if it is not the usual one. -/
def hourCycle (l : Locale) (time : TimePatterns) : TimePatterns :=
  let halfDays := (Calendar.Pattern.ofText time.minutes).usesHalfDays
  match l.keyword? "hc" with
  | some ["h12"] => if halfDays then time else halfDay
  | some ["h23"] => if halfDays then fullDay else time
  | _ => time

def ofLocale (l : Locale) : DatePatterns :=
  let p := l.lookup table root
  { p with time := hourCycle l p.time }

end DatePatterns
end Phrasebook
