/-! What can go wrong with a phrase, and how it is told. -/
namespace Phrasebook

/-- A placeholder whose type or format means nothing. -/
inductive PlaceholderError where
  /-- There is no such type, or the type needs clauses and has none. -/
  | unsupportedType (kind : String) (format : Option String)
  | unknownNumberFormat (format : String)
  | unknownDateFormat (format : String)
deriving DecidableEq, Repr

/-- A value that a format cannot show: what the format shows, and the value in plain text. -/
structure Mismatch where
  expected : String
  found : String
deriving DecidableEq, Repr

/-- Why a value is not shown. -/
inductive Failure where
  | mismatch (e : Mismatch)
  /-- The clock of a date is off the calendar. The program stops there. -/
  | offCalendar
deriving DecidableEq, Repr

/-- Why nothing can be said. -/
inductive PhraseError where
  /-- The active locale has no phrases. -/
  | notLoaded (locale : String)
  | placeholder (e : PlaceholderError)
  | value (e : Failure)
deriving DecidableEq, Repr

def PlaceholderError.message : PlaceholderError → String
  | unsupportedType kind format =>
    "unsupported type \"" ++ kind ++ "\" and format \"" ++ format.getD "" ++ "\""
  | unknownNumberFormat format => "number format \"" ++ format ++ "\" is not recognized"
  | unknownDateFormat format => "date format \"" ++ format ++ "\" is not recognized"

def Mismatch.message (e : Mismatch) : String :=
  "expected a " ++ e.expected ++ " value, got '" ++ e.found ++ "'"

def Failure.message : Failure → String
  | mismatch e => e.message
  | offCalendar => "local time out of range"

def PhraseError.message : PhraseError → String
  | notLoaded locale => "no translations loaded for locale '" ++ locale ++ "'"
  | placeholder e => e.message
  | value e => e.message

end Phrasebook
