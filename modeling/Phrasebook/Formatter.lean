import Phrasebook.Format.Clauses
import Phrasebook.Format.Date
import Phrasebook.Locale.Reading
import Phrasebook.Value

/-! Formatters: what the type and the format of a placeholder stand for. -/
namespace Phrasebook
variable {m : Type → Type} [Monad m]

/-- The types that a placeholder may have. -/
inductive ArgumentType where
  | text | date | time | number | plural | selectOrdinal | select
deriving DecidableEq, Repr

namespace ArgumentType

def name : ArgumentType → String
  | text => ""
  | date => "date"
  | time => "time"
  | number => "number"
  | plural => "plural"
  | selectOrdinal => "selectordinal"
  | select => "select"

def all : List ArgumentType :=
  [text, date, time, number, plural, selectOrdinal, select]

def ofName? (s : String) : Option ArgumentType :=
  all.find? (·.name == s)

end ArgumentType

inductive Formatter where
  | plainText
  | date (f : DateFormat)
  | time (f : TimeFormat)
  | number (f : NumberFormat)
  | plural (f : PluralFormat)
  | select (f : SelectFormat)
deriving DecidableEq, Repr

namespace Formatter

/-- The formatter for a type and a format. A type that needs clauses is not supported without. -/
def ofFormat (kind : String) (format : Option String) : Except PlaceholderError Formatter :=
  let unsupported := PlaceholderError.unsupportedType kind format
  match ArgumentType.ofName? kind with
  | none => .error unsupported
  | some .text => .ok plainText
  | some .date => date <$> DateFormat.ofText format
  | some .time => time <$> TimeFormat.ofText format
  | some .number => number <$> NumberFormat.ofText format
  | some .plural =>
    match format with
    | some body => .ok (plural (.ofText body .cardinal))
    | none => .error unsupported
  | some .selectOrdinal =>
    match format with
    | some body => .ok (plural (.ofText body .ordinal))
    | none => .error unsupported
  | some .select =>
    match format with
    | some body => .ok (select (.ofText body))
    | none => .error unsupported

/-- The text of a value for the first well-formed locale tag. -/
def format (f : Formatter) (data : LocaleData m) (settings : CurrencySettings)
    (locales : List String) (v : Value) : m (Except Failure String) :=
  let l := Locale.resolve locales
  match f with
  | plainText => pure v.written
  | date f =>
    match v.moment with
    | .ok d => f.format data l d
    | .error e => pure (.error e)
  | time f =>
    match v.moment with
    | .ok d => f.format data l d
    | .error e => pure (.error e)
  | number f =>
    match v.number with
    | .ok x => .ok <$> f.format data settings l x
    | .error e => pure (.error e)
  | plural f =>
    match v.number with
    | .ok x => .ok <$> f.format data l x
    | .error e => pure (.error e)
  | select f => pure (f.format <$> v.written)

end Formatter
end Phrasebook
