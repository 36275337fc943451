import Phrasebook.Calendar.Text
import Phrasebook.Dictionary
import Phrasebook.Error
import Phrasebook.Text.Blank

/-! Values that are put in place of placeholders, and how they are taken for numbers and dates. -/
namespace Phrasebook
open Calendar

inductive Value where
  | integer (n : Int64)
  | float (x : Binary64)
  | text (s : String)
  | date (m : Moment)
deriving DecidableEq

namespace Value

/-- The value as plain text. -/
def plainText : Value → String
  | integer n => (Decimal.ofInt n.toInt).text
  | float x => x.text
  | text s => s
  | date m => m.text

/-- Writes the value as plain text. A date is written by its wall clock. -/
def written (v : Value) : Except Failure String :=
  match v with
  | date m => if m.IsOnCalendar then .ok v.plainText else .error .offCalendar
  | _ => .ok v.plainText

def integer? : Value → Option Int64
  | integer n => some n
  | _ => none

/-- The number that a numeric value is. -/
def float? : Value → Option Binary64
  | integer n => some (.ofInt n.toInt)
  | float x => some x
  | _ => none

def text? : Value → Option String
  | text s => some s
  | _ => none

def date? : Value → Option Moment
  | date m => some m
  | _ => none

/-- The failure of a value that is not of the expected kind, which is written for it. -/
def mismatch (v : Value) (expected : String) : Failure :=
  match v.written with
  | .ok found => .mismatch ⟨expected, found⟩
  | .error failure => failure

/-- The value as a number. Text is read as one, without the white space around it. -/
def number (v : Value) : Except Failure Binary64 :=
  match v with
  | integer n => .ok (.ofInt n.toInt)
  | float x => .ok x
  | text s =>
    match Binary64.ofText? (Text.trim s) with
    | some x => .ok x
    | none => .error (v.mismatch "number")
  | date _ => .error (v.mismatch "number")

/-- The date that a value stands for: a number is a count of milliseconds since 1970, without its
fraction, and text is in RFC 3339. -/
def moment? : Value → Option Moment
  | integer n => Moment.ofMillis? n.toInt
  | float x => if x.isFinite then Moment.ofMillis? x.toInt64.toInt else none
  | text s => Moment.ofText? (Text.trim s)
  | date m => some m

def moment (v : Value) : Except Failure Moment :=
  match v.moment? with
  | some m => .ok m
  | none => .error (v.mismatch "date")

/-- Reads a 64-bit integer: an optional sign and digits, in range. -/
def integerOfText? (s : String) : Option Int64 :=
  let (negative, cs) := Binary64.sign s.toList
  match Text.digits? cs with
  | some (ds, []) =>
    let n : Int := Binary64.digitsValue ds
    let n := if negative then -n else n
    if Int64.minValue.toInt ≤ n && n ≤ Int64.maxValue.toInt then some (.ofInt n) else none
  | _ => none

/-- The value that a text most likely means: an integer, another number, a date, or itself. -/
def ofText (s : String) : Value :=
  match integerOfText? s with
  | some n => integer n
  | none =>
    match Binary64.ofText? s with
    | some x => float x
    | none =>
      match Moment.ofText? s with
      | some m => date m
      | none => text s

end Value

/-- Values by the names of the placeholders they are for. -/
abbrev Values := Dictionary Value

end Phrasebook
