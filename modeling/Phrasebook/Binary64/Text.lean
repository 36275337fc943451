import Phrasebook.Binary64.Shortest
import Phrasebook.Text.Word

/-! Writing floating-point numbers in full and reading them from decimal text. -/
namespace Phrasebook.Binary64
open Text

/-- The shortest decimal that reads back, written without an exponent; of two equally near, the one
further from zero. -/
def text (x : Binary64) : String :=
  match x with
  | nan => "NaN"
  | infinite negative => if negative then "-inf" else "inf"
  | finite negative m =>
    let (coefficient, exponent) := m.shortest .up
    (Decimal.ofScaled negative coefficient exponent).text

/-- The value of a run of digits. -/
def digitsValue (cs : List Char) : Nat :=
  cs.foldl (fun n c => 10 * n + (c.toNat - '0'.toNat)) 0

/-- A decimal number as written: a sign, a coefficient and an exponent of ten. -/
structure Written where
  negative : Bool
  coefficient : Nat
  exponent : Int
deriving DecidableEq, Repr

/-- A sign at the front, or none; and the rest. -/
def sign : List Char → Bool × List Char
  | '-' :: cs => (true, cs)
  | '+' :: cs => (false, cs)
  | cs => (false, cs)

/-- The exponent that ends a number; no text is the exponent zero. -/
def exponent? : List Char → Option Int
  | [] => some 0
  | c :: cs =>
    if c = 'e' || c = 'E' then
      let (negative, cs) := sign cs
      match digits? cs with
      | some (ds, []) => some (if negative then -(digitsValue ds : Int) else digitsValue ds)
      | _ => none
    else none

/-- The digits after a point, or none; and the rest. -/
def fraction : List Char → List Char × List Char
  | '.' :: cs => (cs.takeWhile Char.isDigit, cs.dropWhile Char.isDigit)
  | cs => ([], cs)

/-- Reads digits with an optional point, with digits on at least one side of it, and an optional
exponent. -/
def written? (cs : List Char) : Option Written :=
  let (negative, cs) := sign cs
  let whole := cs.takeWhile Char.isDigit
  let (fraction, rest) := fraction (cs.dropWhile Char.isDigit)
  if whole.isEmpty && fraction.isEmpty then none
  else (exponent? rest).map fun e => ⟨negative, digitsValue (whole ++ fraction), e - fraction.length⟩

/-- The number nearest to a written one. Exponents that put it beyond the limit, or below half of
the least positive number, are settled by its number of digits. -/
def ofWritten (w : Written) : Binary64 :=
  let top := w.exponent + (Nat.toDigits 10 w.coefficient).length
  if w.coefficient = 0 || top < -330 then ofRatio w.negative 0 1
  else if 330 < top then .infinite w.negative
  else ofRatio w.negative (w.coefficient * Nat.pow 10 w.exponent.toNat)
    (Nat.pow 10 (-w.exponent).toNat)

/-- The single-precision number nearest to a written one. -/
def ofWrittenSingle (w : Written) : Binary64 :=
  let top := w.exponent + (Nat.toDigits 10 w.coefficient).length
  if w.coefficient = 0 || top < -330 then ofRatio w.negative 0 1
  else if 330 < top then .infinite w.negative
  else ofRatioSingle w.negative (w.coefficient * Nat.pow 10 w.exponent.toNat)
    (Nat.pow 10 (-w.exponent).toNat)

/-- The names of numbers that are not finite, after their sign. -/
def named? (cs : List Char) : Option Binary64 :=
  let (negative, cs) := sign cs
  match (String.ofList cs).toLower with
  | "inf" | "infinity" => some (.infinite negative)
  | "nan" => some .nan
  | _ => none

/-- The number a whole text stands for. -/
def ofText? (s : String) : Option Binary64 :=
  match written? s.toList with
  | some w => some (ofWritten w)
  | none => named? s.toList

/-- The single-precision number a whole text stands for. -/
def ofTextSingle? (s : String) : Option Binary64 :=
  match written? s.toList with
  | some w => some (ofWrittenSingle w)
  | none => named? s.toList

end Phrasebook.Binary64
