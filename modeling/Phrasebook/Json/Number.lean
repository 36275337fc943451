import Phrasebook.Binary64.Shortest
import Phrasebook.Json.Fault
import Phrasebook.Text.Word

/-! Numbers of JSON, which stand where a string is expected and are told in the message. -/
namespace Phrasebook.Json
open Text

/-- The greatest significand; digits that would go beyond it are only counted. -/
def maxSignificand : Nat := Nat.pow 2 64 - 1

def maxExponent : Nat := Nat.pow 2 31 - 1

/-- Takes digits into a significand while it has room, and counts those that it took. -/
def takeDigits (significand taken : Nat) : List Char → Nat × Nat × List Char
  | [] => (significand, taken, [])
  | c :: cs =>
    let next := significand * 10 + (c.toNat - '0'.toNat)
    if c.isDigit && next ≤ maxSignificand then takeDigits next (taken + 1) cs
    else (significand, taken, c :: cs)

/-- Multiplies or divides by a power of ten, in steps of at most 308 of its places. Nothing comes of
a number that grows beyond all numbers. -/
def scale : Nat → Binary64 → Int → Option Binary64
  | 0, x, _ => some x
  | steps + 1, x, exponent =>
    let power (n : Nat) := Binary64.ofRatio false (Nat.pow 10 n) 1
    if exponent.natAbs ≤ 308 then
      if 0 ≤ exponent then
        let scaled := x * power exponent.natAbs
        if scaled.isFinite then some scaled else none
      else some (x / power exponent.natAbs)
    else if x.sameValue .zero then some x
    else if 0 ≤ exponent then none
    else scale steps (x / power 308) (exponent + 308)

/-- A number with a fraction or an exponent, as told: from 1e-5 to 1e16 without an exponent, which
else has its sign. -/
def floatingText (x : Binary64) : String :=
  match x with
  | .finite negative m =>
    let (coefficient, exponent) := m.shortest .even
    let digits := Nat.toDigits 10 coefficient
    let places : Int := digits.length + exponent
    let zeros (n : Int) := List.replicate n.toNat '0'
    let body :=
      if coefficient = 0 then "0.0".toList
      else if 0 ≤ exponent && places ≤ 16 then digits ++ zeros exponent ++ ".0".toList
      else if 0 < places && places ≤ 16 then
        digits.take places.toNat ++ '.' :: digits.drop places.toNat
      else if -5 < places && places ≤ 0 then "0.".toList ++ zeros (-places) ++ digits
      else
        let mantissa := if digits.length = 1 then digits
          else digits.take 1 ++ '.' :: digits.drop 1
        let power := (Decimal.ofInt (places - 1)).text.toList
        mantissa ++ 'e' :: if places < 1 then power else '+' :: power
    .ofList (if negative then '-' :: body else body)
  | x => if x.isNegative then "-inf" else "inf"

/-- A number of these parts. A fault shows before the rest. -/
def floating (negative : Bool) (significand : Nat) (exponent : Int) (rest : List Char) :
    Except Fault (Found × List Char) :=
  match scale (exponent.natAbs / 308 + 1) (.ofInt significand) exponent with
  | none => .error (.before .numberOutOfRange rest)
  | some x => .ok (.floating (floatingText (if negative then -x else x)), rest)

/-- The number whose exponent starts here, after its letter. -/
def readExponent (negative : Bool) (significand : Nat) (exponent : Int) (cs : List Char) :
    Except Fault (Found × List Char) :=
  let (down, cs) := match cs with
    | '-' :: cs => (true, cs)
    | '+' :: cs => (false, cs)
    | cs => (false, cs)
  match cs with
  | [] => .error (.before .endInValue [])
  | c :: after =>
    if !c.isDigit then .error (.atNext .invalidNumber (c :: after))
    else
      let (value, taken, rest) := takeExponent (c.toNat - '0'.toNat) after
      if taken then
        let change : Int := if down then -value else value
        floating negative significand (exponent + change) rest
      else if significand ≠ 0 && !down then .error (.before .numberOutOfRange rest)
      else floating negative 0 0 (rest.dropWhile Char.isDigit)
where
  /-- Digits of an exponent, and whether all of them had room. -/
  takeExponent (value : Nat) : List Char → Nat × Bool × List Char
    | [] => (value, true, [])
    | c :: cs =>
      if c.isDigit then
        let next := value * 10 + (c.toNat - '0'.toNat)
        if maxExponent < next then (value, false, cs) else takeExponent next cs
      else (value, true, c :: cs)

/-- What follows the digits of a number's fraction, or of a number without one. -/
def readEnd (negative : Bool) (significand : Nat) (exponent : Int) (cs : List Char) :
    Except Fault (Found × List Char) :=
  match cs with
  | 'e' :: cs | 'E' :: cs => readExponent negative significand exponent cs
  | cs => floating negative significand exponent cs

/-- The number whose fraction starts here, after its point. -/
def readFraction (negative : Bool) (significand : Nat) (exponent : Int) (cs : List Char) :
    Except Fault (Found × List Char) :=
  let (significand, taken, rest) := takeDigits significand 0 cs
  let exponent := exponent - taken
  match rest with
  | c :: _ =>
    if c.isDigit then readEnd negative significand exponent (rest.dropWhile Char.isDigit)
    else if taken = 0 then .error (.atNext .invalidNumber rest)
    else readEnd negative significand exponent rest
  | [] =>
    if taken = 0 then .error (.atNext .endInValue rest)
    else readEnd negative significand exponent rest

/-- What follows the digits of a number before its point. -/
def readAfterWhole (negative : Bool) (significand : Nat) (cs : List Char) :
    Except Fault (Found × List Char) :=
  match cs with
  | '.' :: cs => readFraction negative significand 0 cs
  | 'e' :: cs | 'E' :: cs => readExponent negative significand 0 cs
  | cs =>
    if !negative then .ok (.integer significand, cs)
    else if 0 < significand && significand ≤ Nat.pow 2 63 then .ok (.integer (-significand), cs)
    else .ok (.floating (floatingText (-.ofInt significand)), cs)

/-- A number, after its minus sign if it has one. -/
def readNumber (negative : Bool) (cs : List Char) : Except Fault (Found × List Char) :=
  match cs with
  | [] => .error (.before .endInValue [])
  | '0' :: cs =>
    match digits? cs with
    | some _ => .error (.atNext .invalidNumber cs)
    | none => readAfterWhole negative 0 cs
  | c :: after =>
    if !c.isDigit then .error (.atNext .invalidNumber (c :: after))
    else
      let (significand, _, rest) := takeDigits 0 0 (c :: after)
      let more := rest.takeWhile Char.isDigit
      if more.isEmpty then readAfterWhole negative significand rest
      else
        match rest.dropWhile Char.isDigit with
        | '.' :: cs => readFraction negative significand more.length cs
        | rest => readEnd negative significand more.length rest

end Phrasebook.Json
