import Phrasebook.Rounding

/-! Decimal numbers as they are written: a sign, digits, and the place of the point. -/
namespace Phrasebook

/-- The number `coefficient / 10^places`, to be written with `places` digits after the point and at
least `width` before it. -/
structure Decimal where
  negative : Bool
  coefficient : Nat
  places : Nat
  width : Nat
deriving DecidableEq, Repr

namespace Decimal

/-- The number `coefficient * 10^exponent`, written in full. -/
def ofScaled (negative : Bool) (coefficient : Nat) : Int → Decimal
  | .ofNat e => ⟨negative, coefficient * Nat.pow 10 e, 0, 1⟩
  | .negSucc e => ⟨negative, coefficient, e + 1, 1⟩

def ofInt (n : Int) : Decimal :=
  ⟨n < 0, n.natAbs, 0, 1⟩

/-- Rounds a half away from zero to a multiple of `10^-most`. A number shorter than the place it is
rounded at gets zeros in front up to that place. -/
def roundTo (most : Int) (x : Decimal) : Decimal :=
  let dropped := ((x.places : Int) - most).toNat
  if dropped = 0 then x
  else
    let kept := roundQuotient .up x.coefficient (Nat.pow 10 dropped)
    match most with
    | .ofNat m => ⟨x.negative, kept, m, x.width⟩
    | .negSucc m => ⟨x.negative, kept * Nat.pow 10 (m + 1), 0, Nat.max x.width (m + 1)⟩

/-- Drops zeros at the end of the fraction. -/
def trimFraction (x : Decimal) : Decimal :=
  go x.places x.coefficient
where
  go : Nat → Nat → Decimal
    | 0, coefficient => ⟨x.negative, coefficient, 0, x.width⟩
    | places + 1, coefficient =>
      if coefficient % 10 = 0 then go places (coefficient / 10)
      else ⟨x.negative, coefficient, places + 1, x.width⟩

/-- Adds zeros at the end of the fraction up to `least` digits. -/
def padFraction (least : Int) (x : Decimal) : Decimal :=
  let added := (least - x.places).toNat
  ⟨x.negative, x.coefficient * Nat.pow 10 added, x.places + added, x.width⟩

/-- The digits of a number, at least `width` of them. -/
def digits (width n : Nat) : List Char :=
  let ds := Nat.toDigits 10 n
  List.replicate (width - ds.length) '0' ++ ds

/-- The digits before the point. -/
def integerDigits (x : Decimal) : List Char :=
  digits x.width (x.coefficient / Nat.pow 10 x.places)

/-- The digits after the point. -/
def fractionDigits (x : Decimal) : List Char :=
  if x.places = 0 then [] else digits x.places (x.coefficient % Nat.pow 10 x.places)

/-- Minus sign, digits and point. -/
def text (x : Decimal) : String :=
  let fraction := if x.places = 0 then [] else '.' :: x.fractionDigits
  .ofList ((if x.negative then ['-'] else []) ++ x.integerDigits ++ fraction)

end Decimal

/-- How many digits are written after the point. -/
structure Places where
  least : Int
  most : Int
deriving DecidableEq, Repr

namespace Places

/-- At most three, as many as needed. -/
def standard : Places := ⟨0, 3⟩

def exactly (places : Int) : Places := ⟨places, places⟩

/-- The digits of an amount of money. -/
def money : Places := exactly 2

/-- Rounds to the greatest number of digits and pads to the least. -/
def fit (p : Places) (x : Decimal) : Decimal :=
  ((x.roundTo p.most).trimFraction).padFraction p.least

end Places
end Phrasebook
