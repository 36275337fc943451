import Phrasebook.Decimal
import Phrasebook.Plural.Category

/-! Plural rules: conditions on the digits of a number that put it into a category. -/
namespace Phrasebook

/-- What a rule looks at. A fraction has its zeros at the end in `v` and `f` and not in `t`. -/
inductive Operand where
  /-- The absolute value. -/
  | n
  /-- Its whole part. -/
  | i
  /-- The number of digits in its fraction. -/
  | v
  /-- The digits of its fraction, as a number. -/
  | f
  | t
  /-- The exponent of a compact number, which no number here is. -/
  | e
deriving DecidableEq, Repr

/-- The operands of a number. -/
structure Operands where
  whole : Nat
  places : Nat
  fraction : Nat
  /-- The fraction without the zeros at its end, and the number of its digits. -/
  trimmed : Nat
  trimmedPlaces : Nat
deriving DecidableEq, Repr

namespace Operands

def ofNat (n : Nat) : Operands :=
  ⟨n, 0, 0, 0, 0⟩

/-- The digits of a fraction without the zeros at their end, and their number. -/
def trimZeros : Nat → Nat → Nat × Nat
  | 0, f => (f, 0)
  | places + 1, f => if f % 10 = 0 then trimZeros places (f / 10) else (f, places + 1)

/-- The operands of a decimal's absolute value. Of its fraction the first 18 digits count, but all
digits of its whole part: `10 ^ 20`, the last 18 digits of which are zeros, is observed to be in
`other` in Hindi, which has 0 in `one`, and by the ordinal rules of Kazakh in `many`, which have 0 in
`other`. -/
def ofDecimal (x : Decimal) : Operands :=
  let scale := Nat.pow 10 x.places
  let places := Nat.min x.places 18
  let fraction := x.coefficient % scale / Nat.pow 10 (x.places - places)
  let (trimmed, trimmedPlaces) := trimZeros places fraction
  ⟨x.coefficient / scale, places, fraction, trimmed, trimmedPlaces⟩

/-- The value of an operand, where it is a whole number. -/
def get? (o : Operands) : Operand → Option Nat
  | .n => if o.trimmedPlaces = 0 then some o.whole else none
  | .i => some o.whole
  | .v => some o.places
  | .f => some o.fraction
  | .t => some o.trimmed
  | .e => some 0

end Operands

/-- An operand's remainder lies in one of some ranges, or in none of them. The modulus 0 leaves an
operand as it is. -/
structure PluralRelation where
  operand : Operand
  modulus : Nat
  ranges : List (Nat × Nat)
  inside : Bool
deriving DecidableEq, Repr

namespace PluralRelation

def is (operand : Operand) (modulus : Nat) (ranges : List (Nat × Nat)) : PluralRelation :=
  ⟨operand, modulus, ranges, true⟩

def isNot (operand : Operand) (modulus : Nat) (ranges : List (Nat × Nat)) : PluralRelation :=
  ⟨operand, modulus, ranges, false⟩

/-- A value with a fraction lies in no range. -/
def holds (r : PluralRelation) (o : Operands) : Bool :=
  let within := match o.get? r.operand with
    | none => false
    | some value => r.ranges.any fun (low, high) => low ≤ value % r.modulus && value % r.modulus ≤ high
  within == r.inside

end PluralRelation

/-- Alternatives, each of which demands all of its relations. -/
abbrev Condition := List (List PluralRelation)

def Condition.holds (c : Condition) (o : Operands) : Bool :=
  c.any fun relations => relations.all (·.holds o)

/-- The conditions of the categories; `other` has none. -/
structure PluralRules where
  zero : Condition := []
  one : Condition := []
  two : Condition := []
  few : Condition := []
  many : Condition := []
deriving DecidableEq, Repr

/-- The first category whose condition holds. -/
def PluralRules.category (r : PluralRules) (o : Operands) : PluralCategory :=
  if Condition.holds r.zero o then .zero
  else if Condition.holds r.one o then .one
  else if Condition.holds r.two o then .two
  else if Condition.holds r.few o then .few
  else if Condition.holds r.many o then .many
  else .other

end Phrasebook
