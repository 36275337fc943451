import Phrasebook.Binary64
import Phrasebook.Decimal

/-! The shortest decimal that reads back as a given number: the point nearest to the number on the
coarsest decimal grid that has a point closer to it than to its neighbours. -/
namespace Phrasebook.Binary64

/-- The quarter units between a magnitude and the half-way points to its two neighbours. -/
def Magnitude.reach (m : Magnitude) : Nat × Nat :=
  let s := spacing m.units
  (if m.units = Nat.pow 2 52 * s && s != 1 then s else 2 * s, 2 * s)

/-- Reading `numerator / denominator` units gives this magnitude. A half-way point does if the
magnitude is an even multiple of its spacing. -/
def Magnitude.readsFrom (m : Magnitude) (numerator denominator : Nat) : Bool :=
  let (below, above) := m.reach
  let low := (4 * m.units - below) * denominator
  let high := (4 * m.units + above) * denominator
  if m.units / spacing m.units % 2 = 0 then low ≤ 4 * numerator && 4 * numerator ≤ high
  else low < 4 * numerator && 4 * numerator < high

/-- The multiple of `10^exponent` nearest to a magnitude among those that read back as it. -/
def Magnitude.onGrid? (tie : Tie) (m : Magnitude) (exponent : Int) : Option Nat :=
  let up := Nat.pow 10 exponent.toNat * one
  let down := Nat.pow 10 (-exponent).toNat
  let floor := m.units * down / up
  let low := m.readsFrom (floor * up) down
  let high := m.readsFrom ((floor + 1) * up) down
  match low, high with
  | true, true => some (roundQuotient tie (m.units * down) up)
  | true, false => some floor
  | false, true => some (floor + 1)
  | false, false => none

/-- Searches the grids from `10^exponent` down to finer ones. -/
def Magnitude.searchGrids (tie : Tie) (m : Magnitude) : Nat → Int → Nat × Int
  | 0, _ => (0, 0)
  | grids + 1, exponent =>
    match m.onGrid? tie exponent with
    | some coefficient => (coefficient, exponent)
    | none => m.searchGrids tie grids (exponent - 1)

/-- The shortest decimal for a magnitude, as a coefficient and an exponent of ten. No magnitude
reaches `10^309`, and each is a multiple of `10^-1074`. -/
def Magnitude.shortest (tie : Tie) (m : Magnitude) : Nat × Int :=
  if m.units = 0 then (0, 0) else m.searchGrids tie 1384 309

/-- The shortest decimal for a finite number. Where two are equally near, `tie` chooses. -/
def shortest? (tie : Tie) : Binary64 → Option Decimal
  | finite negative m =>
    let (coefficient, exponent) := m.shortest tie
    some (.ofScaled negative coefficient exponent)
  | _ => none

end Phrasebook.Binary64
