import Phrasebook.Rounding

/-! Binary floating point with 53 digits of precision, by exact integer arithmetic. A finite
magnitude is a number of units of `2^-1074`, the least positive one. -/
namespace Phrasebook

namespace Binary64

/-- The number of units in one. -/
def one : Nat := Nat.pow 2 1074

/-- Units at and above which a magnitude is infinite. -/
def limit : Nat := Nat.pow 2 2098

/-- The distance between neighbouring magnitudes at this one. -/
def spacing (units : Nat) : Nat :=
  Nat.pow 2 (units.log2 - 52)

/-- A finite magnitude, in units. -/
structure Magnitude where
  units : Nat
  spacing_dvd : spacing units ∣ units
  lt_limit : units < limit
deriving DecidableEq

end Binary64

inductive Binary64 where
  | nan
  | infinite (negative : Bool)
  | finite (negative : Bool) (magnitude : Binary64.Magnitude)
deriving DecidableEq

namespace Binary64

/-- The multiple of the spacing at `n / d` that is nearest to it. -/
def nearest (n d : Nat) : Nat :=
  roundQuotient .even n (d * spacing (n / d)) * spacing (n / d)

theorem log2_mul_two_pow {m : Nat} (h : m ≠ 0) (k : Nat) : (m * Nat.pow 2 k).log2 = m.log2 + k := by
  rw [Nat.pow_eq]
  have hp : m * 2 ^ k ≠ 0 := Nat.mul_ne_zero h (Nat.ne_of_gt (Nat.two_pow_pos k))
  rw [Nat.log2_eq_iff hp, Nat.pow_add, show m.log2 + k + 1 = m.log2 + 1 + k by omega, Nat.pow_add]
  exact ⟨Nat.mul_le_mul_right _ (Nat.log2_self_le h),
    Nat.mul_lt_mul_of_pos_right Nat.lt_log2_self (Nat.two_pow_pos k)⟩

/-- At most `2^53` steps of a power of two make a number that its own spacing divides. -/
theorem spacing_dvd_mul_two_pow {m : Nat} (h : m ≤ Nat.pow 2 53) (k : Nat) :
    spacing (m * Nat.pow 2 k) ∣ m * Nat.pow 2 k := by
  by_cases hm : m = 0
  · simp [hm]
  · simp only [spacing]
    rw [log2_mul_two_pow hm]
    simp only [Nat.pow_eq] at h ⊢
    by_cases he : m = 2 ^ 53
    · subst he
      rw [Nat.log2_two_pow, ← Nat.pow_add]
      exact Nat.pow_dvd_pow 2 (by omega)
    · have hl : m.log2 < 53 := (Nat.log2_lt hm).2 (by omega)
      exact Nat.dvd_mul_left_of_dvd (Nat.pow_dvd_pow 2 (by omega)) m

theorem div_spacing_lt (n : Nat) : n / spacing n < Nat.pow 2 53 := by
  simp only [spacing, Nat.pow_eq]
  rw [Nat.div_lt_iff_lt_mul (Nat.two_pow_pos _), ← Nat.pow_add]
  exact Nat.lt_of_lt_of_le Nat.lt_log2_self (Nat.pow_le_pow_right (by decide) (by omega))

theorem spacing_dvd_nearest (n d : Nat) : spacing (nearest n d) ∣ nearest n d := by
  refine spacing_dvd_mul_two_pow ?_ _
  have h := roundQuotient_le .even n (d * spacing (n / d))
  rw [← Nat.div_div_eq_div_mul] at h
  have := div_spacing_lt (n / d)
  omega

/-- The number nearest to `n / d` units. -/
def ofUnits (negative : Bool) (n d : Nat) : Binary64 :=
  if h : nearest n d < limit then .finite negative ⟨nearest n d, spacing_dvd_nearest n d, h⟩
  else .infinite negative

/-- The number nearest to a quotient. -/
def ofRatio (negative : Bool) (n d : Nat) : Binary64 :=
  ofUnits negative (n * one) d

/-- The number nearest to an integer. -/
def ofInt (n : Int) : Binary64 :=
  ofRatio (n < 0) n.natAbs 1

def zero : Binary64 := ofInt 0

/-- The single-precision number nearest to a quotient: it has 24 digits of precision, `2^-149` as
its least positive magnitude and `2^128` as its limit. -/
def ofRatioSingle (negative : Bool) (n d : Nat) : Binary64 :=
  let units := n * one
  let spacing := Nat.pow 2 <| max ((units / d).log2 - 23) 925
  let rounded := roundQuotient .even units (d * spacing) * spacing
  if rounded < Nat.pow 2 1202 then ofUnits negative rounded 1 else .infinite negative

def isFinite : Binary64 → Bool
  | finite _ _ => true
  | _ => false

/-- Below zero, which neither zero is. -/
def isNegative : Binary64 → Bool
  | nan => false
  | infinite negative => negative
  | finite negative m => negative && m.units != 0

def abs : Binary64 → Binary64
  | nan => nan
  | infinite _ => infinite false
  | finite _ m => finite false m

def neg : Binary64 → Binary64
  | nan => nan
  | infinite negative => infinite !negative
  | finite negative m => finite (!negative) m

/-- The nearest number to the product. -/
def mul : Binary64 → Binary64 → Binary64
  | nan, _ | _, nan => nan
  | infinite s, infinite t => infinite (s != t)
  | infinite s, finite t m | finite s m, infinite t =>
    if m.units = 0 then nan else infinite (s != t)
  | finite s a, finite t b => ofUnits (s != t) (a.units * b.units) one

/-- The nearest number to the quotient. -/
def div : Binary64 → Binary64 → Binary64
  | nan, _ | _, nan => nan
  | infinite _, infinite _ => nan
  | infinite s, finite t _ => infinite (s != t)
  | finite s _, infinite t => ofUnits (s != t) 0 1
  | finite s a, finite t b =>
    if b.units = 0 then if a.units = 0 then nan else infinite (s != t)
    else ofRatio (s != t) a.units b.units

instance : Neg Binary64 := ⟨neg⟩
instance : Mul Binary64 := ⟨mul⟩
instance : Div Binary64 := ⟨div⟩

/-- The same number; a zero equals the other zero, and nothing equals `nan`. -/
def sameValue : Binary64 → Binary64 → Bool
  | infinite s, infinite t => s == t
  | finite s a, finite t b => a.units == b.units && (s == t || a.units == 0)
  | _, _ => false

/-- The integer part of a finite number. -/
def truncated (negative : Bool) (m : Magnitude) : Int :=
  if negative then -(m.units / one : Nat) else (m.units / one : Nat)

/-- The integer part, moved into the range of 64-bit integers. -/
def toInt64 : Binary64 → Int64
  | nan => 0
  | infinite negative => if negative then Int64.minValue else Int64.maxValue
  | finite negative m =>
    let n := truncated negative m
    if n < Int64.minValue.toInt then Int64.minValue
    else if Int64.maxValue.toInt < n then Int64.maxValue
    else Int64.ofInt n

/-- A finite number without a fraction. -/
def isIntegral : Binary64 → Bool
  | finite _ m => m.units % one == 0
  | _ => false

/-- The 64-bit integer that an integral number is, up to rounding that integer. -/
def toInt64? (x : Binary64) : Option Int64 :=
  if x.isIntegral && (ofInt x.toInt64.toInt).sameValue x then some x.toInt64 else none

/-- The bits of the interchange format: sign, biased exponent, fraction. -/
def toBits : Binary64 → Nat
  | nan => 0x7ff8 * Nat.pow 2 48
  | infinite negative => negative.toNat * Nat.pow 2 63 + 0x7ff * Nat.pow 2 52
  | finite negative m =>
    let shift := m.units.log2 - 52
    let fraction := m.units / Nat.pow 2 shift
    let low := if fraction < Nat.pow 2 52 then fraction else shift * Nat.pow 2 52 + fraction
    negative.toNat * Nat.pow 2 63 + low

end Binary64
end Phrasebook
