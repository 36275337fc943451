/-! Rounding a quotient of natural numbers to a nearest one. -/
namespace Phrasebook

/-- Where a quotient half-way between two numbers goes. -/
inductive Tie where
  | even
  | up
deriving DecidableEq, Repr

/-- Whether a quotient of this remainder goes up from this floor. -/
def Tie.roundsUp (tie : Tie) (floor remainder divisor : Nat) : Bool :=
  match compare (2 * remainder) divisor with
  | .lt => false
  | .gt => true
  | .eq => match tie with
    | even => floor % 2 == 1
    | up => true

/-- The natural number nearest to `n / d`. -/
def roundQuotient (tie : Tie) (n d : Nat) : Nat :=
  if tie.roundsUp (n / d) (n % d) d then n / d + 1 else n / d

theorem div_le_roundQuotient (tie : Tie) (n d : Nat) : n / d ≤ roundQuotient tie n d := by
  simp only [roundQuotient]
  split <;> omega

theorem roundQuotient_le (tie : Tie) (n d : Nat) : roundQuotient tie n d ≤ n / d + 1 := by
  simp only [roundQuotient]
  split <;> omega

end Phrasebook
