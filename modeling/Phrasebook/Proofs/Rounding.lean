import Mathlib.Algebra.Order.Round
import Mathlib.Data.Rat.Floor
import Mathlib.Tactic.FieldSimp
import Mathlib.Tactic.Linarith
import Phrasebook.Rounding

/-! What rounding a quotient gives: a natural number at most a half away, the even one of two or the
greater one where the quotient is half-way. -/
namespace Phrasebook
variable {tie : Tie} {n d k l : ℕ} {x : ℚ}

theorem roundQuotient_of_lt (h : 2 * (n % d) < d) : roundQuotient tie n d = n / d := by
  simp [roundQuotient, Tie.roundsUp, Nat.compare_eq_lt.mpr h]

theorem roundQuotient_of_gt (h : d < 2 * (n % d)) : roundQuotient tie n d = n / d + 1 := by
  simp [roundQuotient, Tie.roundsUp, Nat.compare_eq_gt.mpr h]

theorem roundQuotient_even_of_eq (h : 2 * (n % d) = d) :
    roundQuotient .even n d = if Even (n / d) then n / d else n / d + 1 := by
  simp only [roundQuotient, Tie.roundsUp, Nat.compare_eq_eq.mpr h, Nat.even_iff]
  rcases Nat.mod_two_eq_zero_or_one (n / d) with he | he <;> simp [he]

theorem roundQuotient_up_of_eq (h : 2 * (n % d) = d) : roundQuotient .up n d = n / d + 1 := by
  simp [roundQuotient, Tie.roundsUp, Nat.compare_eq_eq.mpr h]

theorem roundQuotient_mul_left (hd : 0 < d) : roundQuotient tie (k * d) d = k := by
  have hmod : k * d % d = 0 := Nat.mul_mod_left k d
  rw [roundQuotient_of_lt (by omega), Nat.mul_div_cancel k hd]

/-- A quotient is its floor and a fraction. -/
theorem cast_div_eq (hd : 0 < d) : (n / d : ℚ) = (n / d : ℕ) + (n % d : ℕ) / d := by
  have h : (d : ℚ) * (n / d : ℕ) + (n % d : ℕ) = n := by exact_mod_cast Nat.div_add_mod n d
  have hd' : (d : ℚ) ≠ 0 := by exact_mod_cast hd.ne'
  field_simp
  exact h.symm

theorem fraction_lt_half_iff (hd : 0 < d) : ((n % d : ℕ) : ℚ) / d < 1 / 2 ↔ 2 * (n % d) < d := by
  have hd' : (0 : ℚ) < d := by exact_mod_cast hd
  rw [div_lt_div_iff₀ hd' two_pos, one_mul, mul_comm]
  exact_mod_cast Iff.rfl

theorem half_lt_fraction_iff (hd : 0 < d) : 1 / 2 < ((n % d : ℕ) : ℚ) / d ↔ d < 2 * (n % d) := by
  have hd' : (0 : ℚ) < d := by exact_mod_cast hd
  rw [div_lt_div_iff₀ two_pos hd', one_mul, mul_comm]
  exact_mod_cast Iff.rfl

theorem fraction_eq_half (hd : 0 < d) (h : 2 * (n % d) = d) : ((n % d : ℕ) : ℚ) / d = 1 / 2 := by
  apply le_antisymm
  · exact not_lt.mp fun hlt => by have := (half_lt_fraction_iff hd).mp hlt; omega
  · exact not_lt.mp fun hlt => by have := (fraction_lt_half_iff hd).mp hlt; omega

theorem fraction_lt_one (hd : 0 < d) : ((n % d : ℕ) : ℚ) / d < 1 := by
  have hd' : (0 : ℚ) < d := by exact_mod_cast hd
  rw [div_lt_one hd']
  exact_mod_cast Nat.mod_lt n hd

theorem abs_sub_roundQuotient_le (tie : Tie) (hd : 0 < d) :
    |(n / d : ℚ) - roundQuotient tie n d| ≤ 1 / 2 := by
  have hfraction : (0 : ℚ) ≤ (n % d : ℕ) / d := by positivity
  have hone : ((n % d : ℕ) : ℚ) / d < 1 := fraction_lt_one hd
  rw [cast_div_eq hd, abs_le]
  rcases lt_trichotomy (2 * (n % d)) d with h | h | h
  · have hx := (fraction_lt_half_iff hd).mpr h
    rw [roundQuotient_of_lt h]
    constructor <;> linarith
  · have hx := fraction_eq_half hd h
    have hlow : ((n / d : ℕ) : ℚ) ≤ roundQuotient tie n d := by
      exact_mod_cast div_le_roundQuotient tie n d
    have hhigh : (roundQuotient tie n d : ℚ) ≤ (n / d : ℕ) + 1 := by
      exact_mod_cast roundQuotient_le tie n d
    constructor <;> linarith
  · have hx := (half_lt_fraction_iff hd).mpr h
    rw [roundQuotient_of_gt h, Nat.cast_add, Nat.cast_one]
    constructor <;> linarith

/-- No natural number is nearer to the quotient than the one that it is rounded to. -/
theorem abs_sub_roundQuotient_le_abs_sub (tie : Tie) (hd : 0 < d) (k : ℕ) :
    |(n / d : ℚ) - roundQuotient tie n d| ≤ |(n / d : ℚ) - k| := by
  have hround := abs_sub_roundQuotient_le (n := n) tie hd
  rcases eq_or_ne (roundQuotient tie n d) k with h | h
  · rw [h]
  · have hapart : (1 : ℚ) ≤ |(roundQuotient tie n d : ℚ) - k| := by
      exact_mod_cast Int.one_le_abs (sub_ne_zero.mpr (Nat.cast_injective.ne h))
    have htriangle := abs_sub_le (roundQuotient tie n d : ℚ) (n / d) k
    rw [abs_sub_comm _ (n / d : ℚ)] at htriangle
    linarith

/-- A natural number nearest to a point, the even one of two that are equally near. -/
def IsNearestEven (x : ℚ) (k : ℕ) : Prop :=
  |x - k| ≤ 1 / 2 ∧ (|x - k| = 1 / 2 → Even k)

theorem IsNearestEven.unique (hk : IsNearestEven x k) (hl : IsNearestEven x l) : k = l := by
  by_contra hne
  wlog hlt : k < l generalizing k l
  · exact this hl hk (Ne.symm hne) (by omega)
  have hstep : (k : ℚ) + 1 ≤ l := by exact_mod_cast hlt
  obtain ⟨-, hk₂⟩ := abs_le.mp hk.1
  obtain ⟨hl₁, -⟩ := abs_le.mp hl.1
  -- Two apart is too far, so the point is half-way between them, and only one of them is even.
  have hkx : x - k = 1 / 2 := by linarith
  have hlx : x - l = -(1 / 2) := by linarith
  have hkl : l = k + 1 := by
    have h : (l : ℚ) = k + 1 := by linarith
    exact_mod_cast h
  have hek : Even k := hk.2 (by rw [hkx]; norm_num)
  have hel : Even l := hl.2 (by rw [hlx]; norm_num)
  rw [hkl, Nat.even_add_one] at hel
  exact hel hek

theorem isNearestEven_roundQuotient (hd : 0 < d) :
    IsNearestEven (n / d : ℚ) (roundQuotient .even n d) := by
  refine ⟨abs_sub_roundQuotient_le .even hd, ?_⟩
  intro htie
  have hfraction : (0 : ℚ) ≤ (n % d : ℕ) / d := by positivity
  have hone : ((n % d : ℕ) : ℚ) / d < 1 := fraction_lt_one hd
  rw [cast_div_eq hd] at htie
  rcases lt_trichotomy (2 * (n % d)) d with h | h | h
  · have hx := (fraction_lt_half_iff hd).mpr h
    rw [roundQuotient_of_lt h, add_sub_cancel_left, abs_of_nonneg hfraction] at htie
    exact absurd htie hx.ne
  · rw [roundQuotient_even_of_eq h]
    split
    · assumption
    · exact Nat.even_add_one.mpr ‹_›
  · have hx := (half_lt_fraction_iff hd).mpr h
    rw [roundQuotient_of_gt h, Nat.cast_add, Nat.cast_one, add_sub_add_left_eq_sub,
      abs_of_neg (by linarith)] at htie
    linarith

/-- With halves going up, it is the integer that the quotient rounds to. -/
theorem roundQuotient_up_eq (hd : 0 < d) : (roundQuotient .up n d : ℤ) = round (n / d : ℚ) := by
  have hfraction : (0 : ℚ) ≤ (n % d : ℕ) / d := by positivity
  have hone : ((n % d : ℕ) : ℚ) / d < 1 := fraction_lt_one hd
  rw [round_eq, eq_comm, Int.floor_eq_iff, cast_div_eq hd, Int.cast_natCast]
  rcases lt_or_ge (2 * (n % d)) d with h | h
  · have hx := (fraction_lt_half_iff hd).mpr h
    rw [roundQuotient_of_lt h]
    constructor <;> linarith
  · have hx : 1 / 2 ≤ ((n % d : ℕ) : ℚ) / d :=
      not_lt.mp fun hlt => absurd ((fraction_lt_half_iff hd).mp hlt) (not_lt.mpr h)
    have hup : roundQuotient .up n d = n / d + 1 := by
      rcases h.lt_or_eq with h | h
      · exact roundQuotient_of_gt h
      · exact roundQuotient_up_of_eq h.symm
    rw [hup, Nat.cast_add, Nat.cast_one]
    constructor <;> linarith

end Phrasebook
