import Phrasebook.Proofs.Nearest

/-! The shortest decimal of a magnitude: it reads back, no decimal with fewer digits does, and on
its grid of multiples of a power of ten no point that reads back is nearer. -/
namespace Phrasebook.Binary64
variable {m : Magnitude} {tie : Tie} {c k grids : ℕ} {e f : ℤ} {negative : Bool}

/-- The units in a power of ten. -/
def gridStep (e : ℤ) : ℚ :=
  10 ^ e * one

theorem gridStep_pos (e : ℤ) : 0 < gridStep e :=
  mul_pos (zpow_pos (by norm_num) _) (by exact_mod_cast one_pos)

theorem gridStep_le (h : f ≤ e) : gridStep f ≤ gridStep e :=
  mul_le_mul_of_nonneg_right (zpow_le_zpow_right₀ (by norm_num) h) (Nat.cast_nonneg _)

theorem pow_mul_gridStep (k : ℕ) (e : ℤ) : 10 ^ k * gridStep e = gridStep (k + e) := by
  rw [gridStep, gridStep, ← mul_assoc, zpow_add₀ (by norm_num), zpow_natCast]

theorem gridStep_eq (e : ℤ) :
    gridStep e = (Nat.pow 10 e.toNat * one : ℕ) / (Nat.pow 10 (-e).toNat : ℕ) := by
  rw [gridStep, ten_zpow_eq]
  simp only [Nat.pow_eq]
  push_cast
  rw [mul_div_right_comm]

theorem ofWritten_eq_finite_iff_reads {t : Bool} :
    ofWritten ⟨negative, c, e⟩ = .finite t m ↔ negative = t ∧ m.Reads (c * gridStep e) := by
  rw [ofWritten_eq_finite_iff, Written.magnitude, mul_assoc, gridStep]

theorem gridUp_pos (e : ℤ) : 0 < Nat.pow 10 e.toNat * one :=
  Nat.mul_pos (Nat.pow_pos (by decide)) one_pos

namespace Magnitude

/-- The distance between a magnitude and a point of a grid. -/
def gridDistance (m : Magnitude) (e : ℤ) (k : ℕ) : ℚ :=
  |m.units - k * gridStep e|

/-- The last point of a grid that is not above a magnitude. -/
def gridFloor (m : Magnitude) (e : ℤ) : ℕ :=
  m.units * Nat.pow 10 (-e).toNat / (Nat.pow 10 e.toNat * one)

theorem units_div_gridStep (m : Magnitude) (e : ℤ) : (m.units / gridStep e : ℚ) =
    (m.units * Nat.pow 10 (-e).toNat : ℕ) / (Nat.pow 10 e.toNat * one : ℕ) := by
  rw [gridStep_eq, div_div_eq_mul_div, Nat.cast_mul m.units]

theorem gridFloor_le (m : Magnitude) (e : ℤ) : m.gridFloor e * gridStep e ≤ m.units := by
  have hfraction : (0 : ℚ) ≤ (m.units * Nat.pow 10 (-e).toNat % (Nat.pow 10 e.toNat * one) : ℕ) /
      (Nat.pow 10 e.toNat * one : ℕ) := by positivity
  rw [← le_div_iff₀ (gridStep_pos e), units_div_gridStep, cast_div_eq (gridUp_pos e), gridFloor]
  linarith

theorem lt_gridFloor_add_one (m : Magnitude) (e : ℤ) :
    m.units < (m.gridFloor e + 1 : ℕ) * gridStep e := by
  rw [← div_lt_iff₀ (gridStep_pos e), units_div_gridStep, cast_div_eq (gridUp_pos e), gridFloor,
    Nat.cast_add_one]
  linarith [fraction_lt_one (n := m.units * Nat.pow 10 (-e).toNat) (gridUp_pos e)]

theorem readsFrom_gridPoint : m.readsFrom (k * (Nat.pow 10 e.toNat * one))
    (Nat.pow 10 (-e).toNat) = true ↔ m.Reads (k * gridStep e) := by
  have hdown : 0 < Nat.pow 10 (-e).toNat := Nat.pow_pos (by decide)
  rw [readsFrom_iff hdown, gridStep_eq, Nat.cast_mul k, mul_div_assoc]

/-- If a point reads back, so does the neighbour of the magnitude on its side. -/
theorem reads_gridFloor_of_le (h : m.Reads (k * gridStep e)) (hk : k ≤ m.gridFloor e) :
    m.Reads (m.gridFloor e * gridStep e) :=
  h.between m.reads_units
    (mul_le_mul_of_nonneg_right (by exact_mod_cast hk) (gridStep_pos e).le) (m.gridFloor_le e)

theorem reads_gridFloor_add_one_of_lt (h : m.Reads (k * gridStep e)) (hk : m.gridFloor e < k) :
    m.Reads ((m.gridFloor e + 1 : ℕ) * gridStep e) :=
  m.reads_units.between h (m.lt_gridFloor_add_one e).le
    (mul_le_mul_of_nonneg_right (by exact_mod_cast hk) (gridStep_pos e).le)

theorem gridDistance_gridFloor_le (hk : k ≤ m.gridFloor e) :
    m.gridDistance e (m.gridFloor e) ≤ m.gridDistance e k := by
  have hle : (k * gridStep e : ℚ) ≤ m.gridFloor e * gridStep e :=
    mul_le_mul_of_nonneg_right (by exact_mod_cast hk) (gridStep_pos e).le
  have hfloor := m.gridFloor_le e
  rw [gridDistance, gridDistance, abs_of_nonneg (by linarith), abs_of_nonneg (by linarith)]
  linarith

theorem gridDistance_gridFloor_add_one_le (hk : m.gridFloor e < k) :
    m.gridDistance e (m.gridFloor e + 1) ≤ m.gridDistance e k := by
  have hle : ((m.gridFloor e + 1 : ℕ) * gridStep e : ℚ) ≤ k * gridStep e :=
    mul_le_mul_of_nonneg_right (by exact_mod_cast hk) (gridStep_pos e).le
  have hfloor := m.lt_gridFloor_add_one e
  rw [gridDistance, gridDistance, abs_of_nonpos (by linarith), abs_of_nonpos (by linarith)]
  linarith

/-- The rounded point is at most half a step away, so no other one is nearer. -/
theorem gridDistance_round_le (tie : Tie) (k : ℕ) :
    m.gridDistance e (roundQuotient tie (m.units * Nat.pow 10 (-e).toNat)
      (Nat.pow 10 e.toNat * one)) ≤ m.gridDistance e k := by
  have hstep := gridStep_pos e
  have hdistance : ∀ l : ℕ, m.gridDistance e l = |m.units / gridStep e - l| * gridStep e := by
    intro l
    rw [gridDistance, ← abs_of_pos hstep, ← abs_mul, abs_of_pos hstep, sub_mul,
      div_mul_cancel₀ _ hstep.ne']
  rw [hdistance, hdistance]
  refine mul_le_mul_of_nonneg_right ?_ hstep.le
  rw [units_div_gridStep]
  exact abs_sub_roundQuotient_le_abs_sub tie (gridUp_pos e) k

/-- A grid without a point for a magnitude has none that reads back. -/
theorem not_reads_of_onGrid?_eq_none (h : m.onGrid? tie e = none) (k : ℕ) :
    ¬m.Reads (k * gridStep e) := by
  intro hk
  simp only [onGrid?] at h
  split at h
  case h_4 hlow hhigh =>
    rcases le_or_gt k (m.gridFloor e) with hle | hlt
    · exact Bool.false_ne_true (hlow.symm.trans
        (readsFrom_gridPoint.mpr (reads_gridFloor_of_le hk hle)))
    · exact Bool.false_ne_true (hhigh.symm.trans
        (readsFrom_gridPoint.mpr (reads_gridFloor_add_one_of_lt hk hlt)))
  all_goals exact absurd h (Option.some_ne_none _)

theorem reads_of_onGrid?_eq_some (h : m.onGrid? tie e = some c) : m.Reads (c * gridStep e) := by
  simp only [onGrid?] at h
  split at h <;> simp only [reduceCtorEq, Option.some.injEq] at h <;> subst h
  case h_1 hlow hhigh =>
    rw [readsFrom_gridPoint] at hlow hhigh
    rw [roundQuotient]
    split
    · exact hhigh
    · exact hlow
  case h_2 hlow _ => exact readsFrom_gridPoint.mp hlow
  case h_3 _ hhigh => exact readsFrom_gridPoint.mp hhigh

theorem gridDistance_le_of_onGrid?_eq_some (h : m.onGrid? tie e = some c)
    (hk : m.Reads (k * gridStep e)) : m.gridDistance e c ≤ m.gridDistance e k := by
  simp only [onGrid?] at h
  split at h <;> simp only [reduceCtorEq, Option.some.injEq] at h <;> subst h
  case h_1 => exact gridDistance_round_le tie k
  case h_2 _ hhigh =>
    refine gridDistance_gridFloor_le (not_lt.mp fun hlt => ?_)
    exact Bool.false_ne_true (hhigh.symm.trans
      (readsFrom_gridPoint.mpr (reads_gridFloor_add_one_of_lt hk hlt)))
  case h_3 hlow _ =>
    refine gridDistance_gridFloor_add_one_le (not_le.mp fun hle => ?_)
    exact Bool.false_ne_true (hlow.symm.trans
      (readsFrom_gridPoint.mpr (reads_gridFloor_of_le hk hle)))

/-- The search stops at the coarsest grid with a point that reads back. -/
theorem searchGrids_spec (hcoarser : ∀ e > f, ∀ k : ℕ, ¬m.Reads (k * gridStep e))
    (hreads : ∃ e : ℤ, f - grids < e ∧ ∃ k : ℕ, m.Reads (k * gridStep e)) :
    ∃ c e, m.searchGrids tie grids f = (c, e) ∧ m.onGrid? tie e = some c ∧
      ∀ e' > e, ∀ k : ℕ, ¬m.Reads (k * gridStep e') := by
  induction grids generalizing f with
  | zero =>
    obtain ⟨e, he, k, hk⟩ := hreads
    exact absurd hk (hcoarser e (by omega) k)
  | succ grids ih =>
    rw [searchGrids]
    cases hgrid : m.onGrid? tie f with
    | some c => exact ⟨c, f, rfl, hgrid, hcoarser⟩
    | none =>
      refine ih ?_ ?_
      · intro e he k
        rcases (show f = e ∨ f < e by omega) with rfl | hlt
        · exact not_reads_of_onGrid?_eq_none hgrid k
        · exact hcoarser e hlt k
      · obtain ⟨e, he, hk⟩ := hreads
        exact ⟨e, by push_cast at he; omega, hk⟩

/-- Every magnitude is a multiple of `10^-1074`. -/
theorem exists_reads_finest (m : Magnitude) : ∃ k : ℕ, m.Reads (k * gridStep (-1074)) := by
  refine ⟨m.units * 5 ^ 1074, ?_⟩
  have hunit : (5 ^ 1074 : ℕ) * gridStep (-1074) = 1 := by
    have hpow : 5 ^ 1074 * one = 10 ^ 1074 := by decide +kernel
    have hpow' : ((5 ^ 1074 : ℕ) * one : ℚ) = 10 ^ 1074 := by
      rw [← Nat.cast_mul, hpow, Nat.cast_pow, Nat.cast_ofNat]
    rw [gridStep, mul_left_comm, hpow', zpow_neg, zpow_ofNat]
    exact inv_mul_cancel₀ (pow_ne_zero _ (by norm_num))
  rw [Nat.cast_mul, mul_assoc, hunit, mul_one]
  exact m.reads_units

theorem not_reads_zero (h : m.units ≠ 0) : ¬m.Reads 0 :=
  fun hreads => h ((reads_iff_of_lt_half le_rfl one_half_pos).mp hreads)

theorem not_reads_of_coarse (hu : m.units ≠ 0) (he : 309 < e) (k : ℕ) :
    ¬m.Reads (k * gridStep e) := by
  intro hk
  rcases Nat.eq_zero_or_pos k with rfl | hpos
  · exact not_reads_zero hu (by simpa using hk)
  · have hlarge : 2 * limit < 10 ^ 310 * one := by decide +kernel
    have hlarge' : (2 * limit : ℚ) < gridStep 310 := by rw [gridStep]; exact_mod_cast hlarge
    have hstep : gridStep e ≤ k * gridStep e :=
      le_mul_of_one_le_left (gridStep_pos e).le (by exact_mod_cast hpos)
    linarith [hk.2.1, m.high_lt, gridStep_le (show (310 : ℤ) ≤ e by omega)]

theorem shortest_spec (hu : m.units ≠ 0) (tie : Tie) : ∃ c e, m.shortest tie = (c, e) ∧
    m.onGrid? tie e = some c ∧ ∀ e' > e, ∀ k : ℕ, ¬m.Reads (k * gridStep e') := by
  rw [shortest, if_neg hu]
  exact searchGrids_spec (fun e he k => not_reads_of_coarse hu he k)
    ⟨-1074, by decide, m.exists_reads_finest⟩

/-- No decimal that reads back has fewer digits than the one on the coarsest grid: otherwise the
power of ten between the two would read back, and it is on a coarser grid. -/
theorem length_le_of_reads (hu : m.units ≠ 0) (hc : m.Reads (c * gridStep e))
    (hcoarsest : ∀ e' > e, ∀ k : ℕ, ¬m.Reads (k * gridStep e')) (hk : m.Reads (k * gridStep f)) :
    (Nat.toDigits 10 c).length ≤ (Nat.toDigits 10 k).length := by
  by_contra hlt
  have hf : f ≤ e := not_lt.mp fun hf => hcoarsest f hf k hk
  have hc0 : c ≠ 0 := by
    rintro rfl
    exact not_reads_zero hu (by simpa using hc)
  have hlength : 0 < (Nat.toDigits 10 k).length := Nat.length_toDigits_pos
  have hbelow : (k : ℚ) ≤ 10 ^ (Nat.toDigits 10 k).length := by
    exact_mod_cast (lt_pow_length_toDigits k).le
  have habove : (10 ^ (Nat.toDigits 10 k).length : ℚ) ≤ c := by
    exact_mod_cast pow_le_of_lt_length_toDigits hc0 (not_le.mp hlt)
  have hle : k * gridStep f ≤ 10 ^ (Nat.toDigits 10 k).length * gridStep e :=
    mul_le_mul hbelow (gridStep_le hf) (gridStep_pos f).le (by positivity)
  have hge : 10 ^ (Nat.toDigits 10 k).length * gridStep e ≤ c * gridStep e :=
    mul_le_mul_of_nonneg_right habove (gridStep_pos e).le
  have hpower := hk.between hc hle hge
  rw [pow_mul_gridStep] at hpower
  exact hcoarsest ((Nat.toDigits 10 k).length + e) (by omega) 1 (by simpa using hpower)

/-- The decimals of the shortest form: they read back, none with fewer digits does, and none on the
same grid is nearer. -/
structure IsShortest (m : Magnitude) (coefficient : ℕ) (exponent : ℤ) : Prop where
  reads : ∀ negative, ofWritten ⟨negative, coefficient, exponent⟩ = .finite negative m
  fewest : ∀ negative c e, ofWritten ⟨negative, c, e⟩ = .finite negative m →
    (Nat.toDigits 10 coefficient).length ≤ (Nat.toDigits 10 c).length
  nearest : ∀ negative c, ofWritten ⟨negative, c, exponent⟩ = .finite negative m →
    |(m.units / one : ℚ) - coefficient * 10 ^ exponent| ≤ |(m.units / one : ℚ) - c * 10 ^ exponent|

theorem gridDistance_eq (m : Magnitude) (e : ℤ) (k : ℕ) :
    m.gridDistance e k = |(m.units / one : ℚ) - k * 10 ^ e| * one := by
  have hone : (0 : ℚ) < one := by exact_mod_cast one_pos
  rw [gridDistance, gridStep, ← abs_of_pos hone, ← abs_mul, abs_of_pos hone, sub_mul,
    div_mul_cancel₀ _ hone.ne', mul_assoc]

/-- The search finds the shortest form. -/
theorem isShortest_shortest (tie : Tie) (m : Magnitude) :
    m.IsShortest (m.shortest tie).1 (m.shortest tie).2 := by
  by_cases hu : m.units = 0
  · have hzero : m.shortest tie = (0, 0) := if_pos hu
    rw [hzero]
    refine ⟨fun negative => ?_, fun _ c _ _ => Nat.length_toDigits_pos, fun _ c _ => ?_⟩
    · have hreads : m.Reads ((0 : ℕ) * gridStep 0) := by
        rw [Nat.cast_zero, zero_mul]
        exact (reads_iff_of_lt_half le_rfl one_half_pos).mpr hu
      exact ofWritten_eq_finite_iff_reads.mpr ⟨rfl, hreads⟩
    · rw [hu, Nat.cast_zero, zero_div, zero_mul, sub_zero, abs_zero]
      exact abs_nonneg _
  · obtain ⟨c, e, heq, hgrid, hcoarsest⟩ := shortest_spec hu tie
    have hreads := reads_of_onGrid?_eq_some hgrid
    rw [heq]
    refine ⟨fun _ => ofWritten_eq_finite_iff_reads.mpr ⟨rfl, hreads⟩, fun _ k f hk => ?_,
      fun _ k hk => ?_⟩
    · exact length_le_of_reads hu hreads hcoarsest (ofWritten_eq_finite_iff_reads.mp hk).2
    · have hone : (0 : ℚ) < one := by exact_mod_cast one_pos
      have hle := gridDistance_le_of_onGrid?_eq_some hgrid (ofWritten_eq_finite_iff_reads.mp hk).2
      rw [gridDistance_eq, gridDistance_eq] at hle
      exact le_of_mul_le_mul_right hle hone

end Magnitude
end Phrasebook.Binary64
