import Phrasebook.Proofs.ShortestDecimals

/-! Integers among the floating-point numbers: which numbers are taken for a 64-bit integer, and for
which one, and where the shortest decimal of an integer is the integer itself. -/
namespace Phrasebook.Binary64
variable {m : Magnitude} {s t : Bool} {n : ℤ} {k : ℕ} {tie : Tie}

theorem reads_mul_one_iff : m.Reads (k * one) ↔ nearest (k * one) 1 = m.units := by
  rw [nearest_eq_iff Nat.one_pos, Nat.cast_mul, Nat.cast_one, div_one]

theorem ofInt_eq_finite_iff :
    ofInt n = .finite t m ↔ decide (n < 0) = t ∧ m.Reads (n.natAbs * one) := by
  rw [ofInt, ofRatio_eq_finite_iff Nat.one_pos, Nat.cast_one, div_one]

theorem sameValue_finite_iff {x : Binary64} : x.sameValue (.finite s m) = true ↔
    ∃ t, x = .finite t m ∧ (t = s ∨ m.units = 0) := by
  cases x with
  | nan => simp [sameValue]
  | infinite t => simp [sameValue]
  | finite t m' =>
    simp only [sameValue, Bool.and_eq_true, beq_iff_eq, Bool.or_eq_true, finite.injEq]
    constructor
    · rintro ⟨hunits, hsign⟩
      exact ⟨t, ⟨rfl, Magnitude.eq_of_units hunits⟩, hunits ▸ hsign⟩
    · rintro ⟨t, ⟨rfl, rfl⟩, hsign⟩
      exact ⟨rfl, hsign⟩

theorem sameValue_ofInt_iff : (ofInt n).sameValue (.finite s m) = true ↔
    m.Reads (n.natAbs * one) ∧ (decide (n < 0) = s ∨ m.units = 0) := by
  rw [sameValue_finite_iff]
  constructor
  · rintro ⟨t, hn, hsign⟩
    obtain ⟨rfl, hreads⟩ := ofInt_eq_finite_iff.mp hn
    exact ⟨hreads, hsign⟩
  · rintro ⟨hreads, hsign⟩
    exact ⟨_, ofInt_eq_finite_iff.mpr ⟨rfl, hreads⟩, hsign⟩

theorem toInt_toInt64 (s : Bool) (m : Magnitude) :
    (toInt64 (.finite s m)).toInt = max (-2 ^ 63) (min (truncated s m) (2 ^ 63 - 1)) := by
  simp only [toInt64, Int64.toInt_minValue, Int64.toInt_maxValue]
  split
  · rw [Int64.toInt_minValue]
    omega
  · split
    · rw [Int64.toInt_maxValue]
      omega
    · rw [Int64.toInt_ofInt_of_le (by omega) (by omega)]
      omega

theorem decide_truncated_lt_zero (h : truncated s m ≠ 0) : decide (truncated s m < 0) = s := by
  obtain ⟨a, ha⟩ : ∃ a, m.units / one = a := ⟨_, rfl⟩
  rw [truncated, ha] at h ⊢
  cases s
  · simp
  · simp at h ⊢
    omega

theorem natAbs_truncated (s : Bool) (m : Magnitude) : (truncated s m).natAbs = m.units / one := by
  rw [truncated]
  split
  · rw [Int.natAbs_neg, Int.natAbs_natCast]
  · rw [Int.natAbs_natCast]

theorem truncated_of_units_eq (h : m.units = n.natAbs * one) : truncated (n < 0) m = n := by
  rw [truncated, h, Nat.mul_div_cancel _ one_pos]
  simp only [decide_eq_true_eq]
  split <;> omega

theorem isIntegral_iff : (finite s m).isIntegral = true ↔ m.units % one = 0 := by
  simp only [isIntegral, beq_iff_eq]

/-- A number without a fraction is its integer part. -/
theorem units_div_one_mul (h : m.units % one = 0) : m.units / one * one = m.units :=
  Nat.div_mul_cancel (Nat.dvd_of_mod_eq_zero h)

theorem units_eq (h : m.units % one = 0) (s : Bool) :
    m.units = (truncated s m).natAbs * one := by
  rw [natAbs_truncated, units_div_one_mul h]

/-- What the integer part becomes in the range of 64-bit integers is read as the number only if it
was in that range, or one above it: the greatest integer is rounded to that. -/
theorem reads_clipped_iff (h : m.units % one = 0) (s : Bool) :
    m.Reads ((max (-2 ^ 63) (min (truncated s m) (2 ^ 63 - 1))).natAbs * one) ↔
      -2 ^ 63 ≤ truncated s m ∧ truncated s m ≤ 2 ^ 63 := by
  have hunits := units_eq h s
  have hcancel : ∀ k : ℕ, k * one = (truncated s m).natAbs * one ↔ k = (truncated s m).natAbs :=
    fun k => Nat.mul_left_inj one_pos.ne'
  rcases lt_or_ge (truncated s m) (-2 ^ 63) with hlow | hlow
  · have hclip : (max (-2 ^ 63) (min (truncated s m) (2 ^ 63 - 1))).natAbs = 2 ^ 63 := by omega
    have hnearest : nearest (2 ^ 63 * one) 1 = 2 ^ 63 * one := by decide +kernel
    rw [hclip, reads_mul_one_iff, hnearest, hunits, hcancel]
    omega
  rcases lt_or_ge (truncated s m) (2 ^ 63) with hhigh | hhigh
  · have hclip : (max (-2 ^ 63) (min (truncated s m) (2 ^ 63 - 1))).natAbs =
        (truncated s m).natAbs := by omega
    have hreads := m.reads_units
    rw [hunits, Nat.cast_mul] at hreads
    rw [hclip]
    exact iff_of_true hreads ⟨hlow, hhigh.le⟩
  · have hclip : (max (-2 ^ 63) (min (truncated s m) (2 ^ 63 - 1))).natAbs = 2 ^ 63 - 1 := by omega
    have hnearest : nearest ((2 ^ 63 - 1) * one) 1 = 2 ^ 63 * one := by decide +kernel
    rw [hclip, reads_mul_one_iff, hnearest, hunits, hcancel]
    omega

/-- A number is taken for a 64-bit integer if it is one, or one above the greatest. -/
theorem toInt64?_eq_some_iff {i : Int64} : (finite s m).toInt64? = some i ↔
    m.units % one = 0 ∧ (-2 ^ 63 ≤ truncated s m ∧ truncated s m ≤ 2 ^ 63) ∧
      i.toInt = min (truncated s m) (2 ^ 63 - 1) := by
  simp only [toInt64?, Option.ite_none_right_eq_some, Bool.and_eq_true, isIntegral_iff,
    sameValue_ofInt_iff, and_assoc, toInt_toInt64]
  refine and_congr_right fun hintegral => ?_
  rw [reads_clipped_iff hintegral, and_assoc]
  refine and_congr_right fun hlow => and_congr_right fun hhigh => ?_
  have hsign : decide (max (-2 ^ 63) (min (truncated s m) (2 ^ 63 - 1)) < 0) = s ∨ m.units = 0 := by
    by_cases hzero : truncated s m = 0
    · exact Or.inr (by rw [units_eq hintegral s, hzero, Int.natAbs_zero, zero_mul])
    · exact Or.inl ((decide_eq_decide.mpr (by omega)).trans (decide_truncated_lt_zero hzero))
  rw [and_iff_right hsign, Option.some.injEq, ← Int64.toInt_inj, toInt_toInt64]
  omega

/-! Below `2^54` the shortest decimal of an integer is the integer itself. A coarser grid has even
points only, as the numbers that are read there are multiples of two at most. -/

namespace Magnitude
variable {a j : ℕ}

theorem Steps.eq_of_dvd (h : m.Steps a j) (hdvd : 2 ^ j ∣ k) (hk : m.Reads k) : k = m.units := by
  obtain ⟨b, rfl⟩ := hdvd
  have hpos : (2 ^ j : ℚ) ≠ 0 := by positivity
  have hround := h.isNearestEven hk
  rw [Nat.cast_mul, Nat.cast_pow, Nat.cast_ofNat, mul_div_cancel_left₀ _ hpos] at hround
  obtain ⟨hlow, hhigh⟩ := abs_le.mp hround.1
  have hle : (b : ℚ) < a + 1 := by linarith
  have hge : (a : ℚ) < b + 1 := by linarith
  have hle' : b < a + 1 := by exact_mod_cast hle
  have hge' : a < b + 1 := by exact_mod_cast hge
  rw [h.units, mul_comm, show b = a by omega]

theorem Steps.dvd_two_mul_one (h : m.Steps a j) (hlt : m.units < 2 ^ 54 * one) :
    2 ^ j ∣ 2 * one := by
  obtain ⟨u, hone⟩ := exists_one_eq
  rw [hone] at hlt ⊢
  rw [← pow_succ']
  refine pow_dvd_pow 2 (not_lt.mp fun hj => ?_)
  have ha := h.le.resolve_left (by omega)
  have hpow : 2 ^ (u + 2) ≤ 2 ^ j := Nat.pow_le_pow_right (by decide) hj
  have hunits : 2 ^ 52 * 2 ^ (u + 2) ≤ m.units := by
    rw [h.units]
    exact Nat.mul_le_mul ha hpow
  rw [pow_add] at hunits
  omega

theorem integer_mul_gridStep (h : m.units % one = 0) :
    ((m.units / one : ℕ) * gridStep 0 : ℚ) = m.units := by
  rw [gridStep, zpow_zero, one_mul, ← Nat.cast_mul, units_div_one_mul h]

theorem reads_integer (h : m.units % one = 0) : m.Reads ((m.units / one : ℕ) * gridStep 0) := by
  rw [integer_mul_gridStep h]
  exact m.reads_units

/-- The shortest decimal of an integer has no fraction, as the integer itself has none. -/
theorem exists_shortest_of_integral (h : m.units % one = 0) (tie : Tie) :
    ∃ c f : ℕ, m.shortest tie = (c, (f : ℤ)) := by
  by_cases hu : m.units = 0
  · exact ⟨0, 0, if_pos hu⟩
  · obtain ⟨c, e, heq, -, hcoarsest⟩ := shortest_spec hu tie
    have he : 0 ≤ e := not_lt.mp fun he => hcoarsest 0 he _ (reads_integer h)
    obtain ⟨f, rfl⟩ := Int.eq_ofNat_of_zero_le he
    exact ⟨c, f, heq⟩

theorem eq_of_shortest (h : m.units % one = 0) (hlt : m.units / one < 2 ^ 54) {c f : ℕ}
    (heq : m.shortest tie = (c, (f : ℤ))) : c * 10 ^ f = m.units / one := by
  by_cases hu : m.units = 0
  · rw [shortest, if_pos hu, Prod.mk.injEq] at heq
    rw [← heq.1, hu, Nat.zero_div, zero_mul]
  obtain ⟨c', e, heq', hgrid, -⟩ := shortest_spec hu tie
  obtain ⟨rfl, rfl⟩ := Prod.mk.inj (heq'.symm.trans heq)
  rcases Nat.eq_zero_or_pos f with rfl | hf
  · -- The integers are points of the grid, and none is nearer than the number itself.
    have hle := gridDistance_le_of_onGrid?_eq_some hgrid (reads_integer h)
    have hzero : m.gridDistance 0 (m.units / one) = 0 := by
      rw [gridDistance, integer_mul_gridStep h, sub_self, abs_zero]
    rw [Nat.cast_zero, hzero, gridDistance] at hle
    have hpoint := abs_nonpos_iff.mp hle
    rw [← integer_mul_gridStep h, ← sub_mul, mul_eq_zero_iff_right (gridStep_pos 0).ne',
      sub_eq_zero] at hpoint
    rw [pow_zero, mul_one]
    exact_mod_cast hpoint.symm
  · have hunits := units_div_one_mul h
    have hreads := reads_of_onGrid?_eq_some hgrid
    obtain ⟨a, j, hsteps⟩ := m.exists_steps
    have heven : 2 ∣ c' * 10 ^ f := (dvd_pow (by decide) hf.ne').mul_left c'
    have hdvd : 2 ^ j ∣ c' * 10 ^ f * one := by
      refine (hsteps.dvd_two_mul_one ?_).trans (Nat.mul_dvd_mul_right heven one)
      rw [← hunits]
      exact Nat.mul_lt_mul_of_pos_right hlt one_pos
    have hcast : (c' * gridStep f : ℚ) = (c' * 10 ^ f * one : ℕ) := by
      rw [gridStep, zpow_natCast, ← mul_assoc]
      push_cast
      rfl
    rw [hcast] at hreads
    exact Nat.eq_of_mul_eq_mul_right one_pos ((hsteps.eq_of_dvd hdvd hreads).trans hunits.symm)

end Magnitude

theorem decide_truncated_lt_zero_eq (h : m.units % one = 0) :
    decide (truncated s m < 0) = (s && m.units != 0) := by
  have hunits := units_eq h s
  by_cases hzero : truncated s m = 0
  · have hu : m.units = 0 := by rw [hunits, hzero, Int.natAbs_zero, zero_mul]
    simp [hzero, hu]
  · have hu : m.units ≠ 0 := by
      rw [hunits]
      exact Nat.mul_ne_zero (Int.natAbs_ne_zero.mpr hzero) one_pos.ne'
    simp [decide_truncated_lt_zero hzero, hu]

theorem ofScaled_shortest_of_integral (h : m.units % one = 0) (hlt : m.units / one < 2 ^ 54)
    (s : Bool) (tie : Tie) :
    Decimal.ofScaled (s && m.units != 0) (m.shortest tie).1 (m.shortest tie).2 =
      Decimal.ofInt (truncated s m) := by
  obtain ⟨c, f, heq⟩ := Magnitude.exists_shortest_of_integral h tie
  rw [heq, Decimal.ofInt, natAbs_truncated, decide_truncated_lt_zero_eq h,
    ← Magnitude.eq_of_shortest h hlt heq]
  rfl

/-! Rounding an integer gives an integer, and up to `2^53` it gives the same one. -/

theorem nearest_of_dvd {n : ℕ} (h : spacing n ∣ n) : nearest n 1 = n := by
  obtain ⟨a, ha⟩ := h
  have hpos : 0 < spacing n := Nat.two_pow_pos _
  have hround : roundQuotient .even n (spacing n) = a := by
    conv_lhs => arg 2; rw [ha, mul_comm]
    exact roundQuotient_mul_left hpos
  rw [nearest, Nat.div_one, one_mul, hround, mul_comm, ← ha]

theorem nearest_le (n : ℕ) : nearest n 1 ≤ 2 * n + 1 := by
  have hspacing : spacing n ≤ n + 1 := by
    rcases Nat.eq_zero_or_pos n with rfl | hpos
    · decide
    · have hlog := Nat.log2_self_le hpos.ne'
      have hpow : 2 ^ (n.log2 - 52) ≤ 2 ^ n.log2 :=
        Nat.pow_le_pow_right (by decide) (Nat.sub_le _ _)
      rw [spacing, Nat.pow_eq]
      omega
  have hround := roundQuotient_le .even n (spacing n)
  rw [nearest, Nat.div_one, one_mul]
  calc roundQuotient .even n (spacing n) * spacing n
      ≤ (n / spacing n + 1) * spacing n := Nat.mul_le_mul_right _ hround
    _ = n / spacing n * spacing n + spacing n := by rw [add_mul, one_mul]
    _ ≤ 2 * n + 1 := by have := Nat.div_mul_le_self n (spacing n); omega

theorem one_dvd_nearest (k : ℕ) : one ∣ nearest (k * one) 1 := by
  obtain ⟨u, hone⟩ := exists_one_eq
  have hspacing : spacing (k * one) = 2 ^ ((k * one).log2 - 52) := rfl
  rcases le_total ((k * one).log2 - 52) u with h | h
  · have hdvd : spacing (k * one) ∣ k * one := by
      rw [hspacing, hone]
      exact (pow_dvd_pow 2 (hone ▸ h)).mul_left k
    rw [nearest_of_dvd hdvd]
    exact Nat.dvd_mul_left one k
  · rw [nearest, Nat.div_one]
    refine Dvd.dvd.mul_left ?_ _
    rw [hspacing]
    conv_lhs => rw [hone]
    exact pow_dvd_pow 2 h

theorem exists_ofInt_eq_finite (hn : n.natAbs ≤ 2 ^ 63) :
    ∃ m, ofInt n = .finite (n < 0) m ∧ m.units % one = 0 ∧
      (n.natAbs ≤ 2 ^ 53 → m.units = n.natAbs * one) := by
  have hlimit : 2 * (2 ^ 63 * one) + 1 < limit := by decide +kernel
  have hle : n.natAbs * one ≤ 2 ^ 63 * one := Nat.mul_le_mul_right one hn
  have hlt : nearest (n.natAbs * one) 1 < limit := by
    have h := nearest_le (n.natAbs * one)
    omega
  refine ⟨⟨_, spacing_dvd_nearest _ _, hlt⟩, ?_, ?_, ?_⟩
  · rw [ofInt, ofRatio, ofUnits, dif_pos hlt]
  · exact Nat.mod_eq_zero_of_dvd (one_dvd_nearest _)
  · intro hsmall
    obtain ⟨u, hone⟩ := exists_one_eq
    have hdvd := spacing_dvd_mul_two_pow hsmall u
    rw [Nat.pow_eq, ← hone] at hdvd
    exact nearest_of_dvd hdvd

end Phrasebook.Binary64
