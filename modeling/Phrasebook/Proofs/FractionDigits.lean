import Phrasebook.Format.Number
import Phrasebook.Proofs.DecimalText

/-! How many digits a number has after the point, and what its digits stand for. -/
namespace Phrasebook
namespace Decimal
variable {x : Decimal} {n k places : ℕ} {q : ℚ}

/-- A quotient that can be written with so many digits after the point. -/
def FitsIn (q : ℚ) (places : ℕ) : Prop :=
  ∃ n : ℕ, q = n / 10 ^ places

/-! Rounding. -/

theorem roundTo_of_le (h : x.places ≤ n) : x.roundTo n = x := by
  simp only [roundTo]
  rw [if_pos (by omega)]

theorem roundTo_of_lt (h : n < x.places) : x.roundTo n =
    ⟨x.negative, roundQuotient .up x.coefficient (10 ^ (x.places - n)), n, x.width⟩ := by
  have hdropped : ((x.places : ℤ) - n).toNat = x.places - n := by omega
  simp only [roundTo, hdropped, Nat.pow_eq]
  rw [if_neg (by omega)]

theorem magnitude_roundTo (x : Decimal) (n : ℕ) :
    (x.roundTo n).magnitude = round (x.magnitude * 10 ^ n) / 10 ^ n := by
  rcases le_or_gt x.places n with h | h
  · obtain ⟨k, rfl⟩ := Nat.exists_eq_add_of_le h
    have hinteger : x.magnitude * 10 ^ (x.places + k) = (x.coefficient * 10 ^ k : ℕ) := by
      rw [magnitude, pow_add, ← mul_assoc, div_mul_cancel₀ _ (by positivity)]
      push_cast
      rfl
    rw [roundTo_of_le h, hinteger, round_natCast, Int.cast_natCast, ← hinteger,
      mul_div_cancel_right₀ _ (by positivity)]
  · obtain ⟨k, hk⟩ := Nat.exists_eq_add_of_lt h
    have hquotient : x.magnitude * 10 ^ n = x.coefficient / (10 ^ (k + 1) : ℕ) := by
      rw [magnitude, hk, add_assoc, pow_add]
      push_cast
      field_simp
    rw [roundTo_of_lt h, hquotient, ← roundQuotient_up_eq (by positivity), magnitude,
      Int.cast_natCast, show x.places - n = k + 1 by omega]

theorem negative_roundTo (x : Decimal) (n : ℕ) : (x.roundTo n).negative = x.negative := by
  rcases le_or_gt x.places n with h | h
  · rw [roundTo_of_le h]
  · rw [roundTo_of_lt h]

theorem width_roundTo (x : Decimal) (n : ℕ) : (x.roundTo n).width = x.width := by
  rcases le_or_gt x.places n with h | h
  · rw [roundTo_of_le h]
  · rw [roundTo_of_lt h]

/-! Dropping zeros at the end of the fraction. -/

theorem trimFraction_go (x : Decimal) (places c : ℕ) :
    (trimFraction.go x places c).magnitude = c / 10 ^ places ∧
      (trimFraction.go x places c).negative = x.negative ∧
      (trimFraction.go x places c).width = x.width := by
  fun_induction trimFraction.go x places c with
  | case1 c => exact ⟨rfl, rfl, rfl⟩
  | case2 places c hc ih =>
    refine ⟨?_, ih.2⟩
    have hten : (c : ℚ) = (c / 10 : ℕ) * 10 := by
      exact_mod_cast (Nat.div_mul_cancel (Nat.dvd_of_mod_eq_zero hc)).symm
    rw [ih.1, hten, pow_succ, mul_div_mul_right _ _ (by norm_num)]
  | case3 places c hc => exact ⟨rfl, rfl, rfl⟩

/-- A coefficient that does not end in zero needs all its places. -/
theorem le_of_fitsIn (hn : n % 10 ≠ 0) (h : FitsIn (n / 10 ^ places) k) : places ≤ k := by
  obtain ⟨a, ha⟩ := h
  by_contra hlt
  obtain ⟨d, rfl⟩ := Nat.exists_eq_add_of_lt (not_le.mp hlt)
  have hmul : n = a * 10 ^ (d + 1) := by
    rw [div_eq_div_iff (by positivity) (by positivity), add_assoc, pow_add] at ha
    have ha' : (n : ℚ) = a * 10 ^ (d + 1) := by
      have hpos : (10 ^ k : ℚ) ≠ 0 := by positivity
      apply mul_right_cancel₀ hpos
      rw [ha]
      ring
    exact_mod_cast ha'
  rw [pow_succ, ← mul_assoc] at hmul
  exact hn (by rw [hmul, Nat.mul_mod_left])

theorem places_trimFraction_go_le (x : Decimal) (places c : ℕ) (h : FitsIn (c / 10 ^ places) k) :
    (trimFraction.go x places c).places ≤ k := by
  fun_induction trimFraction.go x places c with
  | case1 c => exact Nat.zero_le k
  | case2 places c hc ih =>
    have hten : (c : ℚ) = (c / 10 : ℕ) * 10 := by
      exact_mod_cast (Nat.div_mul_cancel (Nat.dvd_of_mod_eq_zero hc)).symm
    rw [hten, pow_succ, mul_div_mul_right _ _ (by norm_num)] at h
    exact ih h
  | case3 places c hc => exact le_of_fitsIn hc h

theorem fitsIn_magnitude (x : Decimal) : FitsIn x.magnitude x.places :=
  ⟨x.coefficient, rfl⟩

theorem magnitude_trimFraction (x : Decimal) : x.trimFraction.magnitude = x.magnitude :=
  (trimFraction_go x x.places x.coefficient).1

theorem negative_trimFraction (x : Decimal) : x.trimFraction.negative = x.negative :=
  (trimFraction_go x x.places x.coefficient).2.1

theorem width_trimFraction (x : Decimal) : x.trimFraction.width = x.width :=
  (trimFraction_go x x.places x.coefficient).2.2

/-- What is left are as few places as the magnitude can be written with. -/
theorem isLeast_places_trimFraction (x : Decimal) :
    IsLeast { k | FitsIn x.magnitude k } x.trimFraction.places :=
  ⟨magnitude_trimFraction x ▸ fitsIn_magnitude x.trimFraction,
    fun _ hk => places_trimFraction_go_le x x.places x.coefficient hk⟩

/-! Adding zeros. -/

theorem padFraction_eq (x : Decimal) (n : ℕ) : x.padFraction n =
    ⟨x.negative, x.coefficient * 10 ^ (n - x.places), max n x.places, x.width⟩ := by
  have hadded : ((n : ℤ) - x.places).toNat = n - x.places := by omega
  have hplaces : x.places + (n - x.places) = max n x.places := by omega
  simp only [padFraction, hadded, hplaces, Nat.pow_eq]

theorem magnitude_padFraction (x : Decimal) (n : ℕ) :
    (x.padFraction n).magnitude = x.magnitude := by
  have hplaces : max n x.places = x.places + (n - x.places) := by omega
  rw [padFraction_eq, magnitude, magnitude, hplaces, pow_add]
  push_cast
  rw [mul_div_mul_right _ _ (by positivity)]

end Decimal

namespace Places
variable {least most : ℕ} {d : Decimal}

theorem negative_fit : ((Places.mk least most).fit d).negative = d.negative := by
  rw [fit, Decimal.padFraction_eq, Decimal.negative_trimFraction, Decimal.negative_roundTo]

theorem width_fit : ((Places.mk least most).fit d).width = d.width := by
  rw [fit, Decimal.padFraction_eq, Decimal.width_trimFraction, Decimal.width_roundTo]

theorem magnitude_fit :
    ((Places.mk least most).fit d).magnitude = round (d.magnitude * 10 ^ most) / 10 ^ most := by
  rw [fit, Decimal.magnitude_padFraction, Decimal.magnitude_trimFraction, Decimal.magnitude_roundTo]

/-- There are as few digits after the point as the rounded number and the least number allow. -/
theorem places_fit :
    ∃ k, IsLeast { k | Decimal.FitsIn ((Places.mk least most).fit d).magnitude k } k ∧
      ((Places.mk least most).fit d).places = max least k := by
  refine ⟨(d.roundTo most).trimFraction.places, ?_, by rw [fit, Decimal.padFraction_eq]⟩
  rw [fit, Decimal.magnitude_padFraction, Decimal.magnitude_trimFraction]
  exact Decimal.isLeast_places_trimFraction (d.roundTo most)

/-- Rounding may lengthen a number, and a zero keeps the sign of what was rounded to it. -/
example : Places.standard.fit (.ofScaled false 99995 (-4)) = ⟨false, 10, 0, 1⟩ ∧
    Places.money.fit (.ofScaled true 4 (-3)) = ⟨true, 0, 2, 1⟩ := by decide

end Places

variable {M : Type → Type} [Monad M]

theorem formatDecimal_finite (data : LocaleData M) (l : Locale) (s : Bool) (m : Binary64.Magnitude)
    (places : Places) : formatDecimal data l (.finite s m) places = (do
      let symbols ← data.symbols l
      pure (symbols.format
        (places.fit (.ofScaled s (m.shortest .even).1 (m.shortest .even).2)))) :=
  rfl

/-- A finite number is handed to the signs of the locale with the sign it has, its shortest decimal
rounded to `most` digits after the point, and with no more digits than `least` and the rounded number
ask for. -/
theorem formatDecimal_digits (data : LocaleData M) (l : Locale) (s : Bool) (m : Binary64.Magnitude)
    (least most : ℕ) :
    ∃ c e, m.shortest .even = (c, e) ∧ m.IsShortest c e ∧ ∃ r : Decimal,
      formatDecimal data l (.finite s m) ⟨least, most⟩ =
        (do let symbols ← data.symbols l; pure (symbols.format r)) ∧
      r.negative = s ∧
      Decimal.spelled r.integerDigits r.fractionDigits =
        round (c * 10 ^ e * 10 ^ most : ℚ) / 10 ^ most ∧
      (∀ ds, r.integerDigits = '0' :: ds → ds = []) ∧
      ∃ k, IsLeast { k | Decimal.FitsIn (Decimal.spelled r.integerDigits r.fractionDigits) k } k ∧
        r.fractionDigits.length = max least k := by
  refine ⟨_, _, Prod.mk.eta.symm, m.isShortest_shortest .even, _, formatDecimal_finite data l s m _,
    ?_, ?_, ?_, ?_⟩
  · rw [Places.negative_fit, Decimal.negative_ofScaled]
  · rw [Decimal.spelled_eq_magnitude, Places.magnitude_fit, Decimal.magnitude_ofScaled]
  · intro ds
    apply Decimal.eq_nil_of_integerDigits_eq_cons
    rw [Places.width_fit, Decimal.width_ofScaled]
  · rw [Decimal.spelled_eq_magnitude, Decimal.length_fractionDigits]
    exact Places.places_fit

end Phrasebook
