import Phrasebook.Proofs.ShortestDecimals
import Phrasebook.Proofs.Words

/-! The digits that a decimal is written with, and the number that its text is read as. -/
namespace Phrasebook

/-- Only the digits of zero start with a zero. -/
theorem eq_nil_of_toDigits_eq_cons {n : ℕ} {ds : List Char} (h : Nat.toDigits 10 n = '0' :: ds) :
    ds = [] := by
  induction n using Nat.strong_induction_on generalizing ds with
  | _ n ih =>
    rcases lt_or_ge n 10 with hn | hn
    · rw [Nat.toDigits_of_lt_base hn] at h
      exact (List.cons.inj h).2.symm
    · rw [Nat.toDigits_of_base_le (by decide) hn] at h
      cases hfront : Nat.toDigits 10 (n / 10) with
      | nil => exact absurd hfront Nat.toDigits_ne_nil
      | cons d front =>
        rw [hfront, List.cons_append, List.cons.injEq] at h
        obtain ⟨rfl, -⟩ := h
        have hzero : n / 10 = 0 := by
          rw [← Nat.ofDigitChars_ten_toDigits (n := n / 10), hfront, ih _ (by omega) hfront]
          rfl
        omega

namespace Decimal
variable {x : Decimal} {width n : ℕ} {c : Char} {cs : List Char}

/-- The absolute value of a decimal. -/
def magnitude (x : Decimal) : ℚ :=
  x.coefficient / 10 ^ x.places

/-- What digits before and after a point stand for. -/
def spelled (whole fraction : List Char) : ℚ :=
  Nat.ofDigitChars 10 (whole ++ fraction) 0 / 10 ^ fraction.length

theorem negative_ofScaled (s : Bool) (c : ℕ) (e : ℤ) : (ofScaled s c e).negative = s := by
  cases e <;> rfl

theorem width_ofScaled (s : Bool) (c : ℕ) (e : ℤ) : (ofScaled s c e).width = 1 := by
  cases e <;> rfl

theorem magnitude_ofScaled (s : Bool) (c : ℕ) (e : ℤ) :
    (ofScaled s c e).magnitude = c * 10 ^ e := by
  cases e with
  | ofNat e => simp [ofScaled, magnitude]
  | negSucc e => simp [ofScaled, magnitude, zpow_negSucc, div_eq_mul_inv]

theorem isDigit_of_mem_digits (h : c ∈ digits width n) : c.isDigit := by
  rcases List.mem_append.mp h with h | h
  · rw [List.eq_of_mem_replicate h]
    rfl
  · exact Nat.isDigit_of_mem_toDigits (by decide) (by decide) h

theorem isDigit_of_mem_integerDigits (h : c ∈ x.integerDigits) : c.isDigit :=
  isDigit_of_mem_digits h

theorem isDigit_of_mem_fractionDigits (h : c ∈ x.fractionDigits) : c.isDigit := by
  rw [fractionDigits] at h
  split at h
  · exact absurd h List.not_mem_nil
  · exact isDigit_of_mem_digits h

theorem integerDigits_ne_nil (x : Decimal) : x.integerDigits ≠ [] :=
  List.append_ne_nil_of_right_ne_nil _ Nat.toDigits_ne_nil

theorem length_digits (hn : n < 10 ^ width) (hw : width ≠ 0) : (digits width n).length = width := by
  have h : (Nat.toDigits 10 n).length ≤ width :=
    (Nat.length_toDigits_le_iff (by decide) (Nat.pos_of_ne_zero hw)).mpr hn
  rw [digits, List.length_append, List.length_replicate, Nat.sub_add_cancel h]

theorem length_fractionDigits (x : Decimal) : x.fractionDigits.length = x.places := by
  rw [fractionDigits]
  split
  · rename_i h
    rw [h, List.length_nil]
  · rename_i h
    exact length_digits (Nat.mod_lt _ (Nat.pow_pos (by decide))) h

theorem ofDigitChars_digits (width n : ℕ) (cs : List Char) :
    Nat.ofDigitChars 10 (digits width n ++ cs) 0 =
      10 ^ cs.length * n + Nat.ofDigitChars 10 cs 0 := by
  rw [digits, List.append_assoc, Nat.ofDigitChars_append, Nat.ofDigitChars_replicate_zero, mul_zero,
    Nat.ofDigitChars_append, Nat.ofDigitChars_ten_toDigits, Nat.ofDigitChars_eq_ofDigitChars_zero]

/-- Digits stand for the number that they are those of, whatever zeros are in front. -/
theorem ofDigitChars_digits_nil (width n : ℕ) : Nat.ofDigitChars 10 (digits width n) 0 = n := by
  have h := ofDigitChars_digits width n []
  rw [List.append_nil] at h
  rw [h]
  simp

theorem ofDigitChars_fractionDigits (x : Decimal) :
    Nat.ofDigitChars 10 x.fractionDigits 0 = x.coefficient % 10 ^ x.places := by
  rw [fractionDigits]
  split
  · rename_i h
    rw [h, pow_zero, Nat.mod_one]
    rfl
  · exact ofDigitChars_digits_nil _ _

/-- The digits before and after the point together are those of the coefficient. -/
theorem ofDigitChars_integerDigits_append (x : Decimal) :
    Nat.ofDigitChars 10 (x.integerDigits ++ x.fractionDigits) 0 = x.coefficient := by
  rw [integerDigits, ofDigitChars_digits, length_fractionDigits, ofDigitChars_fractionDigits,
    Nat.pow_eq, Nat.div_add_mod]

/-- The digits of a decimal stand for its magnitude. -/
theorem spelled_eq_magnitude (x : Decimal) :
    spelled x.integerDigits x.fractionDigits = x.magnitude := by
  rw [spelled, ofDigitChars_integerDigits_append, length_fractionDigits, magnitude]

/-- No zeros are written in front of the digits that there are anyway. -/
theorem eq_nil_of_integerDigits_eq_cons (hw : x.width ≤ 1) (h : x.integerDigits = '0' :: cs) :
    cs = [] := by
  have hlength : 0 < (Nat.toDigits 10 (x.coefficient / Nat.pow 10 x.places)).length :=
    Nat.length_toDigits_pos
  have hzeros : x.width - (Nat.toDigits 10 (x.coefficient / Nat.pow 10 x.places)).length = 0 := by
    omega
  rw [integerDigits, digits, hzeros, List.replicate_zero, List.nil_append] at h
  exact eq_nil_of_toDigits_eq_cons h

/-- What follows the sign in the text of a decimal. -/
theorem toList_text (x : Decimal) : x.text.toList = (if x.negative then ['-'] else []) ++
    (x.integerDigits ++ if x.places = 0 then [] else '.' :: x.fractionDigits) := by
  rw [text, String.toList_ofList, List.append_assoc]

/-- There is no white space in the text of a decimal. -/
theorem isSolid_text (x : Decimal) : Text.isSolid x.text := by
  have hdigit : ∀ {c : Char}, c.isDigit → Text.isBlank c = false := fun h =>
    Text.isBlank_eq_false_of_isWordChar (Text.isWordChar_of_isDigit h)
  have hsign : ∀ c ∈ if x.negative then ['-'] else [], Text.isBlank c = false := by
    split
    · exact List.forall_mem_singleton.mpr (by decide)
    · exact List.forall_mem_nil _
  have hfraction : ∀ c ∈ if x.places = 0 then [] else '.' :: x.fractionDigits,
      Text.isBlank c = false := by
    split
    · exact List.forall_mem_nil _
    · exact List.forall_mem_cons.mpr ⟨rfl, fun c hc => hdigit (isDigit_of_mem_fractionDigits hc)⟩
  rw [Text.isSolid, toList_text, List.all_eq_true]
  intro c hc
  rw [Bool.not_eq_true']
  rcases List.mem_append.mp hc with hc | hc
  · exact hsign c hc
  · rcases List.mem_append.mp hc with hc | hc
    · exact hdigit (isDigit_of_mem_integerDigits hc)
    · exact hfraction c hc

end Decimal

namespace Binary64
variable {cs : List Char} {c : Char} {negative : Bool}

/-- A sign is read where it is written, and no digit is taken for one. -/
theorem sign_append (h : ∀ c ∈ cs.head?, c.isDigit) :
    sign ((if negative then ['-'] else []) ++ cs) = (negative, cs) := by
  cases negative with
  | true => rfl
  | false =>
    rw [if_neg Bool.false_ne_true, List.nil_append, sign]
    · rintro _ rfl
      exact absurd (h '-' rfl) (by decide)
    · rintro _ rfl
      exact absurd (h '+' rfl) (by decide)

theorem digitsValue_eq (cs : List Char) : digitsValue cs = Nat.ofDigitChars 10 cs 0 :=
  rfl

theorem fraction_tail (x : Decimal) :
    fraction (if x.places = 0 then [] else '.' :: x.fractionDigits) = (x.fractionDigits, []) := by
  split
  · rename_i h
    rw [fraction, Decimal.fractionDigits, if_pos h]
    exact nofun
  · have hdigits : ∀ c ∈ x.fractionDigits, c.isDigit :=
      fun c => Decimal.isDigit_of_mem_fractionDigits
    rw [fraction, List.takeWhile_eq_self_iff.mpr hdigits, List.dropWhile_eq_nil_iff.mpr hdigits]

/-- The text of a decimal is read as its coefficient, with the exponent of its last place. -/
theorem written?_text (x : Decimal) :
    written? x.text.toList = some ⟨x.negative, x.coefficient, -x.places⟩ := by
  have hdigits : ∀ c ∈ x.integerDigits, c.isDigit := fun c => Decimal.isDigit_of_mem_integerDigits
  have hfront : ∀ tail, ∀ c ∈ (x.integerDigits ++ tail).head?, c.isDigit := by
    intro tail c hc
    rw [List.head?_append_of_ne_nil _ x.integerDigits_ne_nil] at hc
    exact hdigits c (List.mem_of_mem_head? hc)
  have htail : ∀ c ∈ (if x.places = 0 then [] else '.' :: x.fractionDigits).head?,
      c.isDigit = false := by
    intro c hc
    split at hc
    · exact absurd hc (by simp)
    · rw [List.head?_cons, Option.mem_some_iff] at hc
      exact hc ▸ rfl
  obtain ⟨htake, hdrop⟩ := Text.takeWhile_append_of_head? hdigits htail
  have hne : x.integerDigits.isEmpty = false := List.isEmpty_eq_false_iff.mpr x.integerDigits_ne_nil
  rw [Decimal.toList_text, written?, sign_append (hfront _)]
  simp only [htake, hdrop, fraction_tail, hne, Bool.false_and, Bool.false_eq_true, if_false,
    exponent?, Option.map_some, zero_sub, digitsValue_eq, Decimal.ofDigitChars_integerDigits_append,
    Decimal.length_fractionDigits]

theorem ofText?_text_decimal (x : Decimal) :
    ofText? x.text = some (ofWritten ⟨x.negative, x.coefficient, -x.places⟩) := by
  rw [ofText?, written?_text]

/-- Every number is read back from its text. -/
theorem ofText?_text (x : Binary64) : ofText? x.text = some x := by
  cases x with
  | nan => decide +kernel
  | infinite negative => cases negative <;> decide +kernel
  | finite s m =>
    have hshortest := (m.isShortest_shortest .up).reads s
    rw [ofWritten_eq_finite_iff, Written.magnitude, ← Decimal.magnitude_ofScaled s] at hshortest
    have hwritten : ∀ d : Decimal,
        (Written.mk d.negative d.coefficient (-d.places)).magnitude = d.magnitude := by
      intro d
      rw [Written.magnitude, Decimal.magnitude, zpow_neg, zpow_natCast, div_eq_mul_inv]
    rw [text, ofText?_text_decimal, Option.some.injEq, ofWritten_eq_finite_iff, hwritten]
    exact ⟨Decimal.negative_ofScaled _ _ _, hshortest.2⟩

end Binary64
end Phrasebook
