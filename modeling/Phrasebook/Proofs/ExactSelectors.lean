import Phrasebook.Format.Clauses
import Phrasebook.Proofs.Integers

/-! The selector of exactly a count. -/
namespace Phrasebook
open Binary64

namespace PluralFormat

theorem exactSelector_of_eq_some {x : Binary64} {i : Int64} (h : x.toInt64? = some i) :
    exactSelector x = "=" ++ (Decimal.ofInt i.toInt).text := by
  simp only [exactSelector, h]

theorem exactSelector_of_eq_none {x : Binary64} (h : x.toInt64? = none) :
    exactSelector x = "=" ++ x.text := by
  simp only [exactSelector, h]

/-- A clause for exactly the count is the one that is shown. -/
theorem format_of_exact {M : Type → Type} [Monad M] [LawfulMonad M] (data : LocaleData M)
    (l : Locale) {f : PluralFormat} {x : Binary64} {text : String}
    (h : f.clauses.get? (exactSelector x) = some text) :
    f.format data l x =
      if text.contains '#' then substitute text <$> formatDecimal data l x .standard
      else pure text := by
  simp only [format, clause?, h, pure_bind, map_eq_pure_bind]

/-- The selector of a finite count is its shortest decimal, and that of a zero has no sign. But an
integer from `2^54` on that is taken for a 64-bit one has all its digits, and the one above the
greatest 64-bit integer has the digits of the greatest. -/
theorem exactSelector_finite (s : Bool) (m : Magnitude) :
    ∃ c e, m.shortest .up = (c, e) ∧ m.IsShortest c e ∧ exactSelector (.finite s m) = "=" ++
      (if m.units % one = 0 ∧ 2 ^ 54 ≤ m.units / one ∧ m.units / one ≤ 2 ^ 63 then
        Decimal.ofInt (min (truncated s m) (2 ^ 63 - 1))
      else Decimal.ofScaled (s && m.units != 0) c e).text := by
  refine ⟨_, _, Prod.mk.eta.symm, m.isShortest_shortest .up, ?_⟩
  have hnatAbs := natAbs_truncated s m
  cases hi : (finite s m).toInt64? with
  | some i =>
    obtain ⟨hintegral, ⟨hlow, hhigh⟩, hvalue⟩ := toInt64?_eq_some_iff.mp hi
    rw [exactSelector_of_eq_some hi, hvalue]
    split
    · rfl
    · rename_i hsmall
      have hlt : m.units / one < 2 ^ 54 :=
        not_le.mp fun hle => hsmall ⟨hintegral, hle, by omega⟩
      rw [ofScaled_shortest_of_integral hintegral hlt, min_eq_left (by omega)]
  | none =>
    have hnot : ¬(m.units % one = 0 ∧ m.units / one ≤ 2 ^ 63) := by
      rintro ⟨hintegral, hle⟩
      obtain ⟨i, hvalue⟩ : ∃ i : Int64, i.toInt = min (truncated s m) (2 ^ 63 - 1) :=
        ⟨.ofInt _, Int64.toInt_ofInt_of_le (by omega) (by omega)⟩
      have hsome := toInt64?_eq_some_iff.mpr ⟨hintegral, ⟨by omega, by omega⟩, hvalue⟩
      exact Option.some_ne_none i (hsome.symm.trans hi)
    have hu : m.units ≠ 0 := by
      intro hu
      exact hnot (by simp [hu])
    have hsign : (s && m.units != 0) = s := by rw [bne_iff_ne.mpr hu, Bool.and_true]
    rw [exactSelector_of_eq_none hi, if_neg fun h => hnot ⟨h.1, h.2.2⟩, hsign]
    rfl

/-- One above the greatest 64-bit integer, the selector is neither the count nor its shortest
decimal. -/
theorem exactSelector_two_pow_63 : ∃ m : Magnitude, ofInt (2 ^ 63) = .finite false m ∧
    m.IsShortest 9223372036854776 3 ∧ exactSelector (.finite false m) = "=9223372036854775807" ∧
      (Decimal.ofScaled false 9223372036854776 3).text = "9223372036854776000" := by
  let m : Magnitude := ⟨2 ^ 63 * one, by decide +kernel, by decide +kernel⟩
  have hshortest : m.shortest .up = (9223372036854776, 3) := by decide +kernel
  have hm := Magnitude.isShortest_shortest .up m
  rw [hshortest] at hm
  exact ⟨m, by decide +kernel, hm, by decide +kernel, by decide +kernel⟩

end PluralFormat
end Phrasebook
