import Phrasebook.Proofs.Demand
import Phrasebook.Proofs.Integers

/-! Plural categories and the sign of a count. A number and its negative are taken for integers of
one absolute value, but for the two ends of the 64-bit range, which are not as far from zero as each
other. No language has a rule that tells these two apart. -/
namespace Phrasebook

namespace Binary64
variable {x : Binary64} {m : Magnitude}

theorem abs_neg (x : Binary64) : (-x).abs = x.abs := by
  cases x <;> rfl

theorem isFinite_neg (x : Binary64) : (-x).isFinite = x.isFinite := by
  cases x <;> rfl

theorem truncated_not (s : Bool) (m : Magnitude) : truncated (!s) m = -truncated s m := by
  obtain ⟨a, ha⟩ : ∃ a, m.units / one = a := ⟨_, rfl⟩
  rw [truncated, truncated, ha]
  cases s <;> simp

/-- The absolute values of 64-bit integers that a number and its negative may be taken for: equal
ones, or those of the least and the greatest integer. -/
def AreOpposite (a b : ℕ) : Prop :=
  a = b ∨ (a = 2 ^ 63 ∧ b = 2 ^ 63 - 1) ∨ (a = 2 ^ 63 - 1 ∧ b = 2 ^ 63)

theorem exists_toInt64? (h : m.units % one = 0) (hle : m.units / one ≤ 2 ^ 63) (s : Bool) :
    ∃ i : Int64, (finite s m).toInt64? = some i ∧ i.toInt = min (truncated s m) (2 ^ 63 - 1) := by
  have hnatAbs := natAbs_truncated s m
  have hvalue : (Int64.ofInt (min (truncated s m) (2 ^ 63 - 1))).toInt =
      min (truncated s m) (2 ^ 63 - 1) := Int64.toInt_ofInt_of_le (by omega) (by omega)
  refine ⟨_, toInt64?_eq_some_iff.mpr ⟨h, ⟨by omega, by omega⟩, hvalue⟩, hvalue⟩

theorem toInt64?_eq_none (h : ¬(m.units % one = 0 ∧ m.units / one ≤ 2 ^ 63)) (s : Bool) :
    (finite s m).toInt64? = none := by
  rw [Option.eq_none_iff_forall_ne_some]
  intro i hi
  have hnatAbs := natAbs_truncated s m
  obtain ⟨hintegral, hrange, -⟩ := toInt64?_eq_some_iff.mp hi
  exact h ⟨hintegral, by omega⟩

/-- A number is taken for an integer if its negative is, and then for an opposite one. -/
theorem toInt64?_neg (x : Binary64) :
    ((-x).toInt64? = none ∧ x.toInt64? = none) ∨
      ∃ i j : Int64, (-x).toInt64? = some i ∧ x.toInt64? = some j ∧
        AreOpposite i.toInt.natAbs j.toInt.natAbs := by
  cases x with
  | nan => exact Or.inl ⟨rfl, rfl⟩
  | infinite s => exact Or.inl ⟨rfl, rfl⟩
  | finite s m =>
    by_cases h : m.units % one = 0 ∧ m.units / one ≤ 2 ^ 63
    · right
      obtain ⟨i, hi, hivalue⟩ := exists_toInt64? h.1 h.2 (!s)
      obtain ⟨j, hj, hjvalue⟩ := exists_toInt64? h.1 h.2 s
      refine ⟨i, j, hi, hj, ?_⟩
      have hnatAbs := natAbs_truncated s m
      rw [truncated_not] at hivalue
      rw [hivalue, hjvalue, AreOpposite]
      omega
    · left
      exact ⟨toInt64?_eq_none h (!s), toInt64?_eq_none h s⟩

end Binary64

/-- What holds of every entry of a table and of the default holds of what a locale looks up. -/
theorem Locale.lookup_induction {α : Type} {P : α → Prop} {table : List (String × α)} {default : α}
    (hdefault : P default) (htable : ∀ e ∈ table, P e.2) (l : Locale) :
    P (l.lookup table default) := by
  rw [lookup]
  cases h : l.lookup? table with
  | none => exact hdefault
  | some a =>
    obtain ⟨id, -, hid⟩ := List.exists_of_findSome?_eq_some h
    obtain ⟨before, after, he, -⟩ := List.lookup_eq_some_iff.mp hid
    exact htable (id, a) (by simp [he])

namespace PluralRules

/-- The two ends of the 64-bit range are in one category. -/
def AgreesAtEnds (r : PluralRules) : Prop :=
  r.category (.ofNat (2 ^ 63 - 1)) = r.category (.ofNat (2 ^ 63))

instance (r : PluralRules) : Decidable r.AgreesAtEnds :=
  inferInstanceAs (Decidable (_ = _))

/-- The absolute values at the ends end in 07 and in 08, which no language tells apart. -/
theorem agreesAtEnds_ofLocale (l : Locale) (kind : RuleKind) : (ofLocale l kind).AgreesAtEnds := by
  have hdefault : AgreesAtEnds {} := rfl
  have hcardinal : ∀ e ∈ cardinal, e.2.AgreesAtEnds := by decide +kernel
  have hordinal : ∀ e ∈ ordinal, e.2.AgreesAtEnds := by decide
  cases kind with
  | cardinal => exact l.lookup_induction hdefault hcardinal
  | ordinal => exact l.lookup_induction hdefault hordinal

theorem AgreesAtEnds.category_eq {r : PluralRules} (hr : r.AgreesAtEnds) {a b : ℕ}
    (h : Binary64.AreOpposite a b) : r.category (.ofNat a) = r.category (.ofNat b) := by
  rcases h with rfl | ⟨rfl, rfl⟩ | ⟨rfl, rfl⟩
  · rfl
  · exact hr.symm
  · exact hr

end PluralRules

section
variable {data : LocaleData Id} {l : Locale} {kind : RuleKind}

theorem pluralCategory_of_integer {x : Binary64} {n : Int64} (h : x.toInt64? = some n) :
    pluralCategory data l kind x = (data.rules l kind).category (.ofNat n.toInt.natAbs) := by
  simp only [pluralCategory, h]
  rfl

theorem pluralCategory_neg_of_agreesAtEnds (hr : (data.rules l kind).AgreesAtEnds)
    (x : Binary64) : pluralCategory data l kind (-x) = pluralCategory data l kind x := by
  rcases x.toInt64?_neg with ⟨hneg, hx⟩ | ⟨i, j, hneg, hx, hopposite⟩
  · simp only [pluralCategory, hneg, hx, Binary64.abs_neg]
  · rw [pluralCategory_of_integer hneg, pluralCategory_of_integer hx]
    exact hr.category_eq hopposite

/-- Rules ignore the sign of every count just if they do not tell the ends of the range apart. -/
theorem pluralCategory_neg_iff :
    (∀ x, pluralCategory data l kind (-x) = pluralCategory data l kind x) ↔
      (data.rules l kind).AgreesAtEnds := by
  refine ⟨fun h => ?_, pluralCategory_neg_of_agreesAtEnds⟩
  let top : Binary64 := .ofInt (2 ^ 63)
  have htop : top.toInt64? = some Int64.maxValue := by decide +kernel
  have hneg : (-top).toInt64? = some Int64.minValue := by decide +kernel
  have heq := h top
  rw [pluralCategory_of_integer htop, pluralCategory_of_integer hneg] at heq
  exact heq.symm

end

/-- A count and its negative are in the same category, whatever the caches hold, and leave the same
caches. Other rules would do so just if they put the two ends of the 64-bit range into one
category. -/
theorem pluralCategory_neg :
    (∀ (l : Locale) (kind : RuleKind) (x : Binary64) (caches : FormatCaches),
      pluralCategory .cached l kind (-x) caches = pluralCategory .cached l kind x caches) ∧
    ∀ (data : LocaleData Id) (l : Locale) (kind : RuleKind),
      (∀ x, pluralCategory data l kind (-x) = pluralCategory data l kind x) ↔
        (data.rules l kind).AgreesAtEnds := by
  refine ⟨?_, fun _ _ _ => pluralCategory_neg_iff⟩
  intro l kind x caches
  have hdirect : ∀ y : Binary64, (pluralCategory .cached l kind y caches).1 =
      pluralCategory (m := Id) .direct l kind y := fun y =>
    Correspondence.rel_category access_cached_direct kind caches
  apply Prod.ext
  · rw [hdirect, hdirect]
    exact pluralCategory_neg_of_agreesAtEnds (PluralRules.agreesAtEnds_ofLocale l kind) x
  · rw [pluralCategory_cached, pluralCategory_cached, Binary64.isFinite_neg]

end Phrasebook
