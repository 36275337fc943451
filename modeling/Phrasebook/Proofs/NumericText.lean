import Phrasebook.Proofs.FormattedIntegers
import Phrasebook.Proofs.Mismatches

/-! Integers as numbers and as text. The digits of an integer are read as the same number that the
integer is taken for, so no format tells them apart. -/
namespace Phrasebook

/-- The text of a 64-bit integer is read as the number nearest to the integer: both round the same
value. -/
theorem Binary64.ofText?_text_ofInt {n : ℤ} (hn : n.natAbs ≤ 2 ^ 63) :
    ofText? (Decimal.ofInt n).text = some (ofInt n) := by
  have hdigits : (Nat.toDigits 10 n.natAbs).length ≤ 19 :=
    (Nat.length_toDigits_le_iff (by decide) (by decide)).mpr (by omega)
  have htop : ¬(330 : ℤ) < (Nat.toDigits 10 n.natAbs).length := by omega
  rw [ofText?_text_decimal, Option.some.injEq, ofInt, ofWritten]
  by_cases hzero : n = 0
  · subst hzero
    rw [if_pos (by simp [Decimal.ofInt])]
    rfl
  · simp [Decimal.ofInt, hzero, htop]

/-- An integer and its digits, with white space around them, stand for the same number. -/
theorem Value.number_numeral (n : Int64) {a b : String} (ha : ∀ c ∈ a.toList, Text.isBlank c)
    (hb : ∀ c ∈ b.toList, Text.isBlank c) :
    (text (a ++ (integer n).plainText ++ b)).number = (integer n).number := by
  have hlow := n.le_toInt
  have hhigh := n.toInt_lt
  have hread := Binary64.ofText?_text_ofInt (n := n.toInt) (by omega)
  simp only [number, plainText, Text.trim_append _ ha hb,
    Text.trim_of_isSolid (Decimal.isSolid_text _), hread]

namespace Formatter
variable {f : Formatter} {v w : Value}

/-- Values that stand for the same number are shown alike. -/
theorem format_eq_of_number_eq {M : Type → Type} [Monad M] (hf : f.ShowsNumber)
    (h : v.number = w.number) (data : LocaleData M) (settings : CurrencySettings)
    (locales : List String) : f.format data settings locales v = f.format data settings locales w := by
  cases f with
  | plainText | date | time | select => exact hf.elim
  | number g | plural g => simp only [format, h]

/-- A value that stands for a number is shown. -/
theorem exists_format_eq_ok (hf : f.ShowsNumber) {x : Binary64} (hx : v.number = .ok x)
    (settings : CurrencySettings) (locales : List String) (caches : FormatCaches) :
    ∃ text after, f.format .cached settings locales v caches = (.ok text, after) := by
  cases f with
  | plainText | date | time | select => exact hf.elim
  | number g | plural g =>
    simp only [format, hx]
    exact ⟨_, _, rfl⟩

/-- Formatters of numbers and of counts show an integer as they show its digits in a text, with any
white space around them, and leave the same caches. -/
theorem format_numeral (hf : f.ShowsNumber) (settings : CurrencySettings) (locales : List String)
    (caches : FormatCaches) (n : Int64) {a b : String} (ha : ∀ c ∈ a.toList, Text.isBlank c)
    (hb : ∀ c ∈ b.toList, Text.isBlank c) :
    ∃ text after, f.format .cached settings locales (.integer n) caches = (.ok text, after) ∧
      f.format .cached settings locales (.text (a ++ (Value.integer n).plainText ++ b)) caches =
        (.ok text, after) := by
  obtain ⟨text, after, hshown⟩ :=
    exists_format_eq_ok (v := .integer n) hf rfl settings locales caches
  refine ⟨text, after, hshown, ?_⟩
  rw [format_eq_of_number_eq hf (Value.number_numeral n ha hb), hshown]

/-- One above `2^53` below zero, with blanks of several kinds: the text is rounded as the integer
is. -/
theorem format_numeral_rounded : ∃ after : FormatCaches,
    ((number (.decimal .standard)).format .cached {} ["en"] (.integer (-9007199254740993)) {}) =
      (.ok "-9,007,199,254,740,992", after) ∧
    ((number (.decimal .standard)).format .cached {} ["en"]
      (.text "\u3000\t-9007199254740993\u0085\n") {}) = (.ok "-9,007,199,254,740,992", after) := by
  have htext : (Value.integer (-9007199254740993)).plainText = "-9007199254740993" := by
    decide
  have hshown : ((number (.decimal .standard)).format .cached {} ["en"]
      (.integer (-9007199254740993)) {}).1 = .ok "-9,007,199,254,740,992" := by decide +kernel
  obtain ⟨text, after, hinteger, hnumeral⟩ := format_numeral (f := number (.decimal .standard))
    (a := "\u3000\t") (b := "\u0085\n") trivial {} ["en"] {} (-9007199254740993)
    (List.all_eq_true.mp (by decide)) (List.all_eq_true.mp (by decide))
  rw [hinteger, Except.ok.injEq] at hshown
  subst hshown
  rw [htext] at hnumeral
  exact ⟨after, hinteger, hnumeral⟩

end Formatter
end Phrasebook
