import Phrasebook.Formatter
import Phrasebook.Proofs.ExactSelectors
import Phrasebook.Proofs.FractionDigits

/-! What becomes of 64-bit integers in number and plural formats, which take them for floating-point
numbers. -/
namespace Phrasebook
open Binary64

/-! Grouping signs are all that the plainest locale adds to a decimal. -/

/-- A text without its commas. -/
def withoutCommas (s : String) : List Char :=
  s.toList.filter (· ≠ ',')

theorem withoutCommas_append (s t : String) :
    withoutCommas (s ++ t) = withoutCommas s ++ withoutCommas t := by
  rw [withoutCommas, String.toList_append, List.filter_append]
  rfl

theorem withoutCommas_ofList {cs : List Char} (h : ∀ c ∈ cs, c ≠ ',') :
    withoutCommas (.ofList cs) = cs := by
  rw [withoutCommas, String.toList_ofList]
  exact List.filter_eq_self.mpr fun c hc => decide_eq_true (h c hc)

namespace NumberSymbols
variable {ds : List Char} {c : Char}

theorem digit_default (h : c.isDigit) : digit {} c = c := by
  have hle : 48 ≤ c.toNat := by
    simp [Char.isDigit] at h
    exact UInt32.le_iff_toNat_le.mp h.1
  have hvalue : '0'.toNat + (c.toNat - '0'.toNat) = c.toNat := Nat.add_sub_cancel' hle
  rw [digit, hvalue, Char.ofNat_toNat]

theorem ne_comma_of_isDigit (h : c.isDigit) : c ≠ ',' := by
  rintro rfl
  exact absurd h (by decide)

theorem withoutCommas_digits (h : ∀ c ∈ ds, c.isDigit) : withoutCommas (digits {} ds) = ds := by
  rw [digits, List.map_congr_left fun c hc => digit_default (h c hc), List.map_id']
  exact withoutCommas_ofList fun c hc => ne_comma_of_isDigit (h c hc)

theorem withoutCommas_grouped (h : ∀ c ∈ ds, c.isDigit) :
    withoutCommas (grouped {} ds) = ds := by
  induction ds with
  | nil => rfl
  | cons d ds ih =>
    obtain ⟨hd, hds⟩ := List.forall_mem_cons.mp h
    have hsign : withoutCommas (if startsGroup {} (ds.length + 1) then "," else "") = [] := by
      split <;> rfl
    rw [grouped, withoutCommas_append, withoutCommas_append, hsign, ih hds,
      withoutCommas_digits (List.forall_mem_singleton.mpr hd)]
    rfl

theorem withoutCommas_whole (h : ∀ c ∈ ds, c.isDigit) : withoutCommas (whole {} ds) = ds := by
  rw [whole]
  split
  · exact withoutCommas_digits h
  · rw [withoutCommas_append, withoutCommas_digits fun c hc => h c (List.mem_of_mem_take hc),
      withoutCommas_grouped fun c hc => h c (List.mem_of_mem_drop hc), List.take_append_drop]

theorem withoutCommas_format (x : Decimal) : withoutCommas (format {} x) = x.text.toList := by
  have hminus : withoutCommas (if x.negative then "-" else "") =
      if x.negative then ['-'] else [] := by split <;> rfl
  have hfraction : withoutCommas
      (if x.places = 0 then "" else "." ++ digits {} x.fractionDigits) =
      if x.places = 0 then [] else '.' :: x.fractionDigits := by
    split
    · rfl
    · rw [withoutCommas_append,
        withoutCommas_digits fun c hc => Decimal.isDigit_of_mem_fractionDigits hc]
      rfl
  have hwhole : withoutCommas (whole {} x.integerDigits) = x.integerDigits :=
    withoutCommas_whole fun c hc => Decimal.isDigit_of_mem_integerDigits hc
  rw [format, withoutCommas_append, withoutCommas_append, hminus, hfraction, hwhole, Decimal.text,
    String.toList_ofList]

end NumberSymbols

/-- A whole number needs no fitting. -/
theorem Places.standard_fit {d : Decimal} (h : d.places = 0) : standard.fit d = d := by
  obtain ⟨s, c, places, w⟩ := d
  subst h
  simp [standard, fit, Decimal.roundTo, Decimal.trimFraction, Decimal.trimFraction.go,
    Decimal.padFraction]

theorem NumberSymbols.ofLocale_en : ofLocale (Locale.resolve ["en"]) = {} := by
  decide +kernel

namespace Formatter
variable (settings : CurrencySettings) {caches : FormatCaches} {n : Int64} {m : Magnitude}
  {s : Bool}

theorem format_number (locales : List String) {v : Value} {x : Binary64} (places : Places)
    (hv : v.number = .ok x) :
    ((number (.decimal places)).format .cached settings locales v caches).1 =
      .ok (formatDecimal .cached (Locale.resolve locales) x places caches).1 := by
  simp only [format, hv, NumberFormat.format]
  rfl

/-- Without its commas, the text of an integer is that of the shortest decimal of the number nearest
to it. -/
theorem format_number_integer (hn : ofInt n.toInt = .finite s m) (h : m.units % one = 0) :
    ∃ text, ((number (.decimal .standard)).format .cached settings ["en"] (.integer n) caches).1 =
        .ok text ∧
      withoutCommas text =
        (Decimal.ofScaled s (m.shortest .even).1 (m.shortest .even).2).text.toList := by
  obtain ⟨c, f, heq⟩ := Magnitude.exists_shortest_of_integral h .even
  refine ⟨(NumberSymbols.ofLocale (Locale.resolve ["en"])).format
    (Places.standard.fit (.ofScaled s (m.shortest .even).1 (m.shortest .even).2)), ?_, ?_⟩
  · have hsymbols := Cache.fetch_fst (Locale.resolve ["en"]) caches.symbols
    rw [format_number _ ["en"] .standard rfl, hn, formatDecimal_finite, ← hsymbols]
    rfl
  · rw [NumberSymbols.ofLocale_en, heq, Places.standard_fit rfl, NumberSymbols.withoutCommas_format]

/-- Where the nearest number is the integer, its shortest decimal is that of the integer as long as
all its digits count. -/
theorem text_ofScaled_shortest (h : m.units = n.toInt.natAbs * one)
    (hsmall : n.toInt.natAbs < 2 ^ 54) (tie : Tie) :
    (Decimal.ofScaled (n.toInt < 0) (m.shortest tie).1 (m.shortest tie).2).text =
      (Value.integer n).plainText := by
  have hintegral : m.units % one = 0 := by rw [h, Nat.mul_mod_left]
  have hlt : m.units / one < 2 ^ 54 := by rwa [h, Nat.mul_div_cancel _ Binary64.one_pos]
  have hshortest := ofScaled_shortest_of_integral hintegral hlt (n.toInt < 0) tie
  rw [← decide_truncated_lt_zero_eq hintegral, truncated_of_units_eq h] at hshortest
  rw [hshortest, Value.plainText]

theorem exactSelector_ofInt (hn : ofInt n.toInt = .finite (n.toInt < 0) m)
    (h : m.units = n.toInt.natAbs * one) :
    PluralFormat.exactSelector (ofInt n.toInt) = "=" ++ (Value.integer n).plainText := by
  have hlow := n.le_toInt
  have hhigh := n.toInt_lt
  have hsome : (ofInt n.toInt).toInt64? = some n := by
    rw [hn, toInt64?_eq_some_iff, truncated_of_units_eq h, h, Nat.mul_mod_left]
    exact ⟨rfl, ⟨hlow, hhigh.le⟩, by omega⟩
  rw [PluralFormat.exactSelector_of_eq_some hsome, Value.plainText]

theorem format_plural_of_exact {M : Type → Type} [Monad M] [LawfulMonad M] (data : LocaleData M)
    (locales : List String) {f : PluralFormat} {clause : String} {v : Value} {x : Binary64}
    (hv : v.number = .ok x)
    (hclause : f.clauses.get? (PluralFormat.exactSelector x) = some clause) :
    (plural f).format data settings locales v =
      .ok <$> if clause.contains '#' then
        PluralFormat.substitute clause <$> formatDecimal data (Locale.resolve locales) x .standard
      else pure clause := by
  simp only [format, hv, PluralFormat.format_of_exact data _ hclause]

/-- Number formats show the shortest decimal of the number nearest to an integer, and a clause for
exactly the integer is shown if that number is the integer. Up to `2^53` it is, and then number
formats show the digits of the integer. -/
theorem format_integer (settings : CurrencySettings) (caches : FormatCaches) (n : Int64) :
    ∃ m : Magnitude, ofInt n.toInt = .finite (n.toInt < 0) m ∧
      (n.toInt.natAbs ≤ 2 ^ 53 → m.units = n.toInt.natAbs * one) ∧
      (∃ c e f text, m.shortest .even = (c, e) ∧ m.IsShortest c e ∧
        ofFormat "number" none = .ok f ∧
        (f.format .cached settings ["en"] (.integer n) caches).1 = .ok text ∧
        withoutCommas text = (Decimal.ofScaled (n.toInt < 0) c e).text.toList ∧
        (n.toInt.natAbs ≤ 2 ^ 53 → withoutCommas text = (Value.integer n).plainText.toList)) ∧
      (m.units = n.toInt.natAbs * one → ∀ (f : PluralFormat) (clause : String)
        (locales : List String),
        f.clauses.get? ("=" ++ (Value.integer n).plainText) = some clause →
        (plural f).format .cached settings locales (.integer n) =
          .ok <$> if clause.contains '#' then PluralFormat.substitute clause <$>
            formatDecimal .cached (Locale.resolve locales) (ofInt n.toInt) .standard
          else pure clause) := by
  have hrange : n.toInt.natAbs ≤ 2 ^ 63 := by
    have hlow := n.le_toInt
    have hhigh := n.toInt_lt
    omega
  obtain ⟨m, hn, hintegral, hexact⟩ := exists_ofInt_eq_finite hrange
  refine ⟨m, hn, hexact, ?_, ?_⟩
  · obtain ⟨text, htext, hdigits⟩ := format_number_integer settings hn hintegral
    refine ⟨_, _, _, text, Prod.mk.eta.symm, m.isShortest_shortest .even, rfl, htext, hdigits,
      fun hsmall => ?_⟩
    rw [hdigits, text_ofScaled_shortest (hexact hsmall) (by omega)]
  · intro hunits f clause locales hclause
    rw [← exactSelector_ofInt hn hunits] at hclause
    exact format_plural_of_exact settings .cached locales rfl hclause

/-- The first integer above `2^53` is shown as the one before it, and not by its own clause. -/
theorem format_integer_above :
    ((number (.decimal .standard)).format .cached {} ["en"] (.integer 9007199254740993) {}).1 =
      .ok "9,007,199,254,740,992" ∧
    withoutCommas "9,007,199,254,740,992" ≠ (Value.integer 9007199254740993).plainText.toList ∧
    (Clauses.ofText .plural "=9007199254740993 \x7bexact\x7d other \x7bother\x7d").get?
      "=9007199254740993" = some "exact" ∧
    (Value.integer 9007199254740993).number.map (fun x => ((PluralFormat.ofText
      "=9007199254740993 \x7bexact\x7d other \x7bother\x7d" .cardinal).clause? .cached
        (Locale.resolve ["en"]) x {}).1) = .ok (some "other") := by
  have hnumber : (formatDecimal .cached (Locale.resolve ["en"])
      (ofInt (9007199254740993 : Int64).toInt) .standard {}).1 = "9,007,199,254,740,992" := by
    decide +kernel
  have hplural : ((PluralFormat.ofText "=9007199254740993 \x7bexact\x7d other \x7bother\x7d"
      .cardinal).clause? .cached (Locale.resolve ["en"]) (ofInt (9007199254740993 : Int64).toInt)
        {}).1 = some "other" := by decide +kernel
  refine ⟨?_, by decide +kernel, by decide +kernel, congrArg Except.ok hplural⟩
  rw [format_number _ ["en"] .standard rfl, hnumber]

end Formatter
end Phrasebook
