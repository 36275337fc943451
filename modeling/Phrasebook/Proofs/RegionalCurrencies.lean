import Mathlib.Data.List.Nodup
import Phrasebook.Formatter

/-! Which currency a locale's amounts are in, where nothing is set for the locale. The table of
regions comes first. A region that is not in it leaves the choice to the language, so that locales of
one region may show different currencies. -/
namespace Phrasebook

theorem SignPlacement.gap_ofLanguage (language : String) :
    (ofLanguage language).gap = "\u00a0" ∨ (ofLanguage language).gap = "" := by
  rw [ofLanguage]
  split
  · exact Or.inl rfl
  · split
    · exact Or.inl rfl
    · exact Or.inr rfl

namespace Currency
variable {l l' : Locale} {settings : CurrencySettings} {c c' : Currency}

/-- The sign of a currency with what parts it from the amount. -/
def affix (afterAmount : Bool) (gap : String) (c : Currency) : String :=
  let gap := if NumberFormat.endsInLetter c.symbol then "\u00a0" else gap
  if afterAmount then gap ++ c.symbol else c.symbol ++ gap

theorem affix_injective (afterAmount : Bool) {gap : String} (hgap : gap = "\u00a0" ∨ gap = "") :
    Function.Injective (affix afterAmount gap) := by
  have hnodup : (all.map (affix afterAmount gap)).Nodup := by
    rcases hgap with rfl | rfl <;> cases afterAmount <;> decide +kernel
  intro c c' h
  exact List.inj_on_of_nodup_map hnodup c.mem_all c'.mem_all h

theorem format_named (x : Binary64) (caches : FormatCaches) :
    let p := SignPlacement.ofLanguage l.id.language
    let body := (formatDecimal .cached l x.abs .money caches).1
    ((NumberFormat.currency (.named c)).format .cached settings l x caches).1 =
      if p.afterAmount then NumberFormat.sign x ++ body ++ c.affix true p.gap
      else NumberFormat.sign x ++ c.affix false p.gap ++ body := by
  intro p body
  let gap := if NumberFormat.endsInLetter c.symbol then "\u00a0" else p.gap
  calc
    _ = if p.afterAmount then NumberFormat.sign x ++ body ++ gap ++ c.symbol
        else NumberFormat.sign x ++ c.symbol ++ gap ++ body := rfl
    _ = _ := by cases p.afterAmount <;> simp [affix, gap, String.append_assoc]

/-- Amounts of different currencies are never written in the same way. -/
theorem named_injective (x : Binary64) (caches : FormatCaches)
    (h : (NumberFormat.currency (.named c)).format .cached settings l x caches =
      (NumberFormat.currency (.named c')).format .cached settings l x caches) : c = c' := by
  have hgap := SignPlacement.gap_ofLanguage l.id.language
  have htexts := congrArg Prod.fst h
  simp only [format_named] at htexts
  split at htexts
  · exact affix_injective true hgap (String.append_right_inj _ |>.mp htexts)
  · exact affix_injective false hgap (by simpa using htexts)

theorem ofFormat_code (c : Currency) :
    Formatter.ofFormat "number" (some c.code) = .ok (.number (.currency (.named c))) := by
  have hall : ∀ c ∈ all, Formatter.ofFormat "number" (some c.code) =
    .ok (.number (.currency (.named c))) := by decide +kernel
  exact hall c c.mem_all

/-- `{n, number, currency}` writes all amounts for the locale as the format with the currency's code
does. -/
def IsShown (settings : CurrencySettings) (l : Locale) (c : Currency) : Prop :=
  ∃ f g : NumberFormat, Formatter.ofFormat "number" (some "currency") = .ok (.number f) ∧
    Formatter.ofFormat "number" (some c.code) = .ok (.number g) ∧
    ∀ x caches, f.format .cached settings l x caches = g.format .cached settings l x caches

theorem isShown_iff : IsShown settings l c ↔ c = settings.currency l := by
  have hformat : Formatter.ofFormat "number" (some "currency") =
    .ok (.number (.currency .ofLocale)) := by decide +kernel
  constructor
  · rintro ⟨f, g, hf, hg, h⟩
    cases hformat.symm.trans hf
    cases c.ofFormat_code.symm.trans hg
    exact (named_injective (.ofInt 0) {} (h _ _)).symm
  · rintro rfl
    exact ⟨_, _, hformat, ofFormat_code _, fun x caches => rfl⟩

/-- The currency that the table of regions has for a locale. -/
def ofRegion? (l : Locale) : Option Currency :=
  l.id.region.bind fun region => byRegion.lookup region

/-- The currency that the table of languages has for a locale. -/
def ofLanguage? (l : Locale) : Option Currency :=
  byLanguage.lookup l.id.language

theorem ofRegion?_congr (h : l.id.region = l'.id.region) : ofRegion? l = ofRegion? l' := by
  rw [ofRegion?, ofRegion?, h]

theorem ofLocale?_eq (l : Locale) : ofLocale? l = (ofRegion? l).or (ofLanguage? l) :=
  Option.orElse_eq_or

/-- Locales of one region agree just if the region is listed or their languages agree. -/
theorem ofLocale?_eq_iff (hregion : l.id.region = l'.id.region) :
    ofLocale? l = ofLocale? l' ↔ (ofRegion? l).isSome ∨ ofLanguage? l = ofLanguage? l' := by
  rw [ofLocale?_eq, ofLocale?_eq, ofRegion?_congr hregion]
  cases ofRegion? l' with
  | some c => simp
  | none => simp

theorem currency_of_no_overrides (h : settings.overrides = ∅) (l : Locale) :
    settings.currency l = ((ofRegion? l).or (ofLanguage? l)).getD settings.default := by
  rw [← ofLocale?_eq, CurrencySettings.currency, h]
  rfl

/-- Where nothing is set for locales, amounts are in the currency of the region if it is listed, else
in that of the language, else in the default. So two locales of one region show the same currency
just if the region is listed or their languages have one currency, the default for want of another. -/
theorem isShown_of_region_eq (hoverrides : settings.overrides = ∅)
    (hregion : l.id.region = l'.id.region) :
    (ofLocale? l = ofLocale? l' ↔ (ofRegion? l).isSome ∨ ofLanguage? l = ofLanguage? l') ∧
    (∀ c, IsShown settings l c ↔
      c = ((ofRegion? l).or (ofLanguage? l)).getD settings.default) ∧
    ((∃ c, IsShown settings l c ∧ IsShown settings l' c) ↔ (ofRegion? l).isSome ∨
      (ofLanguage? l).getD settings.default = (ofLanguage? l').getD settings.default) := by
  have hshown : ∀ l c, IsShown settings l c ↔
      c = ((ofRegion? l).or (ofLanguage? l)).getD settings.default := by
    intro l c
    rw [isShown_iff, currency_of_no_overrides hoverrides]
  refine ⟨ofLocale?_eq_iff hregion, hshown l, ?_⟩
  simp only [hshown, ofRegion?_congr hregion]
  cases ofRegion? l' with
  | some c => simp
  | none => simp

/-- In Switzerland, German and Italian agree. -/
theorem isShown_swiss :
    let l := Locale.resolve ["de-CH-u-nu-latn"]
    let l' := Locale.resolve ["it-Latn-CH"]
    l.id.region = l'.id.region ∧ ofLocale? l = ofLocale? l' ∧
      ∃ c, IsShown {} l c ∧ IsShown {} l' c := by
  have hregion : (Locale.resolve ["de-CH-u-nu-latn"]).id.region =
    (Locale.resolve ["it-Latn-CH"]).id.region := by decide +kernel
  obtain ⟨hagree, -, hshown⟩ :=
    isShown_of_region_eq (rfl : ({} : CurrencySettings).overrides = ∅) hregion
  have hlisted : (ofRegion? (Locale.resolve ["de-CH-u-nu-latn"])).isSome := by decide +kernel
  exact ⟨hregion, hagree.mpr (Or.inl hlisted), hshown.mpr (Or.inl hlisted)⟩

/-- Cameroon is not in the table of regions. English and French show two currencies there, of which
the second is not the default. -/
theorem isShown_cameroon :
    let l := Locale.resolve ["en-CM"]
    let l' := Locale.resolve ["fr-CM"]
    l.id.region = some "CM" ∧ l'.id.region = some "CM" ∧ byRegion.lookup "CM" = none ∧
      ofLocale? l = some usd ∧ ofLocale? l' = some eur ∧ IsShown {} l usd ∧ IsShown {} l' eur ∧
      ¬IsShown {} l' ({} : CurrencySettings).default := by
  simp only [isShown_iff]
  decide +kernel

end Currency
end Phrasebook
