import Phrasebook.Proofs.DecimalText
import Phrasebook.Proofs.Effects
import Phrasebook.Proofs.ExactSelectors
import Phrasebook.Proofs.WrittenClauses

/-! Clauses for exactly a count. The selector of a finite count is always one that is read, and its
clause is shown whatever the other clauses are. -/
namespace Phrasebook
open Binary64 Text

namespace Clause
variable {kind : SelectorKind} {selector : List Char}

theorem ends_nil : Ends [] := by
  constructor <;> exact nofun

/-- A selector as a whole text is one. -/
theorem isSelector_ofList (h : IsSelector kind selector) : isSelector kind (.ofList selector) := by
  have hread := selector?_append h ends_nil
  rw [List.append_nil] at hread
  simp [isSelector, hread]

/-- Every decimal is an exact count as it is written. -/
theorem isSelector_text (d : Decimal) : IsSelector .plural ('=' :: d.text.toList) := by
  have hminus : (if d.negative then ['-'] else []) = [] ∨
      (if d.negative then ['-'] else []) = ['-'] := by
    cases d.negative
    · exact Or.inl rfl
    · exact Or.inr rfl
  have hwhole : IsDigits d.integerDigits :=
    ⟨d.integerDigits_ne_nil, fun c hc => Decimal.isDigit_of_mem_integerDigits hc⟩
  rw [Decimal.toList_text]
  by_cases hplaces : d.places = 0
  · rw [if_pos hplaces, List.append_nil]
    exact .exact hminus hwhole
  · have hfraction : IsDigits d.fractionDigits := by
      refine ⟨List.ne_nil_of_length_pos ?_, fun c hc => Decimal.isDigit_of_mem_fractionDigits hc⟩
      rw [d.length_fractionDigits]
      omega
    rw [if_neg hplaces, ← List.append_assoc]
    exact .exactFraction hminus hwhole hfraction

/-- The clause for exactly a decimal. -/
def Written.exactly (d : Decimal) (text : List Char) (h : IsBalanced text) : Written .plural :=
  ⟨[], List.forall_mem_nil _, _, isSelector_text d, [], List.forall_mem_nil _, text, h⟩

end Clause

namespace PluralFormat
variable {s : Bool} {m : Magnitude} {text count : String}

/-- The selector of a finite count has the text of a decimal, on either way to write the count. -/
theorem exists_exactSelector_finite (s : Bool) (m : Magnitude) :
    ∃ d : Decimal, exactSelector (.finite s m) = "=" ++ d.text := by
  cases h : (finite s m).toInt64? with
  | some i => exact ⟨_, exactSelector_of_eq_some h⟩
  | none => exact ⟨_, exactSelector_of_eq_none h⟩

theorem isSelector_exactSelector (s : Bool) (m : Magnitude) :
    Clause.IsSelector .plural (exactSelector (.finite s m)).toList := by
  obtain ⟨d, hd⟩ := exists_exactSelector_finite s m
  rw [hd, String.toList_append]
  exact Clause.isSelector_text d

theorem substitute_of_no_sign (h : text.contains '#' = false) : substitute text count = text := by
  have hsign : '#' ∉ text.toList := by simpa using h
  have hkeep : ∀ c ∈ text.toList, (if c = '#' then count.toList else [c]) = [c] := by
    intro c hc
    rw [if_neg]
    rintro rfl
    exact hsign hc
  rw [substitute, List.flatMap_congr hkeep, List.flatMap_singleton', String.ofList_toList]

/-- What the tables alone give for a count that has its own clause. -/
theorem format_direct_of_exact {f : PluralFormat} {x : Binary64}
    (h : f.clauses.get? (exactSelector x) = some text) (l : Locale) :
    f.format .direct l x = substitute text (formatDecimal .direct l x .standard) := by
  rw [format_of_exact .direct l h]
  cases hsign : text.contains '#' with
  | true => rfl
  | false => exact (substitute_of_no_sign hsign).symm

/-- Every finite count has a selector that is read whole. Among written clauses the last one with
this selector is shown for the count, for either kind of rules, in every locale and whatever was
loaded before, with the count in place of its number signs. -/
theorem format_exactly (s : Bool) (m : Magnitude) :
    Clause.isSelector .plural (exactSelector (.finite s m)) ∧
      ∀ (w : Clauses.Written .plural) (text : String),
        w.last? (exactSelector (.finite s m)) = some text →
        ∀ (kind : RuleKind) (l : Locale) (caches : FormatCaches),
          ((ofText (.ofList w.source) kind).format .cached l (.finite s m) caches).1 =
            substitute text (formatDecimal .direct l (.finite s m) .standard) := by
  constructor
  · have hselector := Clause.isSelector_ofList (isSelector_exactSelector s m)
    rwa [String.ofList_toList] at hselector
  · intro w text hlast kind l caches
    have hclause : (ofText (.ofList w.source) kind).clauses.get? (exactSelector (.finite s m)) =
        some text := (Clauses.get?_ofText_source w _).trans hlast
    have hdirect := format_direct_of_exact hclause l
    exact hdirect ▸ Correspondence.rel_plural access_cached_direct _ caches

/-- Two clauses for minus five halves, and one for its category. -/
def minusFiveHalves : Clauses.Written .plural where
  clauses :=
    [.exactly ⟨true, 25, 1, 1⟩ ['-'] (by decide), .exactly ⟨true, 25, 1, 1⟩ ['#', '!'] (by decide),
      ⟨[' '], by decide, _, .category .other, [], List.forall_mem_nil _, ['#'], by decide⟩]
  after := []
  isSeparator_after := List.forall_mem_nil _

/-- The later clause for exactly the count is shown, and neither the earlier one nor the one that
follows for its category. -/
theorem format_exactly_minus_five_halves : ∃ m : Magnitude,
    ofText? "-2.5" = some (.finite true m) ∧
      String.ofList minusFiveHalves.source = "=-2.5\x7b-\x7d=-2.5\x7b#!\x7d other\x7b#\x7d" ∧
      minusFiveHalves.last? (exactSelector (.finite true m)) = some "#!" ∧
      ((ofText (.ofList minusFiveHalves.source) .ordinal).format .cached (Locale.resolve ["de"])
        (.finite true m) {}).1 = "-2,5!" := by
  let m : Magnitude := ⟨5 * 2 ^ 1073, by decide +kernel, by decide +kernel⟩
  have hlast : minusFiveHalves.last? (exactSelector (.finite true m)) = some "#!" := by
    decide +kernel
  have hformat := (format_exactly true m).2 minusFiveHalves "#!" hlast .ordinal
    (Locale.resolve ["de"]) {}
  have hcount : substitute "#!"
      (formatDecimal .direct (Locale.resolve ["de"]) (.finite true m) .standard) = "-2,5!" := by
    decide +kernel
  exact ⟨m, by decide +kernel, by decide +kernel, hlast, hformat.trans hcount⟩

end PluralFormat
end Phrasebook
