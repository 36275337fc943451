import Phrasebook.Proofs.Meaning

/-! The types that take clauses are the same where templates are scanned and where formatters are
made: clauses are scanned only for types whose formatters take any text, so that a placeholder is
faulty only if its format is missing or a word. -/
namespace Phrasebook
open Text
variable {kind body : String} {format : Option String} {e : PlaceholderError}

/-- The format that an error is about, if there is one. -/
def PlaceholderError.format? : PlaceholderError → Option String
  | unsupportedType _ format => format
  | unknownNumberFormat format | unknownDateFormat format => some format

namespace Formatter

/-- The formatter chooses one of the texts of its clauses. -/
def takesClauses : Formatter → Bool
  | plural _ | select _ => true
  | _ => false

/-- Any text will do as the clauses of a type that takes some. -/
theorem ofFormat_of_clauseKinds (hk : kind ∈ clauseKinds) (body : String) :
    ∃ f, ofFormat kind (some body) = .ok f ∧ f.takesClauses := by
  simp only [clauseKinds, List.mem_cons, List.not_mem_nil, or_false] at hk
  rcases hk with rfl | rfl | rfl
  · exact ⟨plural (.ofText body .cardinal), rfl, rfl⟩
  · exact ⟨select (.ofText body), rfl, rfl⟩
  · exact ⟨plural (.ofText body .ordinal), rfl, rfl⟩

theorem ofFormat_none_of_clauseKinds (hk : kind ∈ clauseKinds) :
    ofFormat kind none = .error (.unsupportedType kind none) := by
  simp only [clauseKinds, List.mem_cons, List.not_mem_nil, or_false] at hk
  rcases hk with rfl | rfl | rfl <;> rfl

end Formatter

/-! Every error is about the format that was given. The types that have a default format never fail
for want of one. -/

theorem NumberFormat.format?_of_ofText (h : ofText format = .error e) : e.format? = format := by
  cases format with
  | none => cases h
  | some f =>
    rw [eq_of_ofText_eq_error h]
    rfl

theorem DateFormat.format?_of_ofText (h : ofText format = .error e) : e.format? = format := by
  cases format with
  | none => cases h
  | some f =>
    simp only [ofText, Option.getD_some] at h
    repeat' split at h
    all_goals cases h <;> rfl

theorem TimeFormat.format?_of_ofText (h : ofText format = .error e) : e.format? = format := by
  cases format with
  | none => cases h
  | some f =>
    simp only [ofText, Option.getD_some] at h
    repeat' split at h
    all_goals cases h <;> rfl

theorem error_of_map_eq_error {ε α β : Type} {f : α → β} {x : Except ε α} {e : ε}
    (h : f <$> x = .error e) : x = .error e := by
  cases x with
  | error e' =>
    cases h
    rfl
  | ok a => cases h

/-- One case for each type that there is, and one for a name that is none. -/
theorem Formatter.format?_of_ofFormat (h : ofFormat kind format = .error e) :
    e.format? = format := by
  simp only [ofFormat] at h
  cases hkind : ArgumentType.ofName? kind with
  | none =>
    rw [hkind] at h
    cases h
    rfl
  | some type =>
    rw [hkind] at h
    cases type with
    | text => cases h
    | date => exact DateFormat.format?_of_ofText (error_of_map_eq_error h)
    | time => exact TimeFormat.format?_of_ofText (error_of_map_eq_error h)
    | number => exact NumberFormat.format?_of_ofText (error_of_map_eq_error h)
    | plural | selectOrdinal | select =>
      cases format with
      | none =>
        cases h
        rfl
      | some body => cases h

namespace Placeholder
variable {s : String} {p : Placeholder} {f : String}

/-- Only types that take clauses have formats that are no words. -/
theorem mem_clauseKinds_of_not_isWord (hp : p ∈ (Template.ofText s).placeholders)
    (hf : p.format = some f) (hw : ¬ isWord f.toList) : p.kindName ∈ clauseKinds := by
  obtain ⟨segment, hsegment, hsome⟩ := List.mem_filterMap.mp hp
  cases segment with
  | literal text => cases hsome
  | placeholder q =>
    cases hsome
    obtain ⟨d, rfl, -⟩ := Template.exists_derivation_of_mem_scan hsegment
    cases d with
    | plain | typed => cases hf
    | formatted name _ blanks _ kind _ gap _ format hformat =>
      cases hf
      rcases hformat with hword | ⟨hkind, -⟩
      · rw [String.toList_ofList] at hw
        exact absurd hword hw
      · exact hkind

/-- A format that is no word is a list of clauses, which a formatter takes. -/
theorem formatter_of_not_isWord (hp : p ∈ (Template.ofText s).placeholders)
    (hf : p.format = some f) (hw : ¬ isWord f.toList) :
    ∃ g, p.formatter = .ok g ∧ g.takesClauses := by
  rw [formatter, hf]
  exact Formatter.ofFormat_of_clauseKinds (mem_clauseKinds_of_not_isWord hp hf hw) f

/-- A type that takes clauses has a formatter just if it is given some. -/
theorem formatter_iff_of_clauseKinds (hk : p.kindName ∈ clauseKinds) :
    (∃ g, p.formatter = .ok g) ↔ p.format.isSome := by
  cases hf : p.format with
  | none =>
    rw [formatter, hf, Formatter.ofFormat_none_of_clauseKinds hk]
    simp
  | some body =>
    obtain ⟨g, hg, -⟩ := Formatter.ofFormat_of_clauseKinds hk body
    rw [formatter, hf, hg]
    simp

/-- What is wrong with a placeholder is told with its format. -/
theorem isWord_of_formatter_error (hp : p ∈ (Template.ofText s).placeholders)
    (he : p.formatter = .error e) (hf : e.format? = some f) : isWord f.toList := by
  by_contra hw
  have hformat : p.format = some f := (Formatter.format?_of_ofFormat he).symm.trans hf
  obtain ⟨g, hg, -⟩ := formatter_of_not_isWord hp hformat hw
  rw [hg] at he
  cases he

end Placeholder

/-- Whatever the template, clauses are only found where a formatter takes them: a placeholder with a
format that is no word has a formatter that chooses among clauses, and a placeholder of a type that
takes clauses has a formatter just if it has a format. So no message fails for anything but a type,
with no format or a word. -/
theorem Template.formatter_by_clauses (s : String) :
    (∀ p ∈ (ofText s).placeholders,
      (∀ f, p.format = some f → ¬ isWord f.toList → ∃ g, p.formatter = .ok g ∧ g.takesClauses) ∧
      ∀ kind ∈ ["plural", "select", "selectordinal"], p.kind = some kind →
        ((∃ g, p.formatter = .ok g) ↔ p.format.isSome)) ∧
    ∀ e, Message.ofText? s = .error e → ∀ f, e.format? = some f → isWord f.toList := by
  refine ⟨fun p hp => ⟨?_, ?_⟩, ?_⟩
  · intro f hf hw
    exact Placeholder.formatter_of_not_isWord hp hf hw
  · intro kind hkind hp
    apply Placeholder.formatter_iff_of_clauseKinds
    rw [Placeholder.kindName, hp]
    exact hkind
  · intro e he f hf
    obtain ⟨p, hp, hfault⟩ :=
      List.exists_of_findSome?_eq_some (Message.ofText?_eq_error_iff.mp he)
    exact Placeholder.isWord_of_formatter_error hp (Placeholder.fault?_eq_some_iff.mp hfault) hf

/-- Clauses with a group inside, a type without the clauses it needs, and an unknown format. -/
theorem Template.formatter_by_clauses_nested :
    let nested := "{n, plural, one {a {b}}} {k, select}"
    let odd := "{n, number, odd}"
    (∃ p ∈ (ofText nested).placeholders, p.format = some "one {a {b}}" ∧
      ¬ isWord "one {a {b}}".toList ∧ ∃ g, p.formatter = .ok g ∧ g.takesClauses) ∧
    (∃ p ∈ (ofText nested).placeholders, p.kind = some "select" ∧ p.format = none ∧
      ¬∃ g, p.formatter = .ok g) ∧
    ∃ e, Message.ofText? odd = .error e ∧ e.format? = some "odd" ∧ isWord "odd".toList := by
  intro nested odd
  have hplaceholders : (ofText nested).placeholders =
      [⟨"{n, plural, one {a {b}}}", "n", some "plural", some "one {a {b}}"⟩,
        ⟨"{k, select}", "k", some "select", none⟩] := by decide +kernel
  have herror : Message.ofText? odd = .error (.unknownNumberFormat "odd") := by decide +kernel
  have hgroup : ¬ isWord "one {a {b}}".toList := by decide
  obtain ⟨hnested, -⟩ := formatter_by_clauses nested
  rw [hplaceholders] at hnested ⊢
  obtain ⟨hplural, hrest⟩ := List.forall_mem_cons.mp hnested
  obtain ⟨hselect, -⟩ := List.forall_mem_cons.mp hrest
  refine ⟨⟨_, List.mem_cons_self, rfl, hgroup, hplural.1 _ rfl hgroup⟩,
    ⟨_, List.mem_cons_of_mem _ List.mem_cons_self, rfl, rfl, ?_⟩, _, herror, rfl, ?_⟩
  · rw [hselect.2 "select" (by decide) rfl]
    exact Bool.false_ne_true
  · exact (formatter_by_clauses odd).2 _ herror "odd" rfl

end Phrasebook
