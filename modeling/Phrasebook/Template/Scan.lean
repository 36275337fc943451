import Phrasebook.Template
import Phrasebook.Text.Blank
import Phrasebook.Text.Braces
import Phrasebook.Text.Word

/-! Reading templates. A `{` that starts no placeholder is literal text, so every text is a
template. -/
namespace Phrasebook
open Text

/-- The types whose format may be a list of clauses. -/
def clauseKinds : List String :=
  ["plural", "select", "selectordinal"]

namespace Placeholder

/-- The rest after a comma and at least one white-space character. -/
def separator? : List Char → Option (List Char)
  | ',' :: c :: cs => if isBlank c then some (cs.dropWhile isBlank) else none
  | _ => none

/-- Clauses at the front: balanced text with a group in it. -/
def clauseBody? (cs : List Char) : Option (List Char × List Char) :=
  if '{' ∈ (balanced cs).1 then some (balanced cs) else none

/-- The format after a type and a separator. A word counts as one where clauses are allowed only if
the placeholder ends after it. -/
def format? (kind : List Char) (cs : List Char) : Option (List Char × List Char) :=
  if String.ofList kind ∈ clauseKinds then
    match word? cs with
    | some (w, '}' :: rest) => some (w, '}' :: rest)
    | _ => clauseBody? cs
  else word? cs

/-- What a placeholder holds after its name: a type and a format, either of which may be missing. -/
def kindAndFormat (cs : List Char) : Option (List Char) × Option (List Char) × List Char :=
  match separator? cs >>= word? with
  | none => (none, none, cs)
  | some (kind, rest) =>
    match separator? rest >>= format? kind with
    | none => (some kind, none, rest)
    | some (format, rest) => (some kind, some format, rest)

/-- A placeholder at the front, and the rest. -/
def read? : List Char → Option (Placeholder × List Char)
  | '{' :: cs =>
    match word? cs with
    | none => none
    | some (name, afterName) =>
      match kindAndFormat afterName with
      | (kind, format, '}' :: rest) =>
        let source := '{' :: cs.take (cs.length - rest.length)
        some (⟨.ofList source, .ofList name, kind.map .ofList, format.map .ofList⟩, rest)
      | _ => none
  | _ => none

theorem suffix_of_separator? {cs rest : List Char} (h : separator? cs = some rest) :
    rest <:+ cs := by
  simp only [separator?] at h
  split at h
  · split at h
    · simp only [Option.some.injEq] at h
      exact h ▸ ((List.dropWhile_suffix _).trans (List.suffix_cons _ _)).trans (List.suffix_cons _ _)
    · simp at h
  · simp at h

theorem suffix_of_word? {cs w rest : List Char} (h : word? cs = some (w, rest)) : rest <:+ cs :=
  ⟨w, append_of_run? h⟩

theorem suffix_of_clauseBody? {cs body rest : List Char}
    (h : clauseBody? cs = some (body, rest)) : rest <:+ cs := by
  simp only [clauseBody?] at h
  split at h
  · exact ⟨(balanced cs).1, Option.some.inj h ▸ balanced_append cs⟩
  · simp at h

theorem suffix_of_format? {kind cs format rest : List Char}
    (h : format? kind cs = some (format, rest)) : rest <:+ cs := by
  simp only [format?] at h
  split at h
  · split at h
    · rename_i hw
      simp only [Option.some.injEq, Prod.mk.injEq] at h
      exact h.2 ▸ suffix_of_word? hw
    · exact suffix_of_clauseBody? h
  · exact suffix_of_word? h

theorem suffix_of_kindAndFormat (cs : List Char) : (kindAndFormat cs).2.2 <:+ cs := by
  simp only [kindAndFormat]
  split
  · exact List.suffix_refl _
  · rename_i kind rest hk
    obtain ⟨r, hr, hw⟩ := Option.bind_eq_some_iff.1 hk
    have h₁ := (suffix_of_word? hw).trans (suffix_of_separator? hr)
    split
    · exact h₁
    · rename_i hf
      obtain ⟨r', hr', hw'⟩ := Option.bind_eq_some_iff.1 hf
      exact ((suffix_of_format? hw').trans (suffix_of_separator? hr')).trans h₁

/-- A placeholder's source starts with a brace, and with the rest it makes up the text. -/
theorem source_of_read? {cs rest : List Char} {p : Placeholder}
    (h : read? cs = some (p, rest)) :
    p.source.toList ++ rest = cs ∧ p.source.toList ≠ [] := by
  simp only [read?] at h
  split at h
  · rename_i cs
    split at h
    · simp at h
    · rename_i name after hn
      split at h
      · rename_i kind format rest' hk
        simp only [Option.some.injEq, Prod.mk.injEq] at h
        obtain ⟨rfl, rfl⟩ := h
        have hs : rest' <:+ cs := by
          have := suffix_of_kindAndFormat after
          rw [hk] at this
          exact ((List.suffix_cons _ _).trans this).trans (suffix_of_word? hn)
        obtain ⟨l, rfl⟩ := hs
        simp
      · simp at h
  · simp at h

theorem length_lt_of_read? {cs rest : List Char} {p : Placeholder}
    (h : read? cs = some (p, rest)) : rest.length < cs.length := by
  have h₁ := congrArg List.length (source_of_read? h).1
  have h₂ := List.length_pos_iff.2 (source_of_read? h).2
  simp only [List.length_append] at h₁
  omega

end Placeholder

namespace Template

/-- Puts one character in front, joining it to a literal that stands there. -/
def consLiteral (c : Char) : List Segment → List Segment
  | .literal text :: segments => .literal (String.singleton c ++ text) :: segments
  | segments => .literal (String.singleton c) :: segments

/-- The segments of a text: at each position a placeholder, else one more literal character. -/
def scan : List Char → List Segment
  | [] => []
  | c :: cs =>
    match h : Placeholder.read? (c :: cs) with
    | some (p, rest) =>
      have := Placeholder.length_lt_of_read? h
      .placeholder p :: scan rest
    | none => consLiteral c (scan cs)
termination_by cs => cs.length
decreasing_by
  · exact this
  · exact Nat.lt_succ_self cs.length

/-- The template a text stands for. -/
def ofText (s : String) : Template :=
  ⟨scan s.toList⟩

end Template
end Phrasebook
