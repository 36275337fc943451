import Phrasebook.Dictionary
import Phrasebook.Plural.Category
import Phrasebook.Text.Blank
import Phrasebook.Text.Braces
import Phrasebook.Text.Word

/-! Clauses: `selector {text}` pairs, the format of plural and select placeholders. Whatever else
stands in such a format is skipped. -/
namespace Phrasebook
open Text

/-- The texts of a list of clauses, by selector. -/
abbrev Clauses := Dictionary String

/-- What may stand before the braces of a clause. -/
inductive SelectorKind where
  /-- A plural category, or an exact count such as `=0` or `=-1.5`. -/
  | plural
  /-- Any word. -/
  | select
deriving DecidableEq, Repr

namespace Clause

/-- A minus sign at the front, or nothing. -/
def sign : List Char → List Char × List Char
  | '-' :: cs => (['-'], cs)
  | cs => ([], cs)

/-- A decimal point and digits at the front, or nothing. -/
def fraction : List Char → List Char × List Char
  | '.' :: cs =>
    match digits? cs with
    | some (digits, rest) => ('.' :: digits, rest)
    | none => ([], '.' :: cs)
  | cs => ([], cs)

/-- The number after the `=` of an exact selector: digits, perhaps with a sign and a fraction. -/
def exactCount? (cs : List Char) : Option (List Char × List Char) :=
  match digits? (sign cs).2 with
  | none => none
  | some (digits, rest) => some ((sign cs).1 ++ digits ++ (fraction rest).1, (fraction rest).2)

/-- A plural category at the front, as a whole word. -/
def category? (cs : List Char) : Option (List Char × List Char) :=
  match word? cs with
  | none => none
  | some (w, rest) =>
    if (PluralCategory.ofName? (.ofList w)).isSome then some (w, rest) else none

/-- A selector at the front, and the rest. -/
def selector? : SelectorKind → List Char → Option (List Char × List Char)
  | .plural, '=' :: cs =>
    match exactCount? cs with
    | none => none
    | some (count, rest) => some ('=' :: count, rest)
  | .plural, cs => category? cs
  | .select, cs => word? cs

/-- A whole text that is a selector. -/
def isSelector (kind : SelectorKind) (s : String) : Bool :=
  selector? kind s.toList == some (s.toList, [])

/-- A clause at the front, and the rest. -/
def read? (kind : SelectorKind) (cs : List Char) : Option ((String × String) × List Char) :=
  match selector? kind cs with
  | none => none
  | some (selector, rest) =>
    match group? (rest.dropWhile isBlank) with
    | none => none
    | some (text, rest) => some ((.ofList selector, .ofList text), rest)

theorem sign_append (cs : List Char) : (sign cs).1 ++ (sign cs).2 = cs := by
  simp only [sign]
  split <;> rfl

theorem fraction_append (cs : List Char) : (fraction cs).1 ++ (fraction cs).2 = cs := by
  simp only [fraction]
  split
  · split
    · rename_i hd
      simp [append_of_run? hd]
    · rfl
  · rfl

theorem append_of_exactCount? {cs count rest : List Char}
    (h : exactCount? cs = some (count, rest)) : count ++ rest = cs := by
  simp only [exactCount?] at h
  split at h
  · simp at h
  · rename_i hd
    simp only [Option.some.injEq, Prod.mk.injEq] at h
    obtain ⟨rfl, rfl⟩ := h
    simp [fraction_append, append_of_run? hd, sign_append]

theorem append_of_selector? {kind : SelectorKind} {cs selector rest : List Char}
    (h : selector? kind cs = some (selector, rest)) : selector ++ rest = cs := by
  simp only [selector?] at h
  split at h
  · split at h
    · simp at h
    · rename_i hc
      simp only [Option.some.injEq, Prod.mk.injEq] at h
      obtain ⟨rfl, rfl⟩ := h
      simp [append_of_exactCount? hc]
  · simp only [category?] at h
    split at h
    · simp at h
    · rename_i hw
      split at h
      · simp only [Option.some.injEq, Prod.mk.injEq] at h
        exact h.1 ▸ h.2 ▸ append_of_run? hw
      · simp at h
  · exact append_of_run? h

theorem length_lt_of_read? {kind : SelectorKind} {cs rest : List Char} {clause : String × String}
    (h : read? kind cs = some (clause, rest)) : rest.length < cs.length := by
  simp only [read?] at h
  split at h
  · simp at h
  · rename_i after hs
    split at h
    · simp at h
    · rename_i hg
      simp only [Option.some.injEq, Prod.mk.injEq] at h
      have h₁ := congrArg List.length (append_of_selector? hs)
      have h₂ := h.2 ▸ length_lt_of_group? hg
      have h₃ := length_dropWhile_le isBlank after
      simp only [List.length_append] at h₁
      omega

/-- The clauses of a text from left to right. Where none starts, a whole word or else one character
is skipped. -/
def readAll (kind : SelectorKind) : List Char → List (String × String)
  | [] => []
  | c :: cs =>
    match h : read? kind (c :: cs) with
    | some (clause, rest) =>
      have := length_lt_of_read? h
      clause :: readAll kind rest
    | none => if isWordChar c then readAll kind (cs.dropWhile isWordChar) else readAll kind cs
termination_by cs => cs.length
decreasing_by
  · exact this
  · exact Nat.lt_succ_of_le (length_dropWhile_le isWordChar cs)
  · exact Nat.lt_succ_self cs.length

end Clause

namespace Clauses

/-- The clauses of a text, where a later clause replaces an earlier one with its selector. -/
def ofText (kind : SelectorKind) (body : String) : Clauses :=
  .ofList (Clause.readAll kind body.toList)

end Clauses
end Phrasebook
