/-! Runs of characters of one class at the front of a text, and words: runs of ASCII letters, digits
and underscores. -/
namespace Phrasebook.Text
variable {p : Char → Bool} {cs run rest : List Char}

/-- The longest run of characters of a class at the front, if there is one, and the rest. -/
def run? (p : Char → Bool) (cs : List Char) : Option (List Char × List Char) :=
  if (cs.takeWhile p).isEmpty then none else some (cs.takeWhile p, cs.dropWhile p)

/-- A character that a word may hold. -/
def isWordChar (c : Char) : Bool :=
  c.isAlphanum || c == '_'

/-- A word at the front, and the rest. -/
def word? (cs : List Char) : Option (List Char × List Char) :=
  run? isWordChar cs

/-- ASCII digits at the front, and the rest. -/
def digits? (cs : List Char) : Option (List Char × List Char) :=
  run? Char.isDigit cs

/-- A whole text that is a word. -/
def isWord (cs : List Char) : Bool :=
  !cs.isEmpty && cs.all isWordChar

theorem run?_eq_some (h : run? p cs = some (run, rest)) :
    run ≠ [] ∧ run = cs.takeWhile p ∧ rest = cs.dropWhile p := by
  simp only [run?] at h
  split at h
  · simp at h
  · rename_i hne
    simp only [Option.some.injEq, Prod.mk.injEq] at h
    exact ⟨fun he => hne (by simp [h.1, he]), h.1.symm, h.2.symm⟩

theorem append_of_run? (h : run? p cs = some (run, rest)) : run ++ rest = cs := by
  obtain ⟨-, rfl, rfl⟩ := run?_eq_some h
  exact List.takeWhile_append_dropWhile

theorem length_dropWhile_le {α : Type} (p : α → Bool) (l : List α) :
    (l.dropWhile p).length ≤ l.length :=
  (List.dropWhile_suffix p).length_le

end Phrasebook.Text
