import Mathlib.Data.List.TakeWhile
import Phrasebook.Text.Blank
import Phrasebook.Text.Word

/-! Runs of one class of characters, and that words and white space never meet in one. -/
namespace Phrasebook.Text
variable {p : Char → Bool} {cs run rest w : List Char} {c : Char}

/-- The text does not go on with a character of a class. -/
def StartsOutside (p : Char → Bool) (cs : List Char) : Prop :=
  ∀ c ∈ cs.head?, p c = false

theorem startsOutside_cons (h : p c = false) : StartsOutside p (c :: cs) := by
  simpa [StartsOutside] using h

theorem startsOutside_dropWhile : StartsOutside p (cs.dropWhile p) := by
  intro c hc
  have h := List.head?_dropWhile_not p cs
  rw [Option.mem_def] at hc
  simpa [hc] using h

/-- Items of one class, and what follows them. -/
theorem takeWhile_append_of_head? {α : Type} {p : α → Bool} {xs rest : List α}
    (hx : ∀ x ∈ xs, p x) (hrest : ∀ x ∈ rest.head?, p x = false) :
    (xs ++ rest).takeWhile p = xs ∧ (xs ++ rest).dropWhile p = rest := by
  cases rest with
  | nil => simpa using hx
  | cons x rest =>
    simp [List.takeWhile_append_of_pos hx, List.dropWhile_append_of_pos hx, hrest x rfl]

/-- A run is read to its end, and its end is where the class ends. -/
theorem run?_eq_some_iff :
    run? p cs = some (run, rest) ↔
      run ≠ [] ∧ (∀ c ∈ run, p c) ∧ StartsOutside p rest ∧ cs = run ++ rest := by
  constructor
  · intro h
    obtain ⟨hne, hrun, hrest⟩ := run?_eq_some h
    refine ⟨hne, ?_, ?_, (append_of_run? h).symm⟩
    · intro c hc
      rw [hrun] at hc
      exact List.mem_takeWhile_imp hc
    · rw [hrest]
      exact startsOutside_dropWhile
  · rintro ⟨hne, hp, hout, rfl⟩
    obtain ⟨htake, hdrop⟩ := takeWhile_append_of_head? hp hout
    simp [run?, htake, hdrop, hne]

theorem isWord_iff : isWord w ↔ w ≠ [] ∧ ∀ c ∈ w, isWordChar c := by
  simp [isWord]

theorem word?_eq_some_iff :
    word? cs = some (w, rest) ↔ isWord w ∧ StartsOutside isWordChar rest ∧ cs = w ++ rest := by
  rw [word?, run?_eq_some_iff, isWord_iff, and_assoc]

/-- The ranges of the digits, the capital and the small letters. -/
theorem range_of_isAlphanum (h : c.isAlphanum) :
    (48 ≤ c.toNat ∧ c.toNat ≤ 57) ∨ (65 ≤ c.toNat ∧ c.toNat ≤ 90) ∨
      (97 ≤ c.toNat ∧ c.toNat ≤ 122) := by
  rcases Bool.or_eq_true_iff.mp h with h | h
  · rcases Bool.or_eq_true_iff.mp h with h | h
    · right
      left
      exact of_decide_eq_true h
    · right
      right
      obtain ⟨hlow, hhigh⟩ := Bool.and_eq_true_iff.mp h
      exact ⟨of_decide_eq_true hlow, of_decide_eq_true hhigh⟩
  · left
    exact Char.isDigit_iff_toNat.mp h

theorem isBlank_eq_false_of_isWordChar (h : isWordChar c) : isBlank c = false := by
  rcases Bool.or_eq_true_iff.mp h with h | h
  · have hrange := range_of_isAlphanum h
    simp only [isBlank, Bool.or_eq_false_iff, Bool.and_eq_false_iff, decide_eq_false_iff_not,
      beq_eq_false_iff_ne]
    omega
  · rw [eq_of_beq h]
    decide

theorem ne_brace_of_isWordChar (h : isWordChar c) : c ≠ '{' ∧ c ≠ '}' := by
  constructor <;> rintro rfl <;> exact absurd h (by decide)

theorem startsOutside_isBlank_of_isWord (h : isWord w) : StartsOutside isBlank (w ++ rest) := by
  obtain ⟨hne, hw⟩ := isWord_iff.mp h
  cases w with
  | nil => exact absurd rfl hne
  | cons c w => exact startsOutside_cons (isBlank_eq_false_of_isWordChar (hw c List.mem_cons_self))

theorem isWordChar_of_isDigit (h : c.isDigit) : isWordChar c := by
  simp [isWordChar, Char.isAlphanum, h]

/-- There is no white space in the text. -/
def isSolid (s : String) : Bool :=
  s.toList.all fun c => !isBlank c

theorem isSolid_append (s t : String) : isSolid (s ++ t) = (isSolid s && isSolid t) := by
  rw [isSolid, String.toList_append, List.all_append]
  rfl

theorem trim_of_isSolid {s : String} (h : isSolid s) : trim s = s := by
  have hdrop : ∀ cs : List Char, (∀ c ∈ cs, c ∈ s.toList) → cs.dropWhile isBlank = cs := by
    intro cs hcs
    rw [List.dropWhile_eq_self_iff]
    intro hpos
    simpa using List.all_eq_true.mp h _ (hcs _ (List.getElem_mem hpos))
  rw [trim, trimBlanks, hdrop _ fun _ => id, hdrop _ fun _ => List.mem_reverse.mp,
    List.reverse_reverse, String.ofList_toList]

/-- White space around a text makes no difference to what is left of it. -/
theorem trimBlanks_append {a b : List Char} (cs : List Char) (ha : ∀ c ∈ a, isBlank c)
    (hb : ∀ c ∈ b, isBlank c) : trimBlanks (a ++ cs ++ b) = trimBlanks cs := by
  have hback : ∀ c ∈ b.reverse, isBlank c := fun c hc => hb c (List.mem_reverse.mp hc)
  rw [trimBlanks, trimBlanks, List.append_assoc, List.dropWhile_append_of_pos ha,
    List.dropWhile_append]
  split
  · rename_i hcs
    rw [List.isEmpty_iff] at hcs
    rw [hcs, List.dropWhile_eq_nil_iff.mpr hb]
  · rw [List.reverse_append, List.dropWhile_append_of_pos hback]

theorem trim_append {a b : String} (s : String) (ha : ∀ c ∈ a.toList, isBlank c)
    (hb : ∀ c ∈ b.toList, isBlank c) : trim (a ++ s ++ b) = trim s := by
  rw [trim, trim, String.toList_append, String.toList_append, trimBlanks_append _ ha hb]

end Phrasebook.Text
