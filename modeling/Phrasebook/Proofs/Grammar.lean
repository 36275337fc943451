import Phrasebook.Proofs.Balance
import Phrasebook.Proofs.Words
import Phrasebook.Template.Scan

/-! The grammar of placeholders. A placeholder is read from a text exactly when one of its
derivations is a prefix of the text, and there is never more than one such derivation. -/
namespace Phrasebook.Placeholder
open Text
variable {cs rest rest' word kind format : List Char} {p : Placeholder}

/-- White space between the parts of a placeholder. -/
def IsSpace (cs : List Char) : Prop :=
  cs ≠ [] ∧ ∀ c ∈ cs, isBlank c

/-- A format is a word. Where clauses are allowed it may also be balanced text with a group in it,
which is told from the white space before it. -/
def IsFormat (kind format : List Char) : Prop :=
  isWord format ∨
    String.ofList kind ∈ clauseKinds ∧ IsBalanced format ∧ '{' ∈ format ∧
      StartsOutside isBlank format

/-- The ways to write a placeholder. -/
inductive Derivation where
  | plain (name : List Char) (isWord_name : isWord name)
  | typed (name : List Char) (isWord_name : isWord name) (blanks : List Char)
    (isSpace_blanks : IsSpace blanks) (kind : List Char) (isWord_kind : isWord kind)
  | formatted (name : List Char) (isWord_name : isWord name) (blanks : List Char)
    (isSpace_blanks : IsSpace blanks) (kind : List Char) (isWord_kind : isWord kind)
    (gap : List Char) (isSpace_gap : IsSpace gap) (format : List Char)
    (isFormat_format : IsFormat kind format)

namespace Derivation

def name : Derivation → List Char
  | plain name _ | typed name .. | formatted name .. => name

def kind? : Derivation → Option (List Char)
  | plain .. => none
  | typed _ _ _ _ kind _ | formatted _ _ _ _ kind .. => some kind

def format? : Derivation → Option (List Char)
  | plain .. | typed .. => none
  | formatted _ _ _ _ _ _ _ _ format _ => some format

/-- What is written between the name and the closing brace. -/
def afterName : Derivation → List Char
  | plain .. => []
  | typed _ _ blanks _ kind _ => ',' :: blanks ++ kind
  | formatted _ _ blanks _ kind _ gap _ format _ => ',' :: blanks ++ kind ++ ',' :: gap ++ format

/-- The text of a derivation. -/
def text (d : Derivation) : List Char :=
  '{' :: d.name ++ d.afterName ++ ['}']

/-- The placeholder that is derived. -/
def placeholder (d : Derivation) : Placeholder :=
  ⟨.ofList d.text, .ofList d.name, d.kind?.map .ofList, d.format?.map .ofList⟩

theorem text_ne_nil (d : Derivation) : d.text ≠ [] := by
  simp [text]

theorem isWord_name (d : Derivation) : isWord d.name := by
  cases d <;> assumption

end Derivation

theorem separator?_eq_some_iff :
    separator? cs = some rest ↔
      ∃ blanks, IsSpace blanks ∧ StartsOutside isBlank rest ∧ cs = ',' :: blanks ++ rest := by
  constructor
  · intro h
    simp only [separator?] at h
    split at h
    · rename_i c cs
      split at h
      · rename_i hc
        rw [Option.some.injEq] at h
        subst h
        refine ⟨c :: cs.takeWhile isBlank, ⟨List.cons_ne_nil _ _, ?_⟩, startsOutside_dropWhile, ?_⟩
        · intro d hd
          obtain rfl | hd := List.mem_cons.mp hd
          · exact hc
          · exact List.mem_takeWhile_imp hd
        · simp [List.takeWhile_append_dropWhile]
      · simp at h
    · simp at h
  · rintro ⟨blanks, ⟨hne, hb⟩, hrest, rfl⟩
    have hrun := (run?_eq_some (run?_eq_some_iff.mpr ⟨hne, hb, hrest, rfl⟩)).2.2
    cases blanks with
    | nil => exact absurd rfl hne
    | cons c blanks =>
      have hc := hb c List.mem_cons_self
      simpa [separator?, hc] using hrun.symm

theorem separator?_close : separator? ('}' :: cs) = none := rfl

theorem startsOutside_close : StartsOutside isWordChar ('}' :: cs) :=
  startsOutside_cons (by decide)

theorem startsOutside_comma : StartsOutside isWordChar (',' :: cs) :=
  startsOutside_cons (by decide)

theorem not_isWord_of_brace (h : '{' ∈ cs) : ¬ isWord cs := by
  intro hw
  exact (ne_brace_of_isWordChar ((isWord_iff.mp hw).2 '{' h)).1 rfl

theorem isBalanced_of_isWord (h : isWord cs) : IsBalanced cs :=
  depthAfter_of_no_brace fun c hc => ne_brace_of_isWordChar ((isWord_iff.mp h).2 c hc)

theorem format?_of_isWord (h : isWord format) :
    format? kind (format ++ '}' :: rest) = some (format, '}' :: rest) := by
  have hw : word? (format ++ '}' :: rest) = some (format, '}' :: rest) :=
    word?_eq_some_iff.mpr ⟨h, startsOutside_close, rfl⟩
  rw [format?]
  split <;> simp [hw]

/-- No word in front of clauses is followed by the brace that closes them. -/
theorem format?_of_clauses (hk : String.ofList kind ∈ clauseKinds) (hb : IsBalanced format)
    (hg : '{' ∈ format) : format? kind (format ++ '}' :: rest) = some (format, '}' :: rest) := by
  have hbal : balanced (format ++ '}' :: rest) = (format, '}' :: rest) :=
    balanced_append_close hb
  rw [format?, if_pos hk]
  split
  · rename_i w after hw
    obtain ⟨hw, -, heq⟩ := word?_eq_some_iff.mp hw
    have hbal' : balanced (w ++ '}' :: after) = (w, '}' :: after) :=
      balanced_append_close (isBalanced_of_isWord hw)
    rw [← heq, hbal, Prod.mk.injEq] at hbal'
    rw [← hbal'.1] at hw
    exact (not_isWord_of_brace hg hw).elim
  · simp [clauseBody?, hbal, hg]

/-- A format that the closing brace follows is read whole. -/
theorem format?_append_close (h : IsFormat kind format) :
    format? kind (format ++ '}' :: rest) = some (format, '}' :: rest) := by
  obtain hw | ⟨hk, hb, hg, -⟩ := h
  · exact format?_of_isWord hw
  · exact format?_of_clauses hk hb hg

theorem startsOutside_isBlank_of_isFormat (h : IsFormat kind format) :
    StartsOutside isBlank (format ++ rest) := by
  obtain hw | ⟨-, -, hg, hs⟩ := h
  · exact startsOutside_isBlank_of_isWord hw
  · cases format with
    | nil => exact absurd hg List.not_mem_nil
    | cons c format => exact startsOutside_cons (hs c rfl)

theorem isFormat_of_format? (hs : StartsOutside isBlank cs)
    (h : format? kind cs = some (format, rest)) : IsFormat kind format ∧ cs = format ++ rest := by
  simp only [format?] at h
  split at h
  · rename_i hk
    split at h
    · rename_i w after hw
      rw [Option.some.injEq, Prod.mk.injEq] at h
      obtain ⟨rfl, rfl⟩ := h
      obtain ⟨hw, -, heq⟩ := word?_eq_some_iff.mp hw
      exact ⟨Or.inl hw, heq⟩
    · simp only [clauseBody?] at h
      split at h
      · rename_i hg
        rw [Option.some.injEq] at h
        have hcut := balanced_append cs
        have hb := isBalanced_balanced cs
        rw [h] at hcut hb hg
        refine ⟨Or.inr ⟨hk, hb, hg, ?_⟩, hcut.symm⟩
        cases format with
        | nil => exact absurd hg List.not_mem_nil
        | cons c format =>
          rw [← hcut] at hs
          exact startsOutside_cons (hs c rfl)
      · simp at h
  · obtain ⟨hw, -, heq⟩ := word?_eq_some_iff.mp h
    exact ⟨Or.inl hw, heq⟩

theorem Derivation.startsOutside_afterName (d : Derivation) :
    StartsOutside isWordChar (d.afterName ++ '}' :: rest) := by
  cases d with
  | plain => exact startsOutside_close
  | typed | formatted => exact startsOutside_comma

theorem Derivation.kindAndFormat_afterName (d : Derivation) :
    kindAndFormat (d.afterName ++ '}' :: rest) = (d.kind?, d.format?, '}' :: rest) := by
  cases d with
  | plain => rfl
  | typed name _ blanks hb kind hk =>
    have hs : separator? (',' :: (blanks ++ (kind ++ '}' :: rest))) = some (kind ++ '}' :: rest) :=
      separator?_eq_some_iff.mpr ⟨blanks, hb, startsOutside_isBlank_of_isWord hk, rfl⟩
    have hw : word? (kind ++ '}' :: rest) = some (kind, '}' :: rest) :=
      word?_eq_some_iff.mpr ⟨hk, startsOutside_close, rfl⟩
    simp [kindAndFormat, afterName, kind?, format?, hs, hw, separator?_close]
  | formatted name _ blanks hb kind hk gap hg format hf =>
    have hs : separator? (',' :: (blanks ++ (kind ++ ',' :: (gap ++ (format ++ '}' :: rest))))) =
        some (kind ++ ',' :: (gap ++ (format ++ '}' :: rest))) :=
      separator?_eq_some_iff.mpr ⟨blanks, hb, startsOutside_isBlank_of_isWord hk, rfl⟩
    have hw : word? (kind ++ ',' :: (gap ++ (format ++ '}' :: rest))) =
        some (kind, ',' :: (gap ++ (format ++ '}' :: rest))) :=
      word?_eq_some_iff.mpr ⟨hk, startsOutside_comma, rfl⟩
    have hs' : separator? (',' :: (gap ++ (format ++ '}' :: rest))) = some (format ++ '}' :: rest) :=
      separator?_eq_some_iff.mpr ⟨gap, hg, startsOutside_isBlank_of_isFormat hf, rfl⟩
    simp [kindAndFormat, afterName, kind?, format?, hs, hw, hs', format?_append_close hf]

theorem exists_derivation {kind? format? : Option (List Char)} (hword : isWord word)
    (h : kindAndFormat cs = (kind?, format?, '}' :: rest)) :
    ∃ d : Derivation, d.name = word ∧ d.kind? = kind? ∧ d.format? = format? ∧
      cs = d.afterName ++ '}' :: rest := by
  simp only [kindAndFormat] at h
  split at h
  · simp only [Prod.mk.injEq] at h
    obtain ⟨rfl, rfl, rfl⟩ := h
    exact ⟨.plain word hword, rfl, rfl, rfl, rfl⟩
  · rename_i kind after hk
    obtain ⟨afterComma, hs, hw⟩ := Option.bind_eq_some_iff.mp hk
    obtain ⟨blanks, hb, -, rfl⟩ := separator?_eq_some_iff.mp hs
    obtain ⟨hkind, -, rfl⟩ := word?_eq_some_iff.mp hw
    split at h
    · simp only [Prod.mk.injEq] at h
      obtain ⟨rfl, rfl, rfl⟩ := h
      exact ⟨.typed word hword blanks hb kind hkind, rfl, rfl, rfl, by simp [Derivation.afterName]⟩
    · rename_i format after' hboth
      obtain ⟨afterComma', hs', hf⟩ := Option.bind_eq_some_iff.mp hboth
      obtain ⟨gap, hg, hout, rfl⟩ := separator?_eq_some_iff.mp hs'
      obtain ⟨hformat, rfl⟩ := isFormat_of_format? hout hf
      simp only [Prod.mk.injEq] at h
      obtain ⟨rfl, rfl, rfl⟩ := h
      exact ⟨.formatted word hword blanks hb kind hkind gap hg format hformat, rfl, rfl, rfl,
        by simp [Derivation.afterName]⟩

theorem Derivation.text_append (d : Derivation) :
    d.text ++ rest = '{' :: (d.name ++ (d.afterName ++ '}' :: rest)) := by
  simp [text]

/-- The source of a placeholder is what stands before the rest. -/
theorem Derivation.take_eq_text (d : Derivation) (h : cs = d.name ++ (d.afterName ++ '}' :: rest)) :
    '{' :: cs.take (cs.length - rest.length) = d.text := by
  have hcs : cs = (d.name ++ d.afterName ++ ['}']) ++ rest := by simp [h]
  rw [hcs, List.length_append, Nat.add_sub_cancel, List.take_left]
  rfl

/-- What is derived is read, whatever follows it. -/
theorem Derivation.read?_text_append (d : Derivation) (rest : List Char) :
    read? (d.text ++ rest) = some (d.placeholder, rest) := by
  have hw : word? (d.name ++ (d.afterName ++ '}' :: rest)) =
      some (d.name, d.afterName ++ '}' :: rest) :=
    word?_eq_some_iff.mpr ⟨d.isWord_name, d.startsOutside_afterName, rfl⟩
  rw [d.text_append]
  simp only [read?]
  simp only [hw, d.kindAndFormat_afterName, d.take_eq_text rfl]
  rfl

theorem read?_eq_some_iff :
    read? cs = some (p, rest) ↔ ∃ d : Derivation, d.placeholder = p ∧ cs = d.text ++ rest := by
  constructor
  · intro h
    simp only [read?] at h
    split at h
    · rename_i cs
      split at h
      · simp at h
      · rename_i word after hw
        split at h
        · rename_i kind? format? rest' hk
          obtain ⟨hword, -, rfl⟩ := word?_eq_some_iff.mp hw
          obtain ⟨d, rfl, rfl, rfl, rfl⟩ := exists_derivation hword hk
          simp only [Option.some.injEq, Prod.mk.injEq] at h
          obtain ⟨rfl, rfl⟩ := h
          refine ⟨d, ?_, d.text_append.symm⟩
          rw [d.take_eq_text rfl]
          rfl
        · simp at h
    · simp at h
  · rintro ⟨d, rfl, rfl⟩
    exact d.read?_text_append rest

theorem space_append_inj {blanks blanks' : List Char} (hb : IsSpace blanks)
    (hb' : IsSpace blanks') (hr : StartsOutside isBlank rest) (hr' : StartsOutside isBlank rest')
    (h : blanks ++ rest = blanks' ++ rest') : blanks = blanks' ∧ rest = rest' := by
  have hrun := run?_eq_some_iff.mpr ⟨hb.1, hb.2, hr, rfl⟩
  have hrun' := run?_eq_some_iff.mpr ⟨hb'.1, hb'.2, hr', h⟩
  simpa [hrun] using hrun'

/-- A placeholder's source and fields leave no choice of the white space in it. -/
theorem Derivation.placeholder_injective : Function.Injective Derivation.placeholder := by
  intro d e h
  simp only [placeholder, Placeholder.mk.injEq, String.ofList_inj] at h
  obtain ⟨htext, hname, hkind, hformat⟩ := h
  replace hkind := Option.map_injective (fun _ _ => String.ofList_injective) hkind
  replace hformat := Option.map_injective (fun _ _ => String.ofList_injective) hformat
  have hafter : d.afterName = e.afterName := by simpa [text, hname] using htext
  cases d with
  | plain word =>
    cases e with
    | plain => simpa [name] using hname
    | typed | formatted => simp [kind?] at hkind
  | typed word _ blanks hb kind hk =>
    cases e with
    | plain => simp [kind?] at hkind
    | typed =>
      simp only [name, kind?, Option.some.injEq] at hname hkind
      subst hname hkind
      simpa [afterName] using hafter
    | formatted => simp [format?] at hformat
  | formatted word _ blanks hb kind hk gap hg format hf =>
    cases e with
    | plain => simp [kind?] at hkind
    | typed => simp [format?] at hformat
    | formatted word' _ blanks' hb' kind' hk' gap' hg' format' hf' =>
      simp only [name, kind?, format?, Option.some.injEq] at hname hkind hformat
      subst hname hkind hformat
      have hsplit : blanks ++ (kind ++ ',' :: (gap ++ format)) =
          blanks' ++ (kind ++ ',' :: (gap' ++ format)) := by simpa [afterName] using hafter
      obtain ⟨rfl, htail⟩ := space_append_inj hb hb' (startsOutside_isBlank_of_isWord hk)
        (startsOutside_isBlank_of_isWord hk) hsplit
      simpa using htail

/-- A text starts with at most one derivation. -/
theorem Derivation.eq_of_text_append {d e : Derivation} (h : d.text ++ rest = e.text ++ rest') :
    d = e := by
  have hd := d.read?_text_append rest
  rw [h, e.read?_text_append, Option.some.injEq, Prod.mk.injEq] at hd
  exact placeholder_injective hd.1.symm

end Phrasebook.Placeholder
