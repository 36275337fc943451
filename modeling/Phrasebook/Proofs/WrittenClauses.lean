import Phrasebook.Clause
import Phrasebook.Proofs.Balance
import Phrasebook.Proofs.Entries
import Phrasebook.Proofs.Words

/-! Clauses as they can be written. Reading them back gives each selector the last text that was
written for it, whatever stands between the clauses. -/
namespace Phrasebook
open Text

namespace Clause
variable {kind : SelectorKind} {cs gap rest selector text : List Char} {c : Char} {p : Char → Bool}

/-- Decimal digits, at least one. -/
def IsDigits (cs : List Char) : Prop :=
  cs ≠ [] ∧ ∀ c ∈ cs, c.isDigit

/-- The ways to write a selector. -/
inductive IsSelector : SelectorKind → List Char → Prop where
  | word {w : List Char} (hw : isWord w) : IsSelector .select w
  | category (category : PluralCategory) : IsSelector .plural category.name.toList
  | exact {minus whole : List Char} (hm : minus = [] ∨ minus = ['-']) (hw : IsDigits whole) :
    IsSelector .plural ('=' :: minus ++ whole)
  | exactFraction {minus whole decimals : List Char} (hm : minus = [] ∨ minus = ['-'])
    (hw : IsDigits whole) (hd : IsDigits decimals) :
    IsSelector .plural ('=' :: minus ++ whole ++ '.' :: decimals)

/-- Text in which no clause starts and none ends: nothing of a selector, and no braces. -/
def IsSeparator (cs : List Char) : Prop :=
  ∀ c ∈ cs, isWordChar c = false ∧ c ≠ '=' ∧ c ≠ '{' ∧ c ≠ '}'

instance (cs : List Char) : Decidable (IsSeparator cs) :=
  List.decidableBAll _ cs

/-- A clause as it is written, with what stands in front of it. -/
structure Written (kind : SelectorKind) where
  before : List Char
  isSeparator_before : IsSeparator before
  selector : List Char
  isSelector_selector : IsSelector kind selector
  gap : List Char
  isBlank_gap : ∀ c ∈ gap, isBlank c
  text : List Char
  isBalanced_text : IsBalanced text

namespace Written

def source (w : Written kind) : List Char :=
  w.before ++ w.selector ++ w.gap ++ '{' :: w.text ++ ['}']

/-- What a clause says: its selector and its text. -/
def entry (w : Written kind) : String × String :=
  (.ofList w.selector, .ofList w.text)

end Written

/-- White space and then a brace end every class of characters that holds neither. -/
theorem startsOutside_gap (hp : ∀ c, isBlank c → p c = false) (hb : p '{' = false)
    (hg : ∀ c ∈ gap, isBlank c) : StartsOutside p (gap ++ '{' :: rest) := by
  cases gap with
  | nil => exact startsOutside_cons hb
  | cons c gap => exact startsOutside_cons (hp c (hg c List.mem_cons_self))

theorem isWordChar_eq_false_of_isBlank (h : isBlank c) : isWordChar c = false := by
  by_contra hw
  rw [Bool.not_eq_false] at hw
  rw [isBlank_eq_false_of_isWordChar hw] at h
  cases h

theorem isDigit_eq_false_of_isBlank (h : isBlank c) : c.isDigit = false := by
  have hw := isWordChar_eq_false_of_isBlank h
  simp only [isWordChar, Char.isAlphanum, Bool.or_eq_false_iff] at hw
  exact hw.1.2

/-- What follows a selector does not go on with it. -/
structure Ends (rest : List Char) : Prop where
  word : StartsOutside isWordChar rest
  digit : StartsOutside Char.isDigit rest
  point : StartsOutside (· == '.') rest

theorem ends_gap (hg : ∀ c ∈ gap, isBlank c) : Ends (gap ++ '{' :: rest) where
  word := startsOutside_gap (fun _ => isWordChar_eq_false_of_isBlank) (by decide) hg
  digit := startsOutside_gap (fun _ => isDigit_eq_false_of_isBlank) (by decide) hg
  point := by
    apply startsOutside_gap _ (by decide) hg
    intro c hc
    rw [beq_eq_false_iff_ne]
    rintro rfl
    exact absurd hc (by decide)

theorem digits?_append {digits : List Char} (hd : IsDigits digits)
    (hr : StartsOutside Char.isDigit rest) : digits? (digits ++ rest) = some (digits, rest) :=
  run?_eq_some_iff.mpr ⟨hd.1, hd.2, hr, rfl⟩

theorem sign_append_digits {minus digits : List Char} (hm : minus = [] ∨ minus = ['-'])
    (hd : IsDigits digits) : sign (minus ++ (digits ++ rest)) = (minus, digits ++ rest) := by
  obtain ⟨hne, hdigits⟩ := hd
  rcases hm with rfl | rfl
  · cases digits with
    | nil => exact absurd rfl hne
    | cons d digits =>
      have hminus : d ≠ '-' := by
        rintro rfl
        exact absurd (hdigits '-' List.mem_cons_self) (by decide)
      simp [sign, hminus]
  · rfl

theorem fraction_of_no_point (h : StartsOutside (· == '.') rest) : fraction rest = ([], rest) := by
  cases rest with
  | nil => rfl
  | cons c rest =>
    have hc : c ≠ '.' := by simpa using h c rfl
    simp [fraction, hc]

theorem selector?_plural_of_ne (h : StartsOutside (· == '=') cs) :
    selector? .plural cs = category? cs := by
  cases cs with
  | nil => rfl
  | cons c cs =>
    have hc : c ≠ '=' := by simpa using h c rfl
    simp [selector?, hc]

theorem isWord_category (category : PluralCategory) : isWord category.name.toList := by
  cases category <;> decide

theorem category?_append (category : PluralCategory) (h : StartsOutside isWordChar rest) :
    category? (category.name.toList ++ rest) = some (category.name.toList, rest) := by
  have hname : PluralCategory.ofName? category.name = some category := by
    cases category <;> decide
  have hw : word? (category.name.toList ++ rest) = some (category.name.toList, rest) :=
    word?_eq_some_iff.mpr ⟨isWord_category category, h, rfl⟩
  simp [category?, hw, hname]

/-- A selector is read whole. -/
theorem selector?_append (h : IsSelector kind selector) (hr : Ends rest) :
    selector? kind (selector ++ rest) = some (selector, rest) := by
  cases h with
  | word hw => exact word?_eq_some_iff.mpr ⟨hw, hr.word, rfl⟩
  | category category =>
    rw [selector?_plural_of_ne, category?_append category hr.word]
    cases category <;> exact startsOutside_cons (by decide)
  | @exact minus whole hm hw =>
    simp [selector?, exactCount?, sign_append_digits hm hw, digits?_append hw hr.digit,
      fraction_of_no_point hr.point]
  | @exactFraction minus whole decimals hm hw hd =>
    have hpoint : StartsOutside Char.isDigit ('.' :: (decimals ++ rest)) :=
      startsOutside_cons (by decide)
    simp [selector?, exactCount?, sign_append_digits hm hw, digits?_append hw hpoint, fraction,
      digits?_append hd hr.digit]

theorem group?_append (h : IsBalanced text) :
    group? ('{' :: (text ++ '}' :: rest)) = some (text, rest) := by
  simp [group?, balanced_append_close h]

theorem dropWhile_gap (hg : ∀ c ∈ gap, isBlank c) :
    (gap ++ '{' :: rest).dropWhile isBlank = '{' :: rest := by
  rw [List.dropWhile_append_of_pos hg]
  rfl

/-- A written clause is read, whatever follows it. -/
theorem read?_append (w : Written kind) (rest : List Char) :
    read? kind (w.selector ++ (w.gap ++ '{' :: (w.text ++ '}' :: rest))) = some (w.entry, rest) := by
  simp only [read?, selector?_append w.isSelector_selector (ends_gap w.isBlank_gap),
    dropWhile_gap w.isBlank_gap, group?_append w.isBalanced_text, Written.entry]

theorem read?_eq_none_of_separator (hw : isWordChar c = false) (he : c ≠ '=') :
    read? kind (c :: cs) = none := by
  have hword : word? (c :: cs) = none := by simp [word?, run?, hw]
  have hs : selector? kind (c :: cs) = none := by
    cases kind with
    | select => exact hword
    | plural =>
      rw [selector?_plural_of_ne (startsOutside_cons (by simpa using he)), category?, hword]
  simp only [read?, hs]

/-- Nothing between clauses is taken for one. -/
theorem readAll_separator (h : IsSeparator cs) : readAll kind (cs ++ rest) = readAll kind rest := by
  induction cs with
  | nil => rfl
  | cons c cs ih =>
    obtain ⟨hw, he, -⟩ := h c List.mem_cons_self
    rw [List.cons_append, readAll]
    split
    · rename_i hread
      rw [read?_eq_none_of_separator hw he] at hread
      cases hread
    · rw [if_neg (by simp [hw])]
      exact ih fun d hd => h d (List.mem_cons_of_mem c hd)

theorem readAll_of_read? {clause : String × String} (h : read? kind cs = some (clause, rest)) :
    readAll kind cs = clause :: readAll kind rest := by
  cases cs with
  | nil => cases kind <;> cases h
  | cons c cs =>
    rw [readAll]
    split
    · rename_i hread
      rw [h] at hread
      cases hread
      rfl
    · rename_i hread
      rw [h] at hread
      cases hread

/-- Written clauses are read one after the other. -/
theorem readAll_append (ws : List (Written kind)) (rest : List Char) :
    readAll kind (ws.flatMap Written.source ++ rest) =
      ws.map Written.entry ++ readAll kind rest := by
  induction ws with
  | nil => rfl
  | cons w ws ih =>
    have hsource : (w :: ws).flatMap Written.source ++ rest =
        w.before ++ (w.selector ++ (w.gap ++ '{' :: (w.text ++ '}' ::
          (ws.flatMap Written.source ++ rest)))) := by
      simp [Written.source]
    rw [hsource, readAll_separator w.isSeparator_before, readAll_of_read? (read?_append w _), ih]
    rfl

/-! Written clauses are balanced, as only their texts have braces. -/

theorem isSeparator_of_isBlank (h : ∀ c ∈ cs, isBlank c) : IsSeparator cs := by
  intro c hc
  have hb := h c hc
  refine ⟨isWordChar_eq_false_of_isBlank hb, ?_, ?_, ?_⟩ <;> rintro rfl <;>
    exact absurd hb (by decide)

/-- The characters of a number. -/
def isNumeral (c : Char) : Bool :=
  c.isDigit || c == '-' || c == '.'

theorem isNumeral_of_isDigits {digits : List Char} (hd : IsDigits digits) :
    ∀ c ∈ digits, isNumeral c := by
  intro c hc
  simp [isNumeral, hd.2 c hc]

theorem isNumeral_of_minus {minus : List Char} (hm : minus = [] ∨ minus = ['-']) :
    ∀ c ∈ minus, isNumeral c := by
  rcases hm with rfl | rfl
  · exact List.forall_mem_nil _
  · exact List.forall_mem_singleton.mpr rfl

/-- A selector is a word, or an equals sign and then a number. -/
theorem isWord_or_number (h : IsSelector kind selector) : isWord selector ∨
    kind = .plural ∧ ∃ number, selector = '=' :: number ∧ ∀ c ∈ number, isNumeral c := by
  cases h with
  | word hw => exact Or.inl hw
  | category category => exact Or.inl (isWord_category category)
  | exact hm hw =>
    exact Or.inr ⟨rfl, _, rfl,
      List.forall_mem_append.mpr ⟨isNumeral_of_minus hm, isNumeral_of_isDigits hw⟩⟩
  | @exactFraction minus whole decimals hm hw hd =>
    have hwhole : ∀ c ∈ minus ++ whole, isNumeral c :=
      List.forall_mem_append.mpr ⟨isNumeral_of_minus hm, isNumeral_of_isDigits hw⟩
    have hfraction : ∀ c ∈ '.' :: decimals, isNumeral c :=
      List.forall_mem_cons.mpr ⟨rfl, isNumeral_of_isDigits hd⟩
    exact Or.inr ⟨rfl, _, rfl, List.forall_mem_append.mpr ⟨hwhole, hfraction⟩⟩

theorem ne_brace_of_mem_selector (h : IsSelector kind selector) (hc : c ∈ selector) :
    c ≠ '{' ∧ c ≠ '}' := by
  rcases isWord_or_number h with hw | ⟨-, number, rfl, hnumber⟩
  · exact ne_brace_of_isWordChar ((isWord_iff.mp hw).2 c hc)
  · rcases List.mem_cons.mp hc with rfl | hc
    · decide
    · have hnumeral := hnumber c hc
      constructor <;> rintro rfl <;> exact absurd hnumeral (by decide)

theorem isBalanced_source (w : Written kind) : IsBalanced w.source := by
  have hbefore : IsBalanced w.before :=
    depthAfter_of_no_brace fun c hc => (w.isSeparator_before c hc).2.2
  have hselector : IsBalanced w.selector :=
    depthAfter_of_no_brace fun c hc => ne_brace_of_mem_selector w.isSelector_selector hc
  have hgap : IsBalanced w.gap :=
    depthAfter_of_no_brace fun c hc => (isSeparator_of_isBlank w.isBlank_gap c hc).2.2
  have hgroup : IsBalanced ('{' :: w.text ++ ['}']) := isBalanced_group w.isBalanced_text
  have h := isBalanced_append (isBalanced_append (isBalanced_append hbefore hselector) hgap) hgroup
  simpa [Written.source] using h

end Clause

namespace Clauses
variable {kind : SelectorKind}

/-- Clauses as they are written one after the other, with what stands behind the last one. -/
structure Written (kind : SelectorKind) where
  clauses : List (Clause.Written kind)
  after : List Char
  isSeparator_after : Clause.IsSeparator after

namespace Written

def source (w : Written kind) : List Char :=
  w.clauses.flatMap Clause.Written.source ++ w.after

/-- The text that was written last for a selector. -/
def last? (w : Written kind) (selector : String) : Option String :=
  (w.clauses.map Clause.Written.entry).reverse.lookup selector

end Written

theorem readAll_source (w : Written kind) :
    Clause.readAll kind w.source = w.clauses.map Clause.Written.entry := by
  have hafter : Clause.readAll kind w.after = [] := by
    have h : Clause.readAll kind (w.after ++ []) = Clause.readAll kind [] :=
      Clause.readAll_separator w.isSeparator_after
    rw [List.append_nil] at h
    rw [h, Clause.readAll]
  rw [Written.source, Clause.readAll_append, hafter, List.append_nil]

theorem get?_ofText_source (w : Written kind) (selector : String) :
    (ofText kind (.ofList w.source)).get? selector = w.last? selector := by
  rw [ofText, String.toList_ofList, readAll_source, Dictionary.get?_ofList, Written.last?]

/-- Clauses that were written are read back: every selector has its last text, there is nothing
else, and the selectors are in increasing order. -/
theorem ofText_source (w : Written kind) :
    (∀ selector, (ofText kind (.ofList w.source)).get? selector = w.last? selector) ∧
      (∀ selector text, (selector, text) ∈ (ofText kind (.ofList w.source)).entries ↔
        w.last? selector = some text) ∧
      (ofText kind (.ofList w.source)).entries.Pairwise (·.1 < ·.1) := by
  refine ⟨get?_ofText_source w, ?_, (ofText kind (.ofList w.source)).sorted⟩
  intro selector text
  rw [← Dictionary.get?_eq_some_iff, get?_ofText_source]

example : Clauses.ofText .plural "=0{none} | one {a {b}}=-1.5 {#}one\n{# item}." =
    .ofList [("=0", "none"), ("=-1.5", "#"), ("one", "# item")] := by
  decide +kernel

end Clauses
end Phrasebook
