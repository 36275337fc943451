import Phrasebook.Format.Number
import Phrasebook.Proofs.DecimalText
import Phrasebook.Proofs.Subtags
import Phrasebook.Proofs.WrittenClauses

/-! The texts that stand for formats of numbers. There are five kinds of them, and no text is of two
kinds. So it makes no difference which kind a text is tried for first. -/
namespace Phrasebook
open Clause (IsDigits)

namespace Currency
variable {s : String} {c : Currency}

theorem code_injective : Function.Injective code := by
  have hnodup : (all.map code).Nodup := by decide
  intro c c' h
  exact List.inj_on_of_nodup_map hnodup c.mem_all c'.mem_all h

theorem toUpper_code (c : Currency) : c.code.toUpper = c.code := by
  have hall : ∀ c ∈ all, c.code.toUpper = c.code := by decide +kernel
  exact hall c c.mem_all

/-- Codes are read without regard to the case of ASCII letters. -/
theorem ofCode?_eq_some_iff : ofCode? s = some c ↔ s.toLower = c.code.toLower := by
  constructor
  · intro h
    have hcode : c.code = s.toUpper := by simpa using List.find?_some h
    rw [hcode, toLower_toUpper]
  · intro h
    have hcode : c.code = s.toUpper := by
      rw [← toUpper_toLower, h, toUpper_toLower, toUpper_code]
    cases hfound : ofCode? s with
    | none => exact absurd hcode (by simpa using List.find?_eq_none.mp hfound c c.mem_all)
    | some c' =>
      have hcode' : c'.code = s.toUpper := by simpa using List.find?_some hfound
      rw [code_injective (hcode'.trans hcode.symm)]

/-- No code is a number. -/
theorem not_isDigits_of_ofCode? (h : ofCode? s = some c) : ¬ IsDigits s.toList := by
  rintro ⟨-, hdigits⟩
  have hall : ∀ c ∈ all, c.code.toLower.toList.any (!Char.isDigit ·) := by decide +kernel
  obtain ⟨d, hd, hdigit⟩ := List.any_eq_true.mp (hall c c.mem_all)
  rw [← ofCode?_eq_some_iff.mp h, toList_toLower] at hd
  obtain ⟨e, he, rfl⟩ := List.mem_map.mp hd
  rw [isDigit_toLower, hdigits e he] at hdigit
  cases hdigit

end Currency

namespace NumberFormat
variable {f : String} {format : NumberFormat} {n : ℕ} {cs : List Char}

/-- The formats that texts stand for: digits ask for as many places, letters are the code of a
currency in upper or lower case, and two names are those of presets. -/
inductive Denotes : String → NumberFormat → Prop
  | standard : Denotes "" (.decimal .standard)
  | places {f : String} {n : ℕ} (hdigits : IsDigits f.toList)
      (hn : Nat.ofDigitChars 10 f.toList 0 = n) (hle : n ≤ 20) : Denotes f (.decimal ⟨n, n⟩)
  | code {f : String} {c : Currency} (hf : f.toLower = c.code.toLower) :
      Denotes f (.currency (.named c))
  | currency : Denotes "currency" (.currency .ofLocale)
  | percent : Denotes "percent" .percent

/-! What a format is read as, one lemma for each kind. -/

theorem ofText_of_isDigits (h : IsDigits f.toList) : ofText (some f) =
    if Nat.ofDigitChars 10 f.toList 0 ≤ maxPlaces then
      .ok (.decimal (.exactly (Nat.ofDigitChars 10 f.toList 0)))
    else .error (.unknownNumberFormat f) := by
  obtain ⟨hne, hdigits⟩ := h
  have hf : f ≠ "" := by
    rintro rfl
    exact hne rfl
  simp only [ofText, Option.getD_some]
  rw [if_neg hf, if_pos (List.all_eq_true.mpr hdigits), Binary64.digitsValue_eq]

theorem not_all_isDigit (hne : f ≠ "") (h : ¬ IsDigits f.toList) :
    ¬ f.toList.all Char.isDigit := by
  intro hall
  exact h ⟨by simpa using hne, List.all_eq_true.mp hall⟩

theorem ofText_of_ofCode? {c : Currency} (h : Currency.ofCode? f = some c) :
    ofText (some f) = .ok (.currency (.named c)) := by
  have hne : f ≠ "" := by
    rintro rfl
    rw [show Currency.ofCode? "" = none by decide +kernel] at h
    cases h
  have hdigits := not_all_isDigit hne (Currency.not_isDigits_of_ofCode? h)
  simp only [ofText, Option.getD_some]
  rw [if_neg hne, if_neg hdigits, h]

/-- Text of none of the first three kinds is the name of a preset, or nothing. -/
theorem ofText_of_no_code (hne : f ≠ "") (h : ¬ IsDigits f.toList)
    (hcode : Currency.ofCode? f = none) : ofText (some f) =
    if f = "currency" then .ok (.currency .ofLocale)
    else if f = "percent" then .ok .percent
    else .error (.unknownNumberFormat f) := by
  have hdigits := not_all_isDigit hne h
  simp only [ofText, Option.getD_some]
  rw [if_neg hne, if_neg hdigits, hcode]

/-! Numbers of places are kept in 16 bits with a sign. A number that is too large is given up while
its digits are read, and so is never taken for a smaller one. -/

/-- The number, if it fits. -/
def int16? (n : ℕ) : Option ℕ :=
  if n < 2 ^ 15 then some n else none

/-- One more digit behind a number. -/
def pushDigit? (n : ℕ) (c : Char) : Option ℕ := do
  let tens ← int16? (10 * n)
  int16? (tens + (c.toNat - '0'.toNat))

theorem pushDigit?_eq (n : ℕ) (c : Char) :
    pushDigit? n c = int16? (10 * n + (c.toNat - '0'.toNat)) := by
  rw [pushDigit?]
  by_cases h : 10 * n < 2 ^ 15
  · rw [int16?, if_pos h]
    rfl
  · rw [int16?, if_neg h, int16?, if_neg (by omega)]
    rfl

/-- What is too large stays so with every further digit. -/
theorem foldlM_pushDigit? (hn : n < 2 ^ 15) :
    cs.foldlM pushDigit? n = int16? (Nat.ofDigitChars 10 cs n) := by
  induction cs generalizing n with
  | nil => exact (if_pos hn).symm
  | cons c cs ih =>
    rw [List.foldlM_cons, Nat.ofDigitChars_cons, pushDigit?_eq]
    obtain ⟨next, hnext⟩ : ∃ next, 10 * n + (c.toNat - '0'.toNat) = next := ⟨_, rfl⟩
    rw [hnext]
    by_cases h : next < 2 ^ 15
    · rw [int16?, if_pos h]
      exact ih h
    · have hle : next ≤ Nat.ofDigitChars 10 cs next := by
        rw [Nat.ofDigitChars_eq_ofDigitChars_zero]
        exact Nat.le_add_right_of_le (Nat.le_mul_of_pos_left next (by positivity))
      rw [int16?, if_neg h, int16?, if_neg (by omega)]
      rfl

instance (cs : List Char) : Decidable (IsDigits cs) :=
  decidable_of_iff (!cs.isEmpty && cs.all Char.isDigit) (by simp [IsDigits])

/-- Reads digits as a number of places. -/
def readPlaces (f : String) : Except PlaceholderError NumberFormat :=
  match f.toList.foldlM pushDigit? 0 with
  | some n =>
    if n ≤ maxPlaces then .ok (.decimal (.exactly n)) else .error (.unknownNumberFormat f)
  | none => .error (.unknownNumberFormat f)

theorem readPlaces_eq (h : IsDigits f.toList) : readPlaces f = ofText (some f) := by
  rw [readPlaces, foldlM_pushDigit? (by decide), ofText_of_isDigits h, int16?]
  obtain ⟨n, hn⟩ : ∃ n, Nat.ofDigitChars 10 f.toList 0 = n := ⟨_, rfl⟩
  rw [hn]
  by_cases hfits : n < 2 ^ 15
  · rw [if_pos hfits]
  · have hlarge : ¬ n ≤ maxPlaces := by
      rw [maxPlaces]
      omega
    rw [if_neg hfits, if_neg hlarge]

/-- Reads texts of one kind, and leaves others alone. -/
abbrev Trial : Type :=
  String → Option (Except PlaceholderError NumberFormat)

namespace Trial
variable {t : Trial} {s : String} {r : Except PlaceholderError NumberFormat}

def name (s : String) (format : NumberFormat) : Trial := fun f =>
  if f = s then some (.ok format) else none

def places : Trial := fun f =>
  if IsDigits f.toList then some (readPlaces f) else none

def code : Trial := fun f =>
  (Currency.ofCode? f).map fun c => .ok (.currency (.named c))

/-- One trial for each kind of text. -/
def all : List Trial :=
  [name "" (.decimal .standard), places, code, name "currency" (.currency .ofLocale),
    name "percent" .percent]

/-- A name that a trial leaves alone parts the two kinds. -/
theorem name_or (h : t s = none) : name s format f = none ∨ t f = none := by
  by_cases hf : f = s
  · subst f
    exact Or.inr h
  · exact Or.inl (if_neg hf)

theorem places_eq_none (h : ¬ IsDigits f.toList) : places f = none :=
  if_neg h

theorem code_eq_none (h : Currency.ofCode? f = none) : code f = none := by
  rw [code, h]
  rfl

theorem places_or_code (f : String) : places f = none ∨ code f = none := by
  cases hcode : Currency.ofCode? f with
  | none => exact Or.inr (code_eq_none hcode)
  | some c => exact Or.inl (places_eq_none (Currency.not_isDigits_of_ofCode? hcode))

/-- No text is of two kinds. -/
theorem pairwise_all (f : String) : all.Pairwise fun t u => t f = none ∨ u f = none := by
  have hplaces : ∀ s ∈ ["", "currency", "percent"], ¬ IsDigits s.toList := by decide
  have hcode : ∀ s ∈ ["", "currency", "percent"], Currency.ofCode? s = none := by decide +kernel
  simp only [List.forall_mem_cons] at hplaces hcode
  obtain ⟨hplaces₀, hplaces₁, hplaces₂, -⟩ := hplaces
  obtain ⟨hcode₀, hcode₁, hcode₂, -⟩ := hcode
  have hnil : ∀ t : Trial, ∀ u ∈ ([] : List Trial), t f = none ∨ u f = none :=
    fun _ => List.forall_mem_nil _
  simp only [all, List.pairwise_cons, List.forall_mem_cons, List.Pairwise.nil, and_true]
  refine ⟨⟨?_, ?_, ?_, ?_, hnil _⟩, ⟨?_, ?_, ?_, hnil _⟩, ⟨?_, ?_, hnil _⟩, ⟨?_, hnil _⟩, hnil _⟩
  · exact name_or (places_eq_none hplaces₀)
  · exact name_or (code_eq_none hcode₀)
  · exact name_or rfl
  · exact name_or rfl
  · exact places_or_code f
  · exact (name_or (places_eq_none hplaces₁)).symm
  · exact (name_or (places_eq_none hplaces₂)).symm
  · exact (name_or (code_eq_none hcode₁)).symm
  · exact (name_or (code_eq_none hcode₂)).symm
  · exact name_or rfl

theorem eq_ofText_of_name (hs : ofText (some s) = .ok format)
    (h : name s format f = some r) : r = ofText (some f) := by
  rw [name, Option.ite_none_right_eq_some] at h
  obtain ⟨rfl, hr⟩ := h
  rw [hs, ← Option.some.inj hr]

/-- Whichever trial reads a text, it reads the format that the text is. -/
theorem eq_ofText (ht : t ∈ all) (h : t f = some r) : r = ofText (some f) := by
  simp only [all, List.mem_cons, List.not_mem_nil, or_false] at ht
  rcases ht with rfl | rfl | rfl | rfl | rfl
  · exact eq_ofText_of_name rfl h
  · rw [places, Option.ite_none_right_eq_some] at h
    rw [← readPlaces_eq h.1, Option.some.inj h.2]
  · obtain ⟨c, hc, rfl⟩ := Option.map_eq_some_iff.mp h
    exact (ofText_of_ofCode? hc).symm
  · exact eq_ofText_of_name (by decide +kernel) h
  · exact eq_ofText_of_name (by decide +kernel) h

/-- Text that no trial reads is no format. -/
theorem ofText_of_forall_eq_none (h : ∀ t ∈ all, t f = none) :
    ofText (some f) = .error (.unknownNumberFormat f) := by
  simp only [all, List.forall_mem_cons, name, places, code, ite_eq_right_iff,
    Option.map_eq_none_iff, reduceCtorEq, imp_false] at h
  obtain ⟨hempty, hdigits, hcode, hcurrency, hpercent, -⟩ := h
  rw [ofText_of_no_code hempty hdigits hcode, if_neg hcurrency, if_neg hpercent]

theorem findSome?_of_perm {order : List Trial} (h : order.Perm all) (f : String) :
    (order.findSome? (· f)).getD (.error (.unknownNumberFormat f)) = ofText (some f) := by
  cases hfound : order.findSome? (· f) with
  | some r =>
    obtain ⟨t, ht, hr⟩ := List.exists_of_findSome?_eq_some hfound
    exact eq_ofText (h.subset ht) hr
  | none =>
    have hnone := List.findSome?_eq_none_iff.mp hfound
    exact (ofText_of_forall_eq_none fun t ht => hnone t (h.symm.subset ht)).symm

end Trial

theorem Denotes.ofText_eq (h : Denotes f format) : ofText (some f) = .ok format := by
  cases h with
  | standard => rfl
  | places hdigits hn hle =>
    rw [ofText_of_isDigits hdigits, hn]
    exact if_pos hle
  | code hf => exact ofText_of_ofCode? (Currency.ofCode?_eq_some_iff.mpr hf)
  | currency | percent => decide +kernel

theorem denotes_of_ofText (h : ofText (some f) = .ok format) : Denotes f format := by
  by_cases hempty : f = ""
  · subst f
    cases h
    exact .standard
  · by_cases hdigits : IsDigits f.toList
    · rw [ofText_of_isDigits hdigits] at h
      split at h
      · rename_i hle
        cases h
        exact .places hdigits rfl hle
      · cases h
    · cases hcode : Currency.ofCode? f with
      | some c =>
        rw [ofText_of_ofCode? hcode] at h
        cases h
        exact .code (Currency.ofCode?_eq_some_iff.mp hcode)
      | none =>
        rw [ofText_of_no_code hempty hdigits hcode] at h
        split at h
        · subst f
          cases h
          exact .currency
        · split at h
          · subst f
            cases h
            exact .percent
          · cases h

theorem denotes_iff : Denotes f format ↔ ofText (some f) = .ok format :=
  ⟨Denotes.ofText_eq, denotes_of_ofText⟩

/-- A text is read as a format just if it stands for that format; else it is reported as it is. The
kinds of texts are disjoint, so they may be tried in any order. -/
theorem ofText_iff_denotes (f : String) :
    (∀ format, ofText (some f) = .ok format ↔ Denotes f format) ∧
    (∀ e, ofText (some f) = .error e ↔
      e = .unknownNumberFormat f ∧ ∀ format, ¬ Denotes f format) ∧
    Trial.all.Pairwise (fun t u => t f = none ∨ u f = none) ∧
    ∀ order : List Trial, order.Perm Trial.all →
      ofText (some f) = (order.findSome? (· f)).getD (.error (.unknownNumberFormat f)) := by
  refine ⟨fun format => denotes_iff.symm, ?_, Trial.pairwise_all f, ?_⟩
  · intro e
    constructor
    · intro he
      refine ⟨eq_of_ofText_eq_error he, fun format hformat => ?_⟩
      rw [hformat.ofText_eq] at he
      cases he
    · rintro ⟨rfl, hnone⟩
      cases hread : ofText (some f) with
      | ok format => exact (hnone format (denotes_of_ofText hread)).elim
      | error e => rw [eq_of_ofText_eq_error hread]
  · intro order horder
    exact (Trial.findSome?_of_perm horder f).symm

/-- Digits beyond 16 bits are not taken for the number that is left of them. -/
example : ofText (some "65538") = .error (.unknownNumberFormat "65538") := by
  decide

end NumberFormat
end Phrasebook
