import Phrasebook.Proofs.Subtags
import Phrasebook.Proofs.Words

/-! The keywords and the fields of a locale. In canonical form they are read back as they are, and
what is read is in canonical form. -/
namespace Phrasebook
open LanguageId Text
variable {s t : String} {ss rest : List String} {least most : Nat} {isKey : String → Bool}

/-- A subtag of letters and digits, in lower case. -/
def IsLowerSubtag (least most : Nat) (s : String) : Prop :=
  isSubtag Char.isAlphanum least most s ∧ s.toLower = s

theorem isLowerSubtag_toLower (h : isSubtag Char.isAlphanum least most s) :
    IsLowerSubtag least most s.toLower :=
  ⟨(isSubtag_toLower isAlphanum_toLower s).trans h, toLower_toLower s⟩

theorem map_toLower (h : ∀ s ∈ ss, IsLowerSubtag least most s) : ss.map String.toLower = ss :=
  (List.map_congr_left fun s hs => (h s hs).2).trans (List.map_id ss)

namespace Locale

theorem isUnicodeKey_iff :
    isUnicodeKey s ↔ ∃ a b, s.toList = [a, b] ∧ a.isAlphanum ∧ b.isAlpha := by
  unfold isUnicodeKey
  split
  · simp_all
  · rename_i hshort
    simpa using fun a b hs => absurd hs (hshort a b)

theorem isTransformKey_iff :
    isTransformKey s ↔ ∃ a b, s.toList = [a, b] ∧ a.isAlpha ∧ b.isDigit := by
  unfold isTransformKey
  split
  · simp_all
  · rename_i hshort
    simpa using fun a b hs => absurd hs (hshort a b)

theorem isUnicodeKey_toLower (s : String) : isUnicodeKey s.toLower = isUnicodeKey s := by
  simp only [isUnicodeKey, toList_toLower]
  rcases s.toList with _ | ⟨a, _ | ⟨b, _ | ⟨c, cs⟩⟩⟩ <;>
    simp only [List.map_nil, List.map_cons, isAlphanum_toLower, isAlpha_toLower]

theorem isTransformKey_toLower (s : String) : isTransformKey s.toLower = isTransformKey s := by
  simp only [isTransformKey, toList_toLower]
  rcases s.toList with _ | ⟨a, _ | ⟨b, _ | ⟨c, cs⟩⟩⟩ <;>
    simp only [List.map_nil, List.map_cons, isDigit_toLower, isAlpha_toLower]

theorem length_of_isUnicodeKey (h : isUnicodeKey s) : s.toList.length = 2 := by
  obtain ⟨a, b, hs, -⟩ := isUnicodeKey_iff.mp h
  rw [hs]
  rfl

theorem length_of_isTransformKey (h : isTransformKey s) : s.toList.length = 2 := by
  obtain ⟨a, b, hs, -⟩ := isTransformKey_iff.mp h
  rw [hs]
  rfl

/-- The rest is empty or starts with the letter of an extension. -/
def StartsExtension (rest : List String) : Prop :=
  ∀ s ∈ rest.head?, s.toList.length = 1

theorem StartsExtension.isValuePart_eq_false (h : StartsExtension rest) :
    ∀ s ∈ rest.head?, isValuePart s = false := fun s hs =>
  isSubtag_eq_false_of_length_lt (by rw [h s hs]; decide)

theorem StartsExtension.isKey_eq_false (h : StartsExtension rest)
    (hlength : ∀ {s}, isKey s → s.toList.length = 2) : ∀ s ∈ rest.head?, isKey s = false := by
  intro s hs
  rw [← Bool.not_eq_true]
  intro hkey
  have hone := h s hs
  have htwo := hlength hkey
  omega

end Locale

namespace Keyword
open Phrasebook.Locale
variable {key : String} {parts : List String} {k l : Keyword} {ks : List Keyword}

/-- Key and values are in lower case, and no value is the one that is left out. -/
structure IsCanonical (isKey : String → Bool) (k : Keyword) : Prop where
  isKey_key : isKey k.key
  toLower_key : k.key.toLower = k.key
  parts : ∀ s ∈ k.parts, IsLowerSubtag 3 8 s
  ne_true : ∀ s ∈ k.parts, s ≠ "true"

/-- Keywords in canonical form are in the order of their keys. -/
structure AreCanonical (isKey : String → Bool) (ks : List Keyword) : Prop where
  isCanonical : ∀ k ∈ ks, k.IsCanonical isKey
  sorted : ks.Pairwise (·.key < ·.key)

theorem isCanonical_keyword (hlower : ∀ s, isKey (String.toLower s) = isKey s) (hkey : isKey key)
    (hparts : ∀ s ∈ parts, isValuePart s) : (keyword key parts).IsCanonical isKey where
  isKey_key := (hlower key).trans hkey
  toLower_key := toLower_toLower key
  parts s hs := by
    obtain ⟨t, ht, rfl⟩ := List.mem_map.mp (List.mem_of_mem_filter hs)
    exact isLowerSubtag_toLower (hparts t ht)
  ne_true s hs := by simpa using (List.mem_filter.mp hs).2

theorem IsCanonical.keyword_parts (h : k.IsCanonical isKey) : keyword k.key k.parts = k := by
  have htrue : k.parts.filter (· != "true") = k.parts :=
    List.filter_eq_self.mpr fun s hs => by simpa using h.ne_true s hs
  rw [keyword, map_toLower h.parts, htrue, h.toLower_key]

/-- The values of a field as they are written. -/
def fieldParts (k : Keyword) : List String :=
  if k.parts.isEmpty then ["true"] else k.parts

theorem fieldParts_ne_nil (k : Keyword) : k.fieldParts ≠ [] := by
  unfold fieldParts
  split
  · exact List.cons_ne_nil _ _
  · rename_i hempty
    exact fun he => hempty (by simp [he])

theorem IsCanonical.fieldParts (h : k.IsCanonical isKey) :
    ∀ s ∈ k.fieldParts, IsLowerSubtag 3 8 s := by
  unfold Keyword.fieldParts
  split
  · intro s hs
    rw [List.mem_singleton.mp hs]
    exact ⟨by decide, by rw [← String.toList_inj, toList_toLower]; decide⟩
  · exact h.parts

theorem IsCanonical.keyword_fieldParts (h : k.IsCanonical isKey) :
    keyword k.key k.fieldParts = k := by
  by_cases hempty : k.parts = []
  · have hparts : k.fieldParts = ["true"] := if_pos (by simp [hempty])
    have htrue := map_toLower h.fieldParts
    rw [hparts] at htrue
    rw [keyword, hparts, htrue, h.toLower_key]
    cases k
    cases hempty
    rfl
  · have hparts : k.fieldParts = k.parts := if_neg (by simp [hempty])
    rw [hparts, h.keyword_parts]

/-- A keyword whose key is there already is left out. -/
theorem insertKeyword_eq (h : ks.Pairwise (·.key < ·.key)) :
    insertKeyword k ks = if k.key ∈ ks.map Keyword.key then ks else insertBy Keyword.key k ks := by
  induction ks with
  | nil => rfl
  | cons l ks ih =>
    obtain ⟨hl, hks⟩ := List.pairwise_cons.mp h
    have hlater : k.key < l.key → k.key ∉ (l :: ks).map Keyword.key := by
      intro hlt hmem
      obtain ⟨m, hm, hkey⟩ := List.mem_map.mp hmem
      obtain rfl | hm := List.mem_cons.mp hm
      · exact ne_of_gt hlt hkey
      · exact lt_asymm hlt (hkey ▸ hl m hm)
    rw [insertKeyword, insertBy]
    by_cases hlt : k.key < l.key
    · rw [if_pos hlt, if_pos hlt, if_neg (hlater hlt)]
    · rw [if_neg hlt, if_neg hlt, ih hks]
      by_cases heq : k.key = l.key
      · simp [heq]
      · by_cases hmem : k.key ∈ ks.map Keyword.key <;> simp [heq, hmem]

theorem areCanonical_nil : AreCanonical isKey [] :=
  ⟨List.forall_mem_nil _, .nil⟩

theorem AreCanonical.insertKeyword (h : AreCanonical isKey ks) (hk : k.IsCanonical isKey) :
    AreCanonical isKey (insertKeyword k ks) := by
  rw [insertKeyword_eq h.sorted]
  split
  · exact h
  · rename_i hnew
    refine ⟨?_, sorted_insertBy h.sorted fun l hl he => hnew (he ▸ List.mem_map_of_mem hl)⟩
    intro l hl
    obtain rfl | hl := mem_insertBy hl
    · exact hk
    · exact h.isCanonical l hl

/-- The first of the keywords after the ones that were found is put at their end. -/
theorem AreCanonical.insertKeyword_append {found : List Keyword}
    (h : AreCanonical isKey (found ++ k :: ks)) :
    Phrasebook.insertKeyword k found = found ++ [k] := by
  obtain ⟨hfound, -, hbefore⟩ := List.pairwise_append.mp h.sorted
  have hlt : ∀ l ∈ found, l.key < k.key := fun l hl => hbefore l hl k List.mem_cons_self
  have hnew : k.key ∉ found.map Keyword.key := by
    intro hmem
    obtain ⟨l, hl, hkey⟩ := List.mem_map.mp hmem
    exact ne_of_lt (hlt l hl) hkey
  rw [insertKeyword_eq hfound, if_neg hnew, insertBy_of_forall_lt hlt]

end Keyword

namespace Locale
open Keyword
variable {found ks : List Keyword}

/-- After the values of a keyword comes another keyword, or the rest. -/
theorem isValuePart_next {values : Keyword → List String}
    (hlength : ∀ {s}, isKey s → s.toList.length = 2) (hks : ∀ k ∈ ks, k.IsCanonical isKey)
    (hrest : StartsExtension rest) :
    ∀ s ∈ (ks.flatMap (fun k => k.key :: values k) ++ rest).head?, isValuePart s = false := by
  cases ks with
  | nil => exact hrest.isValuePart_eq_false
  | cons k ks =>
    rintro s ⟨⟩
    have hkey := hlength (hks k List.mem_cons_self).isKey_key
    exact isSubtag_eq_false_of_length_lt (by omega)

/-- Keywords that follow the ones that were found are read up to what is none. -/
theorem readKeywords_append (h : AreCanonical isUnicodeKey (found ++ ks))
    (hrest : StartsExtension rest) :
    readKeywords found (ks.flatMap (fun k => k.key :: k.parts) ++ rest) = (found ++ ks, rest) := by
  induction ks generalizing found with
  | nil =>
    cases rest with
    | nil => simp [readKeywords]
    | cons s rest => simp [readKeywords, hrest.isKey_eq_false length_of_isUnicodeKey s rfl]
  | cons k ks ih =>
    have hk : k.IsCanonical isUnicodeKey := h.isCanonical k (by simp)
    have hks : ∀ l ∈ ks, l.IsCanonical isUnicodeKey := fun l hl => h.isCanonical l (by simp [hl])
    have hnext : ∀ s ∈ (ks.flatMap (fun k => k.key :: k.parts) ++ rest).head?,
        isValuePart s = false := isValuePart_next length_of_isUnicodeKey hks hrest
    obtain ⟨htake, hdrop⟩ :=
      takeWhile_append_of_head? (p := isValuePart) (fun s hs => (hk.parts s hs).1) hnext
    rw [List.flatMap_cons, List.cons_append, List.cons_append, List.append_assoc, readKeywords,
      if_pos hk.isKey_key, htake, hdrop, hk.keyword_parts, h.insertKeyword_append,
      ih (by simpa using h), List.append_assoc]
    rfl

/-- The same for fields, of which each has a value. -/
theorem readFields?_append (h : AreCanonical isTransformKey (found ++ ks))
    (hrest : StartsExtension rest) :
    readFields? found (ks.flatMap (fun k => k.key :: k.fieldParts) ++ rest) =
      some (found ++ ks, rest) := by
  induction ks generalizing found with
  | nil =>
    cases rest with
    | nil => simp [readFields?]
    | cons s rest => simp [readFields?, hrest.isKey_eq_false length_of_isTransformKey s rfl]
  | cons k ks ih =>
    have hk : k.IsCanonical isTransformKey := h.isCanonical k (by simp)
    have hks : ∀ l ∈ ks, l.IsCanonical isTransformKey := fun l hl => h.isCanonical l (by simp [hl])
    have hnext : ∀ s ∈ (ks.flatMap (fun k => k.key :: k.fieldParts) ++ rest).head?,
        isValuePart s = false := isValuePart_next length_of_isTransformKey hks hrest
    obtain ⟨htake, hdrop⟩ :=
      takeWhile_append_of_head? (p := isValuePart) (fun s hs => (hk.fieldParts s hs).1) hnext
    rw [List.flatMap_cons, List.cons_append, List.cons_append, List.append_assoc, readFields?,
      if_pos hk.isKey_key, htake, hdrop, if_neg (by simp [k.fieldParts_ne_nil]),
      hk.keyword_fieldParts, h.insertKeyword_append, ih (by simpa using h),
      List.append_assoc]
    rfl

theorem areCanonical_of_readKeywords (h : readKeywords found ss = (ks, rest))
    (hfound : AreCanonical isUnicodeKey found) : AreCanonical isUnicodeKey ks := by
  fun_induction readKeywords found ss with
  | case1 found =>
    cases h
    exact hfound
  | case2 found s ss hkey hle ih =>
    refine ih h (hfound.insertKeyword ?_)
    exact isCanonical_keyword isUnicodeKey_toLower hkey fun t ht => List.mem_takeWhile_imp ht
  | case3 found s ss hkey =>
    cases h
    exact hfound

theorem areCanonical_of_readFields? (h : readFields? found ss = some (ks, rest))
    (hfound : AreCanonical isTransformKey found) : AreCanonical isTransformKey ks := by
  fun_induction readFields? found ss with
  | case1 found =>
    cases h
    exact hfound
  | case2 found s ss hkey hle hempty => cases h
  | case3 found s ss hkey hle hempty ih =>
    refine ih h (hfound.insertKeyword ?_)
    exact isCanonical_keyword isTransformKey_toLower hkey fun t ht => List.mem_takeWhile_imp ht
  | case4 found s ss hkey =>
    cases h
    exact hfound

end Locale

end Phrasebook
