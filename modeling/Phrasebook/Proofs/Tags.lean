import Phrasebook.Proofs.ReadExtensions

/-! Locale tags. A locale in canonical form is read back from its text, and what is read is in
canonical form, so that locales with the same text are the same. -/
namespace Phrasebook
open LanguageId Text
variable {s : String} {least most : Nat}

namespace Locale
variable {l : Locale}

/-! The text of a locale falls into the parts that it was joined from, for none of them has a
hyphen in it. -/

theorem split_of_not_mem {c : Char} {piece : List Char} (h : c ∉ piece) :
    split c piece = [piece] := by
  induction piece with
  | nil => rfl
  | cons d piece ih =>
    obtain ⟨hd, hpiece⟩ := not_or.mp (mt List.mem_cons.mpr h)
    rw [split, if_neg (Ne.symm hd), ih hpiece]

theorem split_append_cons {c : Char} {piece cs : List Char} (h : c ∉ piece) :
    split c (piece ++ c :: cs) = piece :: split c cs := by
  induction piece with
  | nil => simp [split]
  | cons d piece ih =>
    obtain ⟨hd, hpiece⟩ := not_or.mp (mt List.mem_cons.mpr h)
    rw [List.cons_append, split, if_neg (Ne.symm hd), ih hpiece]

theorem split_intercalate {c : Char} {pieces : List (List Char)} (hne : pieces ≠ [])
    (h : ∀ piece ∈ pieces, c ∉ piece) : split c ([c].intercalate pieces) = pieces := by
  induction pieces with
  | nil => exact absurd rfl hne
  | cons piece pieces ih =>
    have hpiece : c ∉ piece := h piece List.mem_cons_self
    cases pieces with
    | nil => simpa [List.intercalate] using split_of_not_mem hpiece
    | cons next pieces =>
      have hjoin : [c].intercalate (piece :: next :: pieces) =
          piece ++ c :: [c].intercalate (next :: pieces) := by
        simp [List.intercalate]
      rw [hjoin, split_append_cons hpiece, ih (List.cons_ne_nil _ _)
        fun p hp => h p (List.mem_cons_of_mem piece hp)]

/-- A subtag of ASCII letters and digits. -/
def IsAlphanumeric (s : String) : Prop :=
  ∀ c ∈ s.toList, c.isAlphanum

theorem isAlphanumeric_toLower (h : IsAlphanumeric s) : IsAlphanumeric s.toLower := by
  intro c hc
  rw [toList_toLower] at hc
  obtain ⟨d, hd, rfl⟩ := List.mem_map.mp hc
  rw [isAlphanum_toLower]
  exact h d hd

theorem isAlphanumeric_of_isSubtag {p : Char → Bool} (hp : ∀ c, p c → c.isAlphanum)
    (h : isSubtag p least most s) : IsAlphanumeric s := fun c hc =>
  hp c ((isSubtag_iff.mp h).2.2 c hc)

theorem isAlphanumeric_of_isLowerSubtag (h : IsLowerSubtag least most s) : IsAlphanumeric s :=
  isAlphanumeric_of_isSubtag (fun _ hc => hc) h.1

theorem isAlphanum_of_isAlpha (c : Char) (h : c.isAlpha) : c.isAlphanum :=
  Bool.or_eq_true_iff.mpr (Or.inl h)

theorem isAlphanum_of_isDigit (c : Char) (h : c.isDigit) : c.isAlphanum :=
  Bool.or_eq_true_iff.mpr (Or.inr h)

theorem isAlphanumeric_of_mem_languageParts {id : LanguageId} (h : id.IsCanonical)
    (hs : s ∈ id.parts) : IsAlphanumeric s := by
  simp only [LanguageId.parts, List.mem_cons, List.mem_append, Option.mem_toList] at hs
  rcases hs with rfl | (hs | hs) | hs
  · obtain ⟨hsubtag, -⟩ := Option.ite_none_right_eq_some.mp h.language
    exact isAlphanumeric_of_isSubtag isAlphanum_of_isAlpha hsubtag
  · obtain ⟨hsubtag, -⟩ := Option.ite_none_right_eq_some.mp (h.script s hs)
    exact isAlphanumeric_of_isSubtag isAlphanum_of_isAlpha hsubtag
  · have hregion := h.region s hs
    simp only [region?] at hregion
    split at hregion
    · exact isAlphanumeric_of_isSubtag isAlphanum_of_isAlpha ‹_›
    · obtain ⟨hsubtag, -⟩ := Option.ite_none_right_eq_some.mp hregion
      exact isAlphanumeric_of_isSubtag isAlphanum_of_isDigit hsubtag
  · have hvariant := h.variants s hs
    simp only [variant?] at hvariant
    split at hvariant
    · exact isAlphanumeric_of_isSubtag (fun _ hc => hc) ‹_›
    · obtain ⟨hsubtag, -⟩ := Option.ite_none_right_eq_some.mp hvariant
      exact isAlphanumeric_of_isSubtag (fun _ hc => hc) (Bool.and_eq_true_iff.mp hsubtag).1

theorem isAlphanumeric_of_isUnicodeKey (h : isUnicodeKey s) : IsAlphanumeric s := by
  obtain ⟨a, b, hs, ha, hb⟩ := isUnicodeKey_iff.mp h
  simp [IsAlphanumeric, hs, ha, isAlphanum_of_isAlpha b hb]

theorem isAlphanumeric_of_isTransformKey (h : isTransformKey s) : IsAlphanumeric s := by
  obtain ⟨a, b, hs, ha, hb⟩ := isTransformKey_iff.mp h
  simp [IsAlphanumeric, hs, isAlphanum_of_isAlpha a ha, isAlphanum_of_isDigit b hb]

theorem isAlphanumeric_of_mem_transform {t : Transform} (h : t.IsCanonical) (hs : s ∈ t.parts) :
    IsAlphanumeric s := by
  rcases List.mem_append.mp hs with hs | hs
  · split at hs
    · cases hs
    · rename_i id hid
      obtain ⟨part, hpart, rfl⟩ := List.mem_map.mp hs
      exact isAlphanumeric_toLower (isAlphanumeric_of_mem_languageParts (h.source id hid) hpart)
  · obtain ⟨k, hk, hs⟩ := List.mem_flatMap.mp hs
    have hcanonical := h.fields.isCanonical k hk
    obtain rfl | hs := List.mem_cons.mp hs
    · exact isAlphanumeric_of_isTransformKey hcanonical.isKey_key
    · exact isAlphanumeric_of_isLowerSubtag (hcanonical.fieldParts s hs)

theorem isAlphanumeric_of_mem_unicode (h : l.IsCanonical) (hs : s ∈ l.unicodeBody) :
    IsAlphanumeric s := by
  rcases List.mem_append.mp hs with hs | hs
  · exact isAlphanumeric_of_isLowerSubtag (h.attributes s hs)
  · obtain ⟨k, hk, hs⟩ := List.mem_flatMap.mp hs
    have hcanonical := h.keywords.isCanonical k hk
    obtain rfl | hs := List.mem_cons.mp hs
    · exact isAlphanumeric_of_isUnicodeKey hcanonical.isKey_key
    · exact isAlphanumeric_of_isLowerSubtag (hcanonical.parts s hs)

theorem isAlphanumeric_of_mem_others {es : List OtherExtension} (h : ∀ e ∈ es, e.IsCanonical)
    (hs : s ∈ othersParts es) : IsAlphanumeric s := by
  obtain ⟨e, he, hs⟩ := List.mem_flatMap.mp hs
  obtain rfl | hs := List.mem_cons.mp hs
  · simpa [IsAlphanumeric] using isAlphanum_of_isAlpha _ (h e he).isAlpha
  · exact isAlphanumeric_of_isLowerSubtag ((h e he).parts s hs)

theorem isAlphanumeric_of_mem_parts (h : l.IsCanonical) (hs : s ∈ l.parts) : IsAlphanumeric s := by
  have hletter : IsAlphanumeric "t" ∧ IsAlphanumeric "u" ∧ IsAlphanumeric "x" := by
    simp [IsAlphanumeric]
  have hothers : ∀ {p : OtherExtension → Bool}, s ∈ othersParts (l.others.filter p) →
      IsAlphanumeric s :=
    isAlphanumeric_of_mem_others fun e he => h.others e (List.mem_of_mem_filter he)
  simp only [parts_eq, extensionParts, List.mem_append] at hs
  rcases hs with hs | hs | hs | hs | hs | hs
  · exact isAlphanumeric_of_mem_languageParts h.id hs
  · exact hothers hs
  · unfold transformParts at hs
    split at hs
    · cases hs
    · rename_i t ht
      obtain rfl | hs := List.mem_cons.mp hs
      · exact hletter.1
      · exact isAlphanumeric_of_mem_transform (h.transform t ht) hs
  · unfold unicodeParts at hs
    split at hs
    · cases hs
    · obtain rfl | hs := List.mem_cons.mp hs
      · exact hletter.2.1
      · exact isAlphanumeric_of_mem_unicode h hs
  · exact hothers hs
  · unfold privateParts at hs
    split at hs
    · cases hs
    · obtain rfl | hs := List.mem_cons.mp hs
      · exact hletter.2.2
      · exact isAlphanumeric_of_isLowerSubtag (h.privateUse s hs)

/-- A locale in canonical form is read back from its text. -/
theorem ofText?_text (h : l.IsCanonical) : ofText? l.text = some l := by
  have hne : l.parts.map String.toList ≠ [] := by simp [parts, LanguageId.parts]
  have hhyphen : ∀ piece ∈ l.parts.map String.toList, '-' ∉ piece := by
    intro piece hpiece hmem
    obtain ⟨s, hs, rfl⟩ := List.mem_map.mp hpiece
    exact absurd (isAlphanumeric_of_mem_parts h hs '-' hmem) (by decide)
  have hsplit : (split '-' l.text.toList).map String.ofList = l.id.parts ++ l.extensionParts := by
    have htext : l.text.toList = ['-'].intercalate (l.parts.map String.toList) :=
      String.toList_intercalate
    rw [htext, split_intercalate hne hhyphen, ← parts_eq]
    simp
  have hends : EndsLanguage l.extensionParts :=
    endsLanguage_of_startsExtension startsExtension_extensionParts
  have hid : LanguageId.read? (l.id.parts ++ l.extensionParts) = some (l.id, l.extensionParts) := by
    simpa using read?_append keepsSubtags_id h.id hends
  simp only [ofText?, hsplit, hid, Option.bind_eq_bind, Option.bind_some]
  exact readsAs_extensions h _ _ le_rfl fun _ _ => List.not_mem_nil

theorem isCanonical_of_ofText? (h : ofText? s = some l) : l.IsCanonical := by
  obtain ⟨⟨id, rest⟩, hid, h⟩ := Option.bind_eq_some_iff.mp h
  exact isCanonical_of_extensions? h (isCanonical_ofId (isCanonical_of_read? hid))
    (List.forall_mem_nil _)

theorem isCanonical_resolve (tags : List String) : (resolve tags).IsCanonical := by
  unfold resolve
  cases h : tags.findSome? ofText? with
  | none =>
    have henglish : ofText? "en" = some english := by decide +kernel
    exact isCanonical_of_ofText? henglish
  | some l =>
    obtain ⟨tag, -, htag⟩ := List.exists_of_findSome?_eq_some h
    exact isCanonical_of_ofText? htag

/-- Locales that tags are resolved to are the same if their texts are. -/
theorem resolve_eq_of_text_eq {tags tags' : List String}
    (h : (resolve tags).text = (resolve tags').text) : resolve tags = resolve tags' := by
  have hback := ofText?_text (isCanonical_resolve tags)
  rw [h, ofText?_text (isCanonical_resolve tags')] at hback
  exact (Option.some.inj hback).symm

end Locale
end Phrasebook
