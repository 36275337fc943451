import Phrasebook.Proofs.Keywords

/-! The extensions of a locale. In canonical form each is read back, and what is read keeps a locale
in canonical form. -/
namespace Phrasebook
open LanguageId Text
variable {s t : String} {ss rest : List String} {least most : Nat}

/-- A transform has a source or fields. -/
structure Transform.IsCanonical (t : Transform) : Prop where
  source : ∀ id ∈ t.source, id.IsCanonical
  fields : Keyword.AreCanonical Locale.isTransformKey t.fields
  nonempty : t.source = none → t.fields ≠ []

/-- The parts of a transform as they are written. -/
def Transform.parts (t : Transform) : List String :=
  (match t.source with
    | none => []
    | some id => id.parts.map String.toLower) ++ t.fields.flatMap fun k => k.key :: k.fieldParts

/-- An extension with a letter that has no other meaning. -/
structure OtherExtension.IsCanonical (e : OtherExtension) : Prop where
  isAlpha : e.letter.isAlpha
  toLower : e.letter.toLower = e.letter
  ne : e.letter ≠ 'u' ∧ e.letter ≠ 't' ∧ e.letter ≠ 'x'
  parts_ne_nil : e.parts ≠ []
  parts : ∀ s ∈ e.parts, IsLowerSubtag 2 8 s

namespace Locale
open Keyword
variable {l l' : Locale} {c : Char} {ks : List Keyword}

/-- All parts are in canonical form, and so is their order. -/
structure IsCanonical (l : Locale) : Prop where
  id : l.id.IsCanonical
  attributes : ∀ s ∈ l.attributes, IsLowerSubtag 3 8 s
  attributes_sorted : l.attributes.Pairwise (· < ·)
  keywords : AreCanonical isUnicodeKey l.keywords
  transform : ∀ t ∈ l.transform, t.IsCanonical
  others : ∀ e ∈ l.others, e.IsCanonical
  others_sorted : l.others.Pairwise (·.letter < ·.letter)
  privateUse : ∀ s ∈ l.privateUse, IsLowerSubtag 1 8 s

/-- Adds an attribute at its place, unless it is there already. -/
def addAttribute (found : List String) (s : String) : List String :=
  if s.toLower ∈ found then found else insertSorted s.toLower found

theorem foldl_addAttribute {found : List String} (h : ∀ s ∈ ss, IsLowerSubtag 3 8 s)
    (hs : (found ++ ss).Pairwise (· < ·)) : ss.foldl addAttribute found = found ++ ss := by
  induction ss generalizing found with
  | nil => simp
  | cons s ss ih =>
    have hbefore : ∀ t ∈ found, t < s := fun t ht =>
      (List.pairwise_append.mp hs).2.2 t ht s List.mem_cons_self
    have hadd : addAttribute found s = found ++ [s] := by
      rw [addAttribute, (h s List.mem_cons_self).2,
        if_neg fun hmem => String.lt_irrefl s (hbefore s hmem), insertSorted_of_forall_lt hbefore]
    rw [List.foldl_cons, hadd, ih (fun t ht => h t (List.mem_cons_of_mem s ht)) (by simpa using hs),
      List.append_assoc]
    rfl

theorem isCanonical_foldl_addAttribute {found : List String} (h : ∀ s ∈ ss, isValuePart s)
    (hfound : ∀ s ∈ found, IsLowerSubtag 3 8 s) (hs : found.Pairwise (· < ·)) :
    (∀ s ∈ ss.foldl addAttribute found, IsLowerSubtag 3 8 s) ∧
      (ss.foldl addAttribute found).Pairwise (· < ·) := by
  induction ss generalizing found with
  | nil => exact ⟨hfound, hs⟩
  | cons s ss ih =>
    have hss : ∀ t ∈ ss, isValuePart t := fun t ht => h t (List.mem_cons_of_mem s ht)
    rw [List.foldl_cons, addAttribute]
    split
    · exact ih hss hfound hs
    · rename_i hnew
      refine ih hss ?_ (sorted_insertSorted hs hnew)
      intro t ht
      obtain rfl | ht := mem_insertSorted ht
      · exact isLowerSubtag_toLower (h s List.mem_cons_self)
      · exact hfound t ht

/-- The parts of the `u` extension after its letter. -/
def unicodeBody (l : Locale) : List String :=
  l.attributes ++ l.keywords.flatMap fun k => k.key :: k.parts

theorem readUnicode?_append (h : l'.IsCanonical) (hne : l'.attributes ≠ [] ∨ l'.keywords ≠ [])
    (hrest : StartsExtension rest) : readUnicode? l (l'.unicodeBody ++ rest) =
      some ({ l with attributes := l'.attributes, keywords := l'.keywords }, rest) := by
  have hnext : ∀ s ∈ ((l'.keywords.flatMap fun k => k.key :: k.parts) ++ rest).head?,
      isValuePart s = false :=
    isValuePart_next length_of_isUnicodeKey h.keywords.isCanonical hrest
  obtain ⟨htake, hdrop⟩ :=
    takeWhile_append_of_head? (p := isValuePart) (fun s hs => (h.attributes s hs).1) hnext
  have hattributes : l'.attributes.foldl addAttribute [] = l'.attributes :=
    foldl_addAttribute h.attributes h.attributes_sorted
  have hkeywords : readKeywords [] ((l'.keywords.flatMap fun k => k.key :: k.parts) ++ rest) =
      (l'.keywords, rest) := readKeywords_append h.keywords hrest
  unfold addAttribute at hattributes
  rw [unicodeBody, List.append_assoc, readUnicode?, htake, hdrop, hkeywords, hattributes]
  rcases hne with hne | hne <;> simp [hne]

theorem isCanonical_of_readUnicode? (h : readUnicode? l ss = some (l', rest)) (hl : l.IsCanonical) :
    l'.IsCanonical ∧ l'.others = l.others := by
  have hvalues : ∀ s ∈ ss.takeWhile isValuePart, isValuePart s := fun s hs =>
    List.mem_takeWhile_imp hs
  obtain ⟨hattributes, hsorted⟩ :=
    isCanonical_foldl_addAttribute hvalues (List.forall_mem_nil _) List.Pairwise.nil
  unfold addAttribute at hattributes hsorted
  simp only [readUnicode?] at h
  cases hkeywords : readKeywords [] (ss.dropWhile isValuePart) with | mk keywords after
  simp only [hkeywords] at h
  split at h
  · cases h
  · cases h
    refine ⟨?_, rfl⟩
    exact { hl with
      attributes := hattributes
      attributes_sorted := hsorted
      keywords := areCanonical_of_readKeywords hkeywords areCanonical_nil }

theorem endsLanguage_of_startsExtension (h : StartsExtension rest) : EndsLanguage rest := by
  intro s hs
  have hlength := h s hs
  exact ⟨script?_eq_none_of_length_lt (by omega), region?_eq_none_of_length_lt (by omega),
    variant?_eq_none_of_length_lt (by omega)⟩

/-- The key of a field is no language and no region, for its second character is a digit. -/
theorem isSubtag_isAlpha_of_isTransformKey (h : isTransformKey s) :
    isSubtag Char.isAlpha least most s = false := by
  rw [← Bool.not_eq_true]
  intro hs
  obtain ⟨a, b, hchars, -, hb⟩ := isTransformKey_iff.mp h
  have hletter := (isSubtag_iff.mp hs).2.2 b (by simp [hchars])
  rw [isAlpha_eq_false_of_isDigit hb] at hletter
  cases hletter

theorem endsLanguage_fields (h : ∀ k ∈ ks, k.IsCanonical isTransformKey)
    (hrest : StartsExtension rest) :
    EndsLanguage ((ks.flatMap fun k => k.key :: k.fieldParts) ++ rest) := by
  cases ks with
  | nil => exact endsLanguage_of_startsExtension hrest
  | cons k ks =>
    rintro s ⟨⟩
    have hkey := (h k List.mem_cons_self).isKey_key
    have hlength := length_of_isTransformKey hkey
    have hdigits : isSubtag Char.isDigit 3 3 k.key = false :=
      isSubtag_eq_false_of_length_lt (by omega)
    have hregion : region? k.key = none := by
      simp [region?, isSubtag_isAlpha_of_isTransformKey hkey, hdigits]
    exact ⟨script?_eq_none_of_length_lt (by omega), hregion,
      variant?_eq_none_of_length_lt (by omega)⟩

/-- The source at the front of a transform, if there is one, and the rest. -/
def transformSource? (ss : List String) : Option (Option LanguageId × List String) :=
  match ss with
  | s :: _ =>
    if (language? s).isSome then (LanguageId.read? ss).map fun (id, rest) => (some id, rest)
    else some (none, ss)
  | [] => some (none, [])

theorem readTransform?_eq (l : Locale) (ss : List String) : readTransform? l ss =
    (transformSource? ss).bind fun p => (readFields? [] p.2).bind fun q =>
      if p.1.isNone && q.1.isEmpty then none
      else some ({ l with transform := some ⟨p.1, q.1⟩ }, q.2) := by
  cases ss with
  | nil => rfl
  | cons s ss =>
    simp only [readTransform?, transformSource?]
    split <;> rfl

theorem readTransform?_append {t : Transform} (h : t.IsCanonical) (hrest : StartsExtension rest) :
    readTransform? l (t.parts ++ rest) = some ({ l with transform := some t }, rest) := by
  have hfields : readFields? [] ((t.fields.flatMap fun k => k.key :: k.fieldParts) ++ rest) =
      some (t.fields, rest) := readFields?_append h.fields hrest
  have hsource : transformSource? (t.parts ++ rest) =
      some (t.source, (t.fields.flatMap fun k => k.key :: k.fieldParts) ++ rest) := by
    have hends := endsLanguage_fields h.fields.isCanonical hrest
    obtain ⟨source, fields⟩ := t
    cases source with
    | none =>
      cases fields with
      | nil => exact absurd rfl (h.nonempty rfl)
      | cons k ks =>
        have hkey : language? k.key = none := by
          have hk := (h.fields.isCanonical k List.mem_cons_self).isKey_key
          simp [language?, isSubtag_isAlpha_of_isTransformKey hk]
        simp [transformSource?, Transform.parts, hkey]
    | some id =>
      have hid : id.IsCanonical := h.source id rfl
      have hread := read?_append keepsSubtags_toLower hid hends
      have hlanguage : language? id.language.toLower = some id.language :=
        (ignoresCase_language?.read?_toLower _).trans hid.language
      simp only [LanguageId.parts, List.map_cons, List.map_append, List.cons_append,
        List.append_assoc] at hread
      simp [transformSource?, Transform.parts, LanguageId.parts, hlanguage, hread]
  rw [readTransform?_eq, hsource, Option.bind_some, hfields, Option.bind_some, if_neg]
  simpa using h.nonempty

theorem isCanonical_of_transformSource? {source : Option LanguageId}
    (h : transformSource? ss = some (source, rest)) : ∀ id ∈ source, id.IsCanonical := by
  unfold transformSource? at h
  split at h
  · split at h
    · obtain ⟨⟨id, after⟩, hread, hpair⟩ := Option.map_eq_some_iff.mp h
      cases hpair
      rintro _ ⟨⟩
      exact isCanonical_of_read? hread
    · cases h
      simp
  · cases h
    simp

theorem isCanonical_of_readTransform? (h : readTransform? l ss = some (l', rest))
    (hl : l.IsCanonical) : l'.IsCanonical ∧ l'.others = l.others := by
  rw [readTransform?_eq] at h
  obtain ⟨⟨source, afterSource⟩, hsource, h⟩ := Option.bind_eq_some_iff.mp h
  obtain ⟨⟨fields, afterFields⟩, hfields, h⟩ := Option.bind_eq_some_iff.mp h
  simp only [Option.isNone_iff_eq_none, List.isEmpty_iff, Bool.and_eq_true] at h
  split at h
  · cases h
  · rename_i hnone
    cases h
    refine ⟨{ hl with transform := ?_ }, rfl⟩
    rintro _ ⟨⟩
    exact {
      source := isCanonical_of_transformSource? hsource
      fields := areCanonical_of_readFields? hfields areCanonical_nil
      nonempty := fun hs hf => hnone ⟨hs, hf⟩ }

theorem readPrivate?_of_isLowerSubtag (hne : ss ≠ []) (h : ∀ s ∈ ss, IsLowerSubtag 1 8 s) :
    readPrivate? l ss = some ({ l with privateUse := ss }, []) := by
  have hall : ss.all (isSubtag Char.isAlphanum 1 8) := List.all_eq_true.mpr fun s hs => (h s hs).1
  simp [readPrivate?, hne, hall, map_toLower h]

theorem isCanonical_of_readPrivate? (h : readPrivate? l ss = some (l', rest)) (hl : l.IsCanonical) :
    l'.IsCanonical ∧ l'.others = l.others := by
  simp only [readPrivate?] at h
  split at h
  · cases h
  · rename_i hall
    cases h
    refine ⟨{ hl with privateUse := ?_ }, rfl⟩
    intro s hs
    obtain ⟨t, ht, rfl⟩ := List.mem_map.mp hs
    simp only [Bool.or_eq_true, not_or, Bool.not_eq_true, Bool.not_eq_false',
      List.all_eq_true] at hall
    exact isLowerSubtag_toLower (hall.2 t ht)

theorem insertOther_eq (e : OtherExtension) (es : List OtherExtension) :
    insertOther e es = insertBy OtherExtension.letter e es := by
  induction es with
  | nil => rfl
  | cons f es ih => rw [insertOther, insertBy, ih]

theorem readOther?_append {e : OtherExtension} (h : e.IsCanonical) (hrest : StartsExtension rest)
    (hlast : ∀ f ∈ l.others, f.letter < e.letter) :
    readOther? e.letter l (e.parts ++ rest) =
      some ({ l with others := l.others ++ [e] }, rest) := by
  have hnext : ∀ s ∈ rest.head?, isSubtag Char.isAlphanum 2 8 s = false := fun s hs =>
    isSubtag_eq_false_of_length_lt (by rw [hrest s hs]; decide)
  obtain ⟨htake, hdrop⟩ := takeWhile_append_of_head? (fun s hs => (h.parts s hs).1) hnext
  simp [readOther?, htake, hdrop, map_toLower h.parts, h.parts_ne_nil, insertOther_eq,
    insertBy_of_forall_lt hlast]

theorem isCanonical_of_readOther? (h : readOther? c l ss = some (l', rest)) (ha : c.isAlpha)
    (hlower : c.toLower = c) (hc : c ≠ 'u' ∧ c ≠ 't' ∧ c ≠ 'x') (hl : l.IsCanonical)
    (hnew : ∀ e ∈ l.others, e.letter ≠ c) :
    l'.IsCanonical ∧ ∀ e ∈ l'.others, e.letter = c ∨ e ∈ l.others := by
  simp only [readOther?] at h
  split at h
  · cases h
  · rename_i hne
    cases h
    have hparts : ∀ s ∈ (ss.takeWhile (isSubtag Char.isAlphanum 2 8)).map String.toLower,
        IsLowerSubtag 2 8 s := by
      intro s hs
      obtain ⟨t, ht, rfl⟩ := List.mem_map.mp hs
      exact isLowerSubtag_toLower (List.mem_takeWhile_imp ht)
    rw [insertOther_eq]
    refine ⟨{ hl with others := ?_, others_sorted := sorted_insertBy hl.others_sorted hnew }, ?_⟩
    · intro e he
      obtain rfl | he := mem_insertBy he
      · exact ⟨ha, hlower, hc, by simpa using hne, hparts⟩
      · exact hl.others e he
    · intro e he
      exact (mem_insertBy he).imp_left fun heq => by rw [heq]

end Locale
end Phrasebook
