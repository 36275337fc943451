import Phrasebook.Proofs.Extensions

/-! Extensions one after another. Those of a locale in canonical form make that locale again, and
whatever extensions are read keep a locale in canonical form. -/
namespace Phrasebook
open LanguageId Text
variable {s : String} {ss rest : List String} {least most : Nat}

namespace Locale
open Keyword
variable {l l' : Locale} {c : Char} {seen : List Char}

/-- The reader of the extension of a letter. -/
def readExtension? (c : Char) (l : Locale) (rest : List String) : Option (Locale × List String) :=
  match c with
  | 'u' => readUnicode? l rest
  | 't' => readTransform? l rest
  | 'x' => readPrivate? l rest
  | _ => readOther? c l rest

theorem readExtension?_of_isCanonical {e : OtherExtension} (h : e.IsCanonical) :
    readExtension? e.letter l rest = readOther? e.letter l rest := by
  unfold readExtension?
  split
  · exact absurd ‹_› h.ne.1
  · exact absurd ‹_› h.ne.2.1
  · exact absurd ‹_› h.ne.2.2
  · rfl

theorem extensions?_of_letter {most : Nat} (hs : s.toList.map Char.toLower = [c]) :
    extensions? (most + 1) seen l (s :: rest) =
      if c ∈ seen || !c.isAlpha then none
      else (readExtension? c l rest).bind fun p => extensions? most (c :: seen) p.1 p.2 := by
  rw [extensions?, hs]
  dsimp only
  split
  · rfl
  · unfold readExtension?
    obtain rfl | hu := eq_or_ne c 'u'
    · rfl
    obtain rfl | ht := eq_or_ne c 't'
    · rfl
    obtain rfl | hx := eq_or_ne c 'x'
    · rfl
    simp only
    rfl

/-- The parts are read as extensions that make one locale of another, if none of these letters was
seen before. -/
def ReadsAs (letters : List Char) (l : Locale) (parts : List String) (l' : Locale) : Prop :=
  ∀ most seen, parts.length ≤ most → (∀ c ∈ letters, c ∉ seen) →
    extensions? most seen l parts = some l'

variable {letters : List Char} {parts body : List String} {l₁ : Locale}

theorem readsAs_nil (letters : List Char) (l : Locale) : ReadsAs letters l [] l := by
  intro most seen _ _
  cases most <;> rfl

theorem ReadsAs.cons (h : ReadsAs letters l parts l') (c : Char) :
    ReadsAs (c :: letters) l parts l' := fun most seen hlength hseen =>
  h most seen hlength fun d hd => hseen d (List.mem_cons_of_mem c hd)

/-- One extension in front of others. -/
theorem ReadsAs.extension (h : ReadsAs letters l₁ rest l') (hs : s.toList.map Char.toLower = [c])
    (ha : c.isAlpha) (hc : c ∉ letters)
    (hread : readExtension? c l (body ++ rest) = some (l₁, rest)) :
    ReadsAs (c :: letters) l (s :: (body ++ rest)) l' := by
  intro most seen hlength hseen
  cases most with
  | zero => cases hlength
  | succ most =>
    have hnew : c ∉ seen := hseen c List.mem_cons_self
    rw [extensions?_of_letter hs]
    simp only [hnew, ha, hread, decide_false, Bool.not_true, Bool.or_self, Bool.false_eq_true,
      if_false, Option.bind_some]
    apply h
    · simp only [List.length_cons, List.length_append] at hlength
      omega
    · intro d hd hmem
      obtain rfl | hmem := List.mem_cons.mp hmem
      · exact hc hd
      · exact hseen d (List.mem_cons_of_mem c hd) hmem

theorem startsExtension_nil : StartsExtension [] := by
  simp [StartsExtension]

theorem startsExtension_cons (hs : s.toList.length = 1) : StartsExtension (s :: rest) := by
  rintro t ⟨⟩
  exact hs

theorem StartsExtension.append (h : StartsExtension ss) (hrest : StartsExtension rest) :
    StartsExtension (ss ++ rest) := by
  cases ss with
  | nil => exact hrest
  | cons s ss => exact startsExtension_cons (h s rfl)

/-- The parts of extensions of other letters. -/
def othersParts (es : List OtherExtension) : List String :=
  es.flatMap fun e => e.letter.toString :: e.parts

theorem startsExtension_others (es : List OtherExtension) : StartsExtension (othersParts es) := by
  cases es with
  | nil => exact startsExtension_nil
  | cons e es => exact startsExtension_cons (by simp)

theorem ReadsAs.others {es : List OtherExtension} (hes : ∀ e ∈ es, e.IsCanonical)
    (hsorted : (l.others ++ es).Pairwise (·.letter < ·.letter))
    (hletters : ∀ e ∈ es, e.letter ∉ letters) (hrest : StartsExtension rest)
    (h : ReadsAs letters { l with others := l.others ++ es } rest l') :
    ReadsAs (es.map OtherExtension.letter ++ letters) l (othersParts es ++ rest) l' := by
  induction es generalizing l with
  | nil => simpa [othersParts] using h
  | cons e es ih =>
    have he : e.IsCanonical := hes e List.mem_cons_self
    have hbefore : ∀ f ∈ l.others, f.letter < e.letter := fun f hf =>
      (List.pairwise_append.mp hsorted).2.2 f hf e List.mem_cons_self
    have hafter : ∀ f ∈ es, e.letter < f.letter :=
      (List.pairwise_cons.mp (List.pairwise_append.mp hsorted).2.1).1
    have hread : readExtension? e.letter l (e.parts ++ (othersParts es ++ rest)) =
        some ({ l with others := l.others ++ [e] }, othersParts es ++ rest) := by
      rw [readExtension?_of_isCanonical he]
      exact readOther?_append he ((startsExtension_others es).append hrest) hbefore
    have hnew : e.letter ∉ es.map OtherExtension.letter ++ letters := by
      intro hmem
      rcases List.mem_append.mp hmem with hmem | hmem
      · obtain ⟨f, hf, hletter⟩ := List.mem_map.mp hmem
        exact lt_irrefl _ (hletter ▸ hafter f hf)
      · exact hletters e List.mem_cons_self hmem
    have hothers : othersParts (e :: es) ++ rest =
        e.letter.toString :: (e.parts ++ (othersParts es ++ rest)) := by
      simp [othersParts]
    rw [hothers]
    refine ReadsAs.extension ?_ (by simp [he.toLower]) he.isAlpha hnew hread
    apply ih (fun f hf => hes f (List.mem_cons_of_mem e hf))
    · simpa using hsorted
    · exact fun f hf => hletters f (List.mem_cons_of_mem e hf)
    · simpa using h

theorem filter_append_filter {es : List OtherExtension} (c : Char)
    (h : es.Pairwise (·.letter < ·.letter)) :
    es.filter (·.letter < c) ++ es.filter (¬ ·.letter < c) = es := by
  induction es with
  | nil => rfl
  | cons e es ih =>
    obtain ⟨he, hes⟩ := List.pairwise_cons.mp h
    by_cases hlt : e.letter < c
    · simpa [hlt] using ih hes
    · have hlater : ∀ f ∈ es, ¬ f.letter < c := fun f hf hf' => hlt (lt_trans (he f hf) hf')
      have hnone : es.filter (·.letter < c) = [] := by simpa using hlater
      have hall : es.filter (¬ ·.letter < c) = es := by simpa using hlater
      simp only [List.filter_cons, hlt, hnone, hall]
      rfl

theorem startsExtension_privateParts (l : Locale) : StartsExtension l.privateParts := by
  unfold privateParts
  split
  · exact startsExtension_nil
  · exact startsExtension_cons rfl

theorem startsExtension_unicodeParts (l : Locale) : StartsExtension l.unicodeParts := by
  unfold unicodeParts
  split
  · exact startsExtension_nil
  · exact startsExtension_cons rfl

theorem startsExtension_transformParts (l : Locale) : StartsExtension l.transformParts := by
  unfold transformParts
  split
  · exact startsExtension_nil
  · exact startsExtension_cons rfl

theorem readsAs_privateParts (h : l.IsCanonical) :
    ReadsAs ['x'] { l with privateUse := [] } l.privateParts l := by
  by_cases hne : l.privateUse = []
  · have hparts : l.privateParts = [] := if_pos (by simp [hne])
    have hsame : { l with privateUse := [] } = l := by rw [← hne]
    rw [hparts, hsame]
    exact readsAs_nil _ _
  · have hparts : l.privateParts = "x" :: (l.privateUse ++ []) := by
      simp [privateParts, hne]
    have hread :
        readExtension? 'x' { l with privateUse := [] } (l.privateUse ++ []) = some (l, []) := by
      rw [List.append_nil]
      exact readPrivate?_of_isLowerSubtag hne h.privateUse
    rw [hparts]
    exact (readsAs_nil [] l).extension (by decide) (by decide) (by decide) hread

theorem ReadsAs.unicode {k : Locale} (hk : k.IsCanonical) (hattributes : l.attributes = [])
    (hkeywords : l.keywords = []) (hu : 'u' ∉ letters) (hrest : StartsExtension rest)
    (h : ReadsAs letters { l with attributes := k.attributes, keywords := k.keywords } rest l') :
    ReadsAs ('u' :: letters) l (k.unicodeParts ++ rest) l' := by
  by_cases hnone : k.attributes = [] ∧ k.keywords = []
  · have hparts : k.unicodeParts = [] := if_pos (by simp [hnone])
    have hsame : { l with attributes := k.attributes, keywords := k.keywords } = l := by
      rw [hnone.1, hnone.2, ← hattributes, ← hkeywords]
    rw [hsame] at h
    rw [hparts]
    exact h.cons 'u'
  · have hne : k.attributes ≠ [] ∨ k.keywords ≠ [] := not_and_or.mp hnone
    have hparts : k.unicodeParts = "u" :: k.unicodeBody := if_neg (by simpa using hnone)
    rw [hparts]
    exact h.extension (by decide) (by decide) hu (readUnicode?_append hk hne hrest)

theorem ReadsAs.transform {k : Locale} (hk : k.IsCanonical) (htransform : l.transform = none)
    (ht : 't' ∉ letters) (hrest : StartsExtension rest)
    (h : ReadsAs letters { l with transform := k.transform } rest l') :
    ReadsAs ('t' :: letters) l (k.transformParts ++ rest) l' := by
  cases hsome : k.transform with
  | none =>
    have hparts : k.transformParts = [] := by simp [transformParts, hsome]
    have hsame : { l with transform := k.transform } = l := by rw [hsome, ← htransform]
    rw [hsame] at h
    rw [hparts]
    exact h.cons 't'
  | some t =>
    have hparts : k.transformParts = "t" :: t.parts := by
      simp only [transformParts, hsome]
      rfl
    have hread := readTransform?_append (l := l) (hk.transform t hsome) hrest
    rw [hsome] at h
    rw [hparts]
    exact h.extension (by decide) (by decide) ht hread

/-- The parts of all extensions, in order of their letters but for the private one. -/
def extensionParts (l : Locale) : List String :=
  othersParts (l.others.filter (·.letter < 't')) ++ (l.transformParts ++ (l.unicodeParts ++
    (othersParts (l.others.filter (¬ ·.letter < 't')) ++ l.privateParts)))

/-- The letters of the extensions that there may be, in the order of their parts. -/
def extensionLetters (l : Locale) : List Char :=
  (l.others.filter (·.letter < 't')).map OtherExtension.letter ++
    't' :: 'u' :: ((l.others.filter (¬ ·.letter < 't')).map OtherExtension.letter ++ ['x'])

theorem parts_eq (l : Locale) : l.parts = l.id.parts ++ l.extensionParts := by
  simp [parts, extensionParts, othersParts]

theorem startsExtension_extensionParts : StartsExtension l.extensionParts :=
  (startsExtension_others _).append ((startsExtension_transformParts l).append
    ((startsExtension_unicodeParts l).append
      ((startsExtension_others _).append (startsExtension_privateParts l))))

/-- The extensions of a locale are read as what they were. -/
theorem readsAs_extensions (h : l.IsCanonical) :
    ReadsAs l.extensionLetters (ofId l.id) l.extensionParts l := by
  unfold extensionLetters extensionParts
  have hsplit := filter_append_filter 't' h.others_sorted
  have hsorted := h.others_sorted
  rw [← hsplit] at hsorted
  have hcanonical := h.others
  rw [← hsplit] at hcanonical
  generalize l.others.filter (·.letter < 't') = first at hsplit hsorted hcanonical ⊢
  generalize l.others.filter (¬ ·.letter < 't') = last at hsplit hsorted hcanonical ⊢
  have hfirst : ∀ e ∈ first, e.IsCanonical := fun e he => hcanonical e (List.mem_append_left _ he)
  have hlast : ∀ e ∈ last, e.IsCanonical := fun e he => hcanonical e (List.mem_append_right _ he)
  have hu : 'u' ∉ last.map OtherExtension.letter ++ ['x'] := by
    simpa using fun e he => (hlast e he).ne.1
  have ht : 't' ∉ 'u' :: (last.map OtherExtension.letter ++ ['x']) := by
    simpa using fun e he => (hlast e he).ne.2.1
  have hprivate : ReadsAs ['x'] { l with privateUse := [] } l.privateParts l :=
    readsAs_privateParts h
  have hothers : ReadsAs (last.map OtherExtension.letter ++ ['x'])
      { l with others := first, privateUse := [] } (othersParts last ++ l.privateParts) l := by
    apply ReadsAs.others hlast hsorted _ (startsExtension_privateParts l)
    · rw [hsplit]
      exact hprivate
    · exact fun e he => by simpa using (hlast e he).ne.2.2
  have hstarts : StartsExtension (othersParts last ++ l.privateParts) :=
    (startsExtension_others last).append (startsExtension_privateParts l)
  have hstarts' : StartsExtension (l.unicodeParts ++ (othersParts last ++ l.privateParts)) :=
    (startsExtension_unicodeParts l).append hstarts
  have hunicode : ReadsAs ('u' :: (last.map OtherExtension.letter ++ ['x']))
      { l with attributes := [], keywords := [], others := first, privateUse := [] }
      (l.unicodeParts ++ (othersParts last ++ l.privateParts)) l :=
    hothers.unicode h rfl rfl hu hstarts
  have htransform : ReadsAs ('t' :: 'u' :: (last.map OtherExtension.letter ++ ['x']))
      { ofId l.id with others := first }
      (l.transformParts ++ (l.unicodeParts ++ (othersParts last ++ l.privateParts))) l :=
    hunicode.transform h rfl ht hstarts'
  apply ReadsAs.others hfirst
  · exact (List.pairwise_append.mp hsorted).1
  · intro e he
    have hbefore : ∀ f ∈ last, f.letter ≠ e.letter := fun f hf =>
      (ne_of_lt ((List.pairwise_append.mp hsorted).2.2 e he f hf)).symm
    simpa [(hfirst e he).ne] using hbefore
  · exact (startsExtension_transformParts l).append hstarts'
  · exact htransform

/-! What is read is in canonical form. -/

theorem isCanonical_ofId {id : LanguageId} (h : id.IsCanonical) : (ofId id).IsCanonical where
  id := h
  attributes := List.forall_mem_nil _
  attributes_sorted := .nil
  keywords := areCanonical_nil
  transform := by simp [ofId]
  others := List.forall_mem_nil _
  others_sorted := .nil
  privateUse := List.forall_mem_nil _

/-- Whatever extension is read, the letters of the others are among those that were seen. -/
theorem isCanonical_of_readExtension? (h : readExtension? c l ss = some (l', rest)) (ha : c.isAlpha)
    (hlower : c.toLower = c) (hc : c ∉ seen) (hl : l.IsCanonical)
    (hseen : ∀ e ∈ l.others, e.letter ∈ seen) :
    l'.IsCanonical ∧ ∀ e ∈ l'.others, e.letter ∈ c :: seen := by
  have hkept : l'.others = l.others → ∀ e ∈ l'.others, e.letter ∈ c :: seen := fun hothers e he =>
    List.mem_cons_of_mem c (hseen e (hothers ▸ he))
  unfold readExtension? at h
  split at h
  · exact (isCanonical_of_readUnicode? h hl).imp_right hkept
  · exact (isCanonical_of_readTransform? h hl).imp_right hkept
  · exact (isCanonical_of_readPrivate? h hl).imp_right hkept
  · rename_i hu ht hx
    obtain ⟨hcanonical, hothers⟩ := isCanonical_of_readOther? h ha hlower ⟨hu, ht, hx⟩ hl
      fun e he heq => hc (heq ▸ hseen e he)
    refine ⟨hcanonical, ?_⟩
    intro e he
    rcases hothers e he with heq | hold
    · rw [heq]
      exact List.mem_cons_self
    · exact List.mem_cons_of_mem c (hseen e hold)

theorem isCanonical_of_extensions? {most : Nat} (h : extensions? most seen l ss = some l')
    (hl : l.IsCanonical) (hseen : ∀ e ∈ l.others, e.letter ∈ seen) : l'.IsCanonical := by
  induction most generalizing seen l ss with
  | zero =>
    cases ss with
    | nil =>
      cases h
      exact hl
    | cons s ss => cases h
  | succ most ih =>
    cases ss with
    | nil =>
      cases h
      exact hl
    | cons s ss =>
      obtain ⟨c, hs⟩ : ∃ c, s.toList.map Char.toLower = [c] := by
        rw [extensions?] at h
        split at h
        · exact ⟨_, ‹_›⟩
        · cases h
      have hlower : c.toLower = c := by
        obtain ⟨d, -, rfl⟩ := List.mem_map.mp (show c ∈ s.toList.map Char.toLower by simp [hs])
        exact toLower_toLower_char d
      rw [extensions?_of_letter hs] at h
      split at h
      · cases h
      · rename_i hletter
        simp only [Bool.or_eq_true, decide_eq_true_eq, Bool.not_eq_eq_eq_not, Bool.not_true,
          not_or, Bool.not_eq_false] at hletter
        obtain ⟨⟨l₁, rest⟩, hread, h⟩ := Option.bind_eq_some_iff.mp h
        obtain ⟨hl₁, hseen₁⟩ :=
          isCanonical_of_readExtension? hread hletter.2 hlower hletter.1 hl hseen
        exact ih h hl₁ hseen₁

end Locale
end Phrasebook
