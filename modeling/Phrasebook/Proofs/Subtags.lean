import Mathlib.Data.List.Basic
import Mathlib.Data.String.Basic
import Phrasebook.Locale.Reading

/-! Subtags of locales. Their letter case is free, each has one canonical form, and languages in
canonical form are read back as they are. -/
namespace Phrasebook

section
variable {α κ : Type} [LinearOrder κ] {key : α → κ} {x y : α} {xs : List α}

/-- Inserts an item at its place in a list with increasing keys. -/
def insertBy (key : α → κ) (x : α) : List α → List α
  | [] => [x]
  | y :: ys => if key x < key y then x :: y :: ys else y :: insertBy key x ys

theorem insertBy_of_forall_lt (h : ∀ y ∈ xs, key y < key x) : insertBy key x xs = xs ++ [x] := by
  induction xs with
  | nil => rfl
  | cons y xs ih =>
    have hy : key y < key x := h y List.mem_cons_self
    rw [insertBy, if_neg (lt_asymm hy), ih fun z hz => h z (List.mem_cons_of_mem y hz)]
    rfl

theorem mem_insertBy (h : y ∈ insertBy key x xs) : y = x ∨ y ∈ xs := by
  induction xs with
  | nil => simpa [insertBy] using h
  | cons z xs ih =>
    simp only [insertBy] at h
    split at h
    · simpa using h
    · obtain rfl | h := List.mem_cons.mp h
      · exact Or.inr List.mem_cons_self
      · exact (ih h).imp_right (List.mem_cons_of_mem z)

theorem sorted_insertBy (h : xs.Pairwise (key · < key ·)) (hnew : ∀ y ∈ xs, key y ≠ key x) :
    (insertBy key x xs).Pairwise (key · < key ·) := by
  induction xs with
  | nil => simp [insertBy]
  | cons z xs ih =>
    obtain ⟨hz, hxs⟩ := List.pairwise_cons.mp h
    simp only [insertBy]
    split
    · rename_i hlt
      refine List.pairwise_cons.mpr ⟨?_, h⟩
      intro y hy
      obtain rfl | hy := List.mem_cons.mp hy
      · exact hlt
      · exact lt_trans hlt (hz y hy)
    · rename_i hlt
      refine List.pairwise_cons.mpr ⟨?_, ih hxs fun y hy => hnew y (List.mem_cons_of_mem z hy)⟩
      intro y hy
      obtain rfl | hy := mem_insertBy hy
      · exact lt_of_le_of_ne (not_lt.mp hlt) (hnew z List.mem_cons_self)
      · exact hz y hy
end

variable {p : Char → Bool} {least most : Nat} {s t v : String}
  {ss rest : List String}

theorem isSubtag_iff : isSubtag p least most s ↔
    least ≤ s.toList.length ∧ s.toList.length ≤ most ∧ ∀ c ∈ s.toList, p c := by
  simp [isSubtag, and_assoc]

theorem isSubtag_eq_false_of_length_lt (h : s.toList.length < least) :
    isSubtag p least most s = false := by
  rw [← Bool.not_eq_true]
  intro hs
  have hlength := (isSubtag_iff.mp hs).1
  omega

/-- Only the first 128 characters have letter cases that differ. -/
@[elab_as_elim]
theorem ascii_cases {P : Char → Prop} (ascii : ∀ n < 128, P (.ofNat n))
    (other : ∀ c : Char, c.toLower = c → c.toUpper = c → P c) (c : Char) : P c := by
  by_cases h : c.toNat < 128
  · rw [← Char.ofNat_toNat c]
    exact ascii _ h
  · apply other
    · exact dif_neg fun hupper => h (Nat.lt_of_le_of_lt hupper.2 (by decide))
    · exact dif_neg fun hlower => h (Nat.lt_of_le_of_lt hlower.2 (by decide))

theorem isDigit_toLower (c : Char) : c.toLower.isDigit = c.isDigit := by
  induction c using ascii_cases with
  | ascii n hn =>
    revert n
    decide
  | other c hlower hupper => rw [hlower]

theorem isAlpha_toLower (c : Char) : c.toLower.isAlpha = c.isAlpha := by
  induction c using ascii_cases with
  | ascii n hn =>
    revert n
    decide
  | other c hlower hupper => rw [hlower]

theorem isAlphanum_toLower (c : Char) : c.toLower.isAlphanum = c.isAlphanum := by
  rw [Char.isAlphanum, Char.isAlphanum, isAlpha_toLower, isDigit_toLower]

theorem isAlpha_eq_false_of_isDigit {c : Char} (h : c.isDigit) : c.isAlpha = false := by
  rw [← Bool.not_eq_true]
  intro hletter
  have hnine : '9'.toNat = 57 := rfl
  have hdigit := Char.isDigit_iff_toNat.mp h
  rcases Bool.or_eq_true_iff.mp hletter with hupper | hlower
  · have hc : 65 ≤ c.toNat ∧ c.toNat ≤ 90 := of_decide_eq_true hupper
    omega
  · have hc : 97 ≤ c.toNat := of_decide_eq_true (Bool.and_eq_true_iff.mp hlower).1
    omega

theorem toLower_eq_of_isDigit {c : Char} (h : c.isDigit) : c.toLower = c := by
  revert h
  induction c using ascii_cases with
  | ascii n hn =>
    revert n
    decide
  | other c hlower hupper => exact fun _ => hlower

theorem toLower_toLower_char (c : Char) : c.toLower.toLower = c.toLower := by
  induction c using ascii_cases with
  | ascii n hn =>
    revert n
    decide
  | other c hlower hupper => rw [hlower, hlower]

theorem toLower_toUpper_char (c : Char) : c.toUpper.toLower = c.toLower := by
  induction c using ascii_cases with
  | ascii n hn =>
    revert n
    decide
  | other c hlower hupper => rw [hupper]

theorem toUpper_toLower_char (c : Char) : c.toLower.toUpper = c.toUpper := by
  induction c using ascii_cases with
  | ascii n hn =>
    revert n
    decide
  | other c hlower hupper => rw [hlower]

theorem toList_toLower (s : String) : s.toLower.toList = s.toList.map Char.toLower :=
  String.toList_map

theorem toLower_toLower (s : String) : s.toLower.toLower = s.toLower := by
  simp only [← String.toList_inj, toList_toLower, List.map_map, Function.comp_def,
    toLower_toLower_char]

theorem toLower_toUpper (s : String) : s.toUpper.toLower = s.toLower := by
  simp only [← String.toList_inj, toList_toLower, String.toUpper, String.toList_map, List.map_map,
    Function.comp_def, toLower_toUpper_char]

theorem toUpper_toLower (s : String) : s.toLower.toUpper = s.toUpper := by
  simp only [← String.toList_inj, toList_toLower, String.toUpper, String.toList_map, List.map_map,
    Function.comp_def, toUpper_toLower_char]

theorem toList_capitalize (s : String) :
    s.capitalize.toList = s.toList.modifyHead Char.toUpper := by
  rw [String.capitalize, String.Pos.Raw.set, String.Pos.Raw.get, String.toList_ofList]
  cases s.toList with
  | nil => rfl
  | cons c cs => rfl

theorem toLower_capitalize (s : String) : s.capitalize.toLower = s.toLower := by
  rw [← String.toList_inj, toList_toLower, toList_capitalize, toList_toLower]
  cases s.toList with
  | nil => rfl
  | cons c cs => simp only [List.modifyHead_cons, List.map_cons, toLower_toUpper_char]

theorem isSubtag_toLower (hp : ∀ c : Char, p c.toLower = p c) (s : String) :
    isSubtag p least most s.toLower = isSubtag p least most s := by
  simp [isSubtag, toList_toLower, List.all_map, Function.comp_def, hp]

/-- A way to read subtags that does not tell letter cases apart, and changes nothing else. -/
structure IgnoresCase (read? : String → Option String) : Prop where
  read?_toLower : ∀ s, read? s.toLower = read? s
  toLower_of_read? : ∀ {s v}, read? s = some v → v.toLower = s.toLower

/-- What was read once is read as it is. -/
theorem IgnoresCase.read?_of_read? {read? : String → Option String} (h : IgnoresCase read?)
    (hv : read? s = some v) : read? v = some v := by
  rw [← h.read?_toLower, h.toLower_of_read? hv, h.read?_toLower, hv]

/-- A way to write subtags, of which readers that ignore the letter case notice nothing. -/
def KeepsSubtags (g : String → String) : Prop :=
  ∀ {read : String → Option String}, IgnoresCase read → ∀ s, read (g s) = read s

theorem keepsSubtags_id : KeepsSubtags id :=
  fun _ _ => rfl

theorem keepsSubtags_toLower : KeepsSubtags String.toLower :=
  fun h => h.read?_toLower

/-- Where some items are followed by others, the first item is one of them or starts the rest. -/
theorem forall_mem_head?_append {P : String → Prop} (hs : ∀ s ∈ ss, P s)
    (hrest : ∀ s ∈ rest.head?, P s) : ∀ s ∈ (ss ++ rest).head?, P s := by
  cases ss with
  | nil => exact hrest
  | cons s ss => simpa using hs s List.mem_cons_self

namespace LanguageId
variable {id : LanguageId} {found vs : List String} {o : Option String}
  {read : String → Option String} {g : String → String}

theorem ignoresCase_language? : IgnoresCase language? where
  read?_toLower s := by
    simp only [language?, isSubtag_toLower isAlpha_toLower, toLower_toLower]
  toLower_of_read? h := by
    obtain ⟨-, hv⟩ := Option.ite_none_right_eq_some.mp h
    rw [← Option.some.inj hv, toLower_toLower]

theorem ignoresCase_script? : IgnoresCase script? where
  read?_toLower s := by
    simp only [script?, isSubtag_toLower isAlpha_toLower, toLower_toLower]
  toLower_of_read? h := by
    obtain ⟨-, hv⟩ := Option.ite_none_right_eq_some.mp h
    rw [← Option.some.inj hv, toLower_capitalize, toLower_toLower]

theorem ignoresCase_region? : IgnoresCase region? where
  read?_toLower s := by
    simp only [region?, isSubtag_toLower isAlpha_toLower,
      isSubtag_toLower isDigit_toLower, toUpper_toLower]
    by_cases hd : isSubtag Char.isDigit 3 3 s
    · have hs : s.toLower = s := by
        rw [← String.toList_inj, toList_toLower]
        refine (List.map_congr_left fun c hc => ?_).trans (List.map_id s.toList)
        exact toLower_eq_of_isDigit ((isSubtag_iff.mp hd).2.2 c hc)
      rw [hs]
    · simp only [hd]
      rfl
  toLower_of_read? h := by
    simp only [region?] at h
    split at h
    · rw [← Option.some.inj h, toLower_toUpper]
    · obtain ⟨-, hv⟩ := Option.ite_none_right_eq_some.mp h
      rw [← Option.some.inj hv]

theorem ignoresCase_variant? : IgnoresCase variant? where
  read?_toLower s := by
    have htake : (s.toLower.toList.take 1).all Char.isDigit =
        (s.toList.take 1).all Char.isDigit := by
      simp [toList_toLower, ← List.map_take, List.all_map, Function.comp_def, isDigit_toLower]
    simp only [variant?, isSubtag_toLower isAlphanum_toLower, toLower_toLower, htake]
  toLower_of_read? h := by
    simp only [variant?] at h
    split at h
    · rw [← Option.some.inj h, toLower_toLower]
    · obtain ⟨-, hv⟩ := Option.ite_none_right_eq_some.mp h
      rw [← Option.some.inj hv, toLower_toLower]

/-! Scripts, regions and variants are told apart by their lengths and first characters. -/

theorem script?_eq_none_of_length_lt (h : s.toList.length < 4) : script? s = none := by
  simp [script?, isSubtag_eq_false_of_length_lt h]

theorem variant?_eq_none_of_length_lt (h : s.toList.length < 4) : variant? s = none := by
  have hlong : s.toList.length < 5 := by omega
  simp [variant?, isSubtag_eq_false_of_length_lt h, isSubtag_eq_false_of_length_lt hlong]

theorem region?_eq_none_of_length_lt (h : s.toList.length < 2) : region? s = none := by
  have hlong : s.toList.length < 3 := by omega
  simp [region?, isSubtag_eq_false_of_length_lt h, isSubtag_eq_false_of_length_lt hlong]

theorem length_lt_of_region? (h : region? s = some v) : s.toList.length < 4 := by
  simp only [region?] at h
  split at h
  · have hlength := (isSubtag_iff.mp ‹_›).2.1
    omega
  · obtain ⟨hs, -⟩ := Option.ite_none_right_eq_some.mp h
    have hlength := (isSubtag_iff.mp hs).2.1
    omega

theorem script?_eq_none_of_region? (h : region? s = some v) : script? s = none :=
  script?_eq_none_of_length_lt (length_lt_of_region? h)

theorem region?_eq_none_of_variant? (h : variant? s = some v) : region? s = none := by
  rw [Option.eq_none_iff_forall_ne_some]
  intro u hu
  rw [variant?_eq_none_of_length_lt (length_lt_of_region? hu)] at h
  cases h

/-- A variant as long as a script starts with a digit. -/
theorem script?_eq_none_of_variant? (h : variant? s = some v) : script? s = none := by
  rw [script?, if_neg]
  intro hs
  obtain ⟨hleast, hmost, hletters⟩ := isSubtag_iff.mp hs
  simp only [variant?] at h
  split at h
  · rename_i hlong
    have hlower := (isSubtag_iff.mp hlong).1
    omega
  · obtain ⟨hshort, -⟩ := Option.ite_none_right_eq_some.mp h
    have hdigit := (Bool.and_eq_true_iff.mp hshort).2
    cases hcs : s.toList with
    | nil => simp [hcs] at hleast
    | cons c cs =>
      have hc : c.isDigit := by simpa [hcs] using hdigit
      have hletter := isAlpha_eq_false_of_isDigit hc
      rw [hletters c (by simp [hcs])] at hletter
      cases hletter

/-- The rest does not go on with parts of a language. -/
def EndsLanguage (rest : List String) : Prop :=
  ∀ s ∈ rest.head?, script? s = none ∧ region? s = none ∧ variant? s = none

/-- Each part is in canonical form, and so is the order of the variants. -/
structure IsCanonical (id : LanguageId) : Prop where
  language : language? id.language = some id.language
  script : ∀ s ∈ id.script, script? s = some s
  region : ∀ s ∈ id.region, region? s = some s
  variants : ∀ s ∈ id.variants, variant? s = some s
  sorted : id.variants.Pairwise (· < ·)

theorem optional_append (ho : ∀ s ∈ o, read (g s) = some s)
    (hrest : ∀ s ∈ rest.head?, read s = none) :
    optional read ((o.map g).toList ++ rest) = (o, rest) := by
  cases o with
  | some s => simp [optional, ho s rfl]
  | none =>
    cases rest with
    | nil => rfl
    | cons s rest => simp [optional, hrest s rfl]

theorem insertSorted_eq (s : String) (ss : List String) :
    insertSorted s ss = insertBy (fun t => t) s ss := by
  induction ss with
  | nil => rfl
  | cons t ss ih => rw [insertSorted, insertBy, ih]

theorem insertSorted_of_forall_lt (h : ∀ t ∈ ss, t < s) : insertSorted s ss = ss ++ [s] := by
  rw [insertSorted_eq, insertBy_of_forall_lt h]

theorem mem_insertSorted (h : t ∈ insertSorted s ss) : t = s ∨ t ∈ ss :=
  mem_insertBy (insertSorted_eq s ss ▸ h)

theorem sorted_insertSorted (h : ss.Pairwise (· < ·)) (hnew : s ∉ ss) :
    (insertSorted s ss).Pairwise (· < ·) := by
  rw [insertSorted_eq]
  exact sorted_insertBy h fun t ht he => hnew (he ▸ ht)

theorem variants?_append (hg : KeepsSubtags g) (hv : ∀ s ∈ vs, variant? s = some s)
    (hs : (found ++ vs).Pairwise (· < ·)) (hrest : ∀ s ∈ rest.head?, variant? s = none) :
    variants? found (vs.map g ++ rest) = some (found ++ vs, rest) := by
  induction vs generalizing found with
  | nil =>
    cases rest with
    | nil => simp [variants?]
    | cons s rest => simp [variants?, hrest s rfl]
  | cons s vs ih =>
    have hread : variant? (g s) = some s :=
      (hg ignoresCase_variant? s).trans (hv s List.mem_cons_self)
    have hbefore : ∀ t ∈ found, t < s := fun t ht =>
      (List.pairwise_append.mp hs).2.2 t ht s List.mem_cons_self
    have hnew : s ∉ found := fun hmem => String.lt_irrefl s (hbefore s hmem)
    have hs' : (found ++ [s] ++ vs).Pairwise (· < ·) := by simpa using hs
    rw [List.map_cons, List.cons_append, variants?, hread]
    simp only [if_neg hnew, insertSorted_of_forall_lt hbefore]
    rw [ih (fun t ht => hv t (List.mem_cons_of_mem s ht)) hs', List.append_assoc]
    rfl

/-- A language in canonical form is read back, however its letter case was changed. -/
theorem read?_append (hg : KeepsSubtags g) (h : id.IsCanonical) (hrest : EndsLanguage rest) :
    read? (id.parts.map g ++ rest) = some (id, rest) := by
  have hlanguage : language? (g id.language) = some id.language :=
    (hg ignoresCase_language? _).trans h.language
  have hvariants : variants? [] (id.variants.map g ++ rest) = some (id.variants, rest) :=
    variants?_append hg h.variants h.sorted fun s hs => (hrest s hs).2.2
  have hregion : optional region? ((id.region.map g).toList ++ (id.variants.map g ++ rest)) =
      (id.region, id.variants.map g ++ rest) := by
    apply optional_append
    · intro s hs
      rw [hg ignoresCase_region?, h.region s hs]
    · apply forall_mem_head?_append
      · intro s hs
        obtain ⟨t, ht, rfl⟩ := List.mem_map.mp hs
        rw [hg ignoresCase_region?, region?_eq_none_of_variant? (h.variants t ht)]
      · exact fun s hs => (hrest s hs).2.1
  have hscript : optional script? ((id.script.map g).toList ++
      ((id.region.map g).toList ++ (id.variants.map g ++ rest))) =
        (id.script, (id.region.map g).toList ++ (id.variants.map g ++ rest)) := by
    apply optional_append
    · intro s hs
      rw [hg ignoresCase_script?, h.script s hs]
    · apply forall_mem_head?_append
      · intro s hs
        obtain ⟨t, ht, rfl⟩ := Option.map_eq_some_iff.mp (Option.mem_toList.mp hs)
        rw [hg ignoresCase_script?, script?_eq_none_of_region? (h.region t ht)]
      · apply forall_mem_head?_append
        · intro s hs
          obtain ⟨t, ht, rfl⟩ := List.mem_map.mp hs
          rw [hg ignoresCase_script?, script?_eq_none_of_variant? (h.variants t ht)]
        · exact fun s hs => (hrest s hs).1
  have hparts : id.parts.map g ++ rest = g id.language :: ((id.script.map g).toList ++
      ((id.region.map g).toList ++ (id.variants.map g ++ rest))) := by
    simp [parts, Option.toList_map]
  rw [hparts, read?, hlanguage]
  simp only [Option.bind_eq_bind, Option.bind_some, hscript, hregion, hvariants]

/-! What is read is in canonical form. -/

theorem read_of_optional (hread : IgnoresCase read) (h : optional read ss = (o, rest)) :
    ∀ s ∈ o, read s = some s := by
  rintro s rfl
  cases ss with
  | nil => cases h
  | cons t ss =>
    simp only [optional] at h
    cases ht : read t with
    | none =>
      rw [ht] at h
      cases h
    | some u =>
      rw [ht] at h
      cases h
      exact hread.read?_of_read? ht

theorem sorted_variants? (h : variants? found ss = some (vs, rest))
    (hs : found.Pairwise (· < ·)) (hv : ∀ s ∈ found, variant? s = some s) :
    vs.Pairwise (· < ·) ∧ ∀ s ∈ vs, variant? s = some s := by
  induction ss generalizing found with
  | nil =>
    cases h
    exact ⟨hs, hv⟩
  | cons t ss ih =>
    simp only [variants?] at h
    cases ht : variant? t with
    | none =>
      rw [ht] at h
      cases h
      exact ⟨hs, hv⟩
    | some v =>
      simp only [ht] at h
      split at h
      · cases h
      · rename_i hnew
        refine ih h (sorted_insertSorted hs hnew) ?_
        intro s hmem
        obtain rfl | hmem := mem_insertSorted hmem
        · exact ignoresCase_variant?.read?_of_read? ht
        · exact hv s hmem

theorem isCanonical_of_read? (h : read? ss = some (id, rest)) : id.IsCanonical := by
  cases ss with
  | nil => cases h
  | cons s ss =>
    obtain ⟨language, hlanguage, h⟩ := Option.bind_eq_some_iff.mp h
    cases hscript : optional script? ss with | mk script afterScript
    cases hregion : optional region? afterScript with | mk region afterRegion
    simp only [hscript, hregion] at h
    obtain ⟨⟨variants, afterVariants⟩, hvariants, h⟩ := Option.bind_eq_some_iff.mp h
    cases h
    obtain ⟨hsorted, hv⟩ := sorted_variants? hvariants .nil (List.forall_mem_nil _)
    exact {
      language := ignoresCase_language?.read?_of_read? hlanguage
      script := read_of_optional ignoresCase_script? hscript
      region := read_of_optional ignoresCase_region? hregion
      variants := hv
      sorted := hsorted }

end LanguageId
end Phrasebook
