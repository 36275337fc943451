import Mathlib.Data.List.Chain
import Phrasebook.Proofs.Grammar

/-! The segments of a template: together they are the text that was read, literals are as long as
they can be, and no placeholder starts inside one. -/
namespace Phrasebook.Template
open Placeholder
variable {c : Char} {cs rest : List Char} {segments : List Segment} {p : Placeholder} {n : Nat}

/-- If literals show as they are, one more literal character is one more in front. -/
theorem join_map_consLiteral {shown : Segment → String} (h : ∀ text, shown (.literal text) = text) :
    String.join ((consLiteral c segments).map shown) =
      String.singleton c ++ String.join (segments.map shown) := by
  cases segments with
  | nil => simp [consLiteral, h]
  | cons s segments => cases s <;> simp [consLiteral, h, String.append_assoc]

theorem source_consLiteral :
    source ⟨consLiteral c segments⟩ = String.singleton c ++ source ⟨segments⟩ :=
  join_map_consLiteral fun _ => rfl

/-- Nothing of a text is lost or moved. -/
theorem source_scan : source ⟨scan cs⟩ = .ofList cs := by
  fun_induction scan cs with
  | case1 => rfl
  | case2 c cs p rest h _ ih =>
    have hcut := (source_of_read? h).1
    rw [← hcut, String.ofList_append, String.ofList_toList, ← ih]
    simp [source, Segment.source]
  | case3 c cs h ih => rw [source_consLiteral, ih, ← String.ofList_cons]

theorem source_ofText (s : String) : (ofText s).source = s := by
  rw [ofText, source_scan, String.ofList_toList]

/-- One of two neighbours is a placeholder. -/
def Apart (s t : Segment) : Prop :=
  s.placeholder?.isSome ∨ t.placeholder?.isSome

theorem ne_empty_of_mem_consLiteral {text : String}
    (h : ∀ text, .literal text ∈ segments → text ≠ "")
    (hm : .literal text ∈ consLiteral c segments) : text ≠ "" := by
  cases segments with
  | nil =>
    simp only [consLiteral, List.mem_singleton, Segment.literal.injEq] at hm
    simp [hm]
  | cons s segments =>
    cases s with
    | literal front =>
      rcases List.mem_cons.mp hm with hm | hm
      · rw [Segment.literal.inj hm]
        simp
      · exact h text (List.mem_cons_of_mem _ hm)
    | placeholder p =>
      rcases List.mem_cons.mp hm with hm | hm
      · rw [Segment.literal.inj hm]
        simp
      · exact h text hm

theorem isChain_consLiteral (h : segments.IsChain Apart) :
    (consLiteral c segments).IsChain Apart := by
  cases segments with
  | nil => exact List.isChain_singleton _
  | cons s segments =>
    cases s with
    | literal front =>
      obtain ⟨hfront, htail⟩ := List.isChain_cons.mp h
      refine List.isChain_cons.mpr ⟨?_, htail⟩
      intro t ht
      rcases hfront t ht with hs | ht
      · exact absurd hs (by simp [Segment.placeholder?])
      · exact Or.inr ht
    | placeholder p => exact List.isChain_cons_cons.mpr ⟨Or.inr rfl, h⟩

theorem ne_empty_of_mem_scan {text : String} (h : .literal text ∈ scan cs) : text ≠ "" := by
  fun_induction scan cs generalizing text with
  | case1 => simp at h
  | case2 c cs p rest _ _ ih =>
    rcases List.mem_cons.mp h with h | h
    · cases h
    · exact ih h
  | case3 c cs _ ih => exact ne_empty_of_mem_consLiteral (fun _ => ih) h

theorem isChain_scan : (scan cs).IsChain Apart := by
  fun_induction scan cs with
  | case1 => exact List.isChain_nil
  | case2 c cs p rest _ _ ih =>
    refine List.isChain_cons.mpr ⟨?_, ih⟩
    intro t _
    exact Or.inl rfl
  | case3 c cs _ ih => exact isChain_consLiteral ih

/-- The character at a position of the text that was read belongs to a literal. -/
def LiteralAt : List Segment → Nat → Prop
  | [], _ => False
  | .literal text :: segments, n =>
    n < text.length ∨ text.length ≤ n ∧ LiteralAt segments (n - text.length)
  | .placeholder p :: segments, n => p.source.length ≤ n ∧ LiteralAt segments (n - p.source.length)

theorem literalAt_consLiteral (h : LiteralAt (consLiteral c segments) (n + 1)) :
    LiteralAt segments n := by
  cases segments with
  | nil => simp [consLiteral, LiteralAt] at h
  | cons s segments =>
    cases s with
    | literal text =>
      simp only [consLiteral, LiteralAt, String.length_append, String.length_singleton] at h ⊢
      rcases h with h | ⟨hle, h⟩
      · left
        omega
      · right
        refine ⟨by omega, ?_⟩
        rwa [show n - text.length = n + 1 - (1 + text.length) by omega]
    | placeholder p => simpa [consLiteral, LiteralAt] using h

/-- Where a literal stands, no placeholder can be read. -/
theorem read?_drop_of_literalAt (h : LiteralAt (scan cs) n) : read? (cs.drop n) = none := by
  fun_induction scan cs generalizing n with
  | case1 => exact h.elim
  | case2 c cs p rest hread _ ih =>
    obtain ⟨hle, h⟩ := h
    have hcut := (source_of_read? hread).1
    have hskip : p.source.toList.drop n = [] := by
      apply List.drop_eq_nil_of_le
      rwa [String.length_toList]
    rw [← hcut, List.drop_append, hskip, List.nil_append, String.length_toList]
    exact ih h
  | case3 c cs hread ih =>
    cases n with
    | zero => exact hread
    | succ n => exact ih (literalAt_consLiteral h)

theorem mem_of_placeholder_mem_consLiteral (h : .placeholder p ∈ consLiteral c segments) :
    .placeholder p ∈ segments := by
  cases segments with
  | nil => simp [consLiteral] at h
  | cons s segments => cases s <;> simp_all [consLiteral]

theorem exists_derivation_of_mem_scan (h : .placeholder p ∈ scan cs) :
    ∃ d : Derivation, d.placeholder = p ∧ ∃ n, d.text <+: cs.drop n := by
  fun_induction scan cs with
  | case1 => simp at h
  | case2 c cs q rest hread _ ih =>
    obtain ⟨d, hd, hcut⟩ := read?_eq_some_iff.mp hread
    rcases List.mem_cons.mp h with h | h
    · cases h
      exact ⟨d, hd, 0, rest, hcut.symm⟩
    · obtain ⟨e, he, n, hn⟩ := ih h
      refine ⟨e, he, d.text.length + n, ?_⟩
      rwa [hcut, List.drop_length_add_append]
  | case3 c cs _ ih =>
    obtain ⟨d, hd, n, hn⟩ := ih (mem_of_placeholder_mem_consLiteral h)
    exact ⟨d, hd, n + 1, hn⟩

theorem literalAt_of_literals (h : ∀ s ∈ segments, s.placeholder? = none)
    (hn : n < (source ⟨segments⟩).length) : LiteralAt segments n := by
  induction segments generalizing n with
  | nil => simp [source] at hn
  | cons s segments ih =>
    cases s with
    | literal text =>
      simp only [source, List.map_cons, String.join_cons, Segment.source, String.length_append] at hn
      by_cases hlt : n < text.length
      · exact Or.inl hlt
      · right
        refine ⟨by omega, ih (fun s hs => h s (List.mem_cons_of_mem _ hs)) ?_⟩
        simp only [source]
        omega
    | placeholder p => exact absurd (h _ List.mem_cons_self) (by simp [Segment.placeholder?])

theorem isPlain_iff {t : Template} : t.isPlain ↔ ∀ s ∈ t.segments, s.placeholder? = none := by
  simp [isPlain, placeholders]

/-- A template is plain only if no placeholder can be derived anywhere in its text. -/
theorem isPlain_ofText_iff {s : String} :
    (ofText s).isPlain ↔ ∀ n, ∀ d : Derivation, ¬ d.text <+: s.toList.drop n := by
  rw [isPlain_iff]
  constructor
  · rintro h n d ⟨rest, hd⟩
    have hlt : n < s.length := by
      by_contra hge
      rw [List.drop_eq_nil_of_le (by rw [String.length_toList]; omega)] at hd
      exact d.text_ne_nil (List.append_eq_nil_iff.mp hd).1
    have hlen : n < (source ⟨scan s.toList⟩).length := by
      rwa [source_scan, String.ofList_toList]
    have hnone := read?_drop_of_literalAt (literalAt_of_literals h hlen)
    rw [← hd, d.read?_text_append] at hnone
    cases hnone
  · intro h s hs
    cases s with
    | literal text => rfl
    | placeholder p =>
      obtain ⟨d, -, n, hn⟩ := exists_derivation_of_mem_scan hs
      exact (h n d hn).elim

theorem scan_cons_of_ne (h : c ≠ '{') : scan (c :: cs) = consLiteral c (scan cs) := by
  have hread : read? (c :: cs) = none := by simp [read?, h]
  rw [scan]
  split
  · rename_i hr
    rw [hread] at hr
    cases hr
  · rfl

theorem scan_append_of_no_brace {front : List Char} (h : '{' ∉ front) :
    scan (front ++ cs) = front.foldr consLiteral (scan cs) := by
  induction front with
  | nil => rfl
  | cons c front ih =>
    have hc : c ≠ '{' := by
      rintro rfl
      exact h List.mem_cons_self
    have hfront : '{' ∉ front := fun hm => h (List.mem_cons_of_mem c hm)
    rw [List.cons_append, scan_cons_of_ne hc, ih hfront, List.foldr_cons]

theorem scan_text_append (d : Derivation) :
    scan (d.text ++ rest) = .placeholder d.placeholder :: scan rest := by
  have hread := d.read?_text_append rest
  rw [d.text_append] at hread ⊢
  rw [scan]
  split
  · rename_i hr
    rw [hread] at hr
    cases hr
    rfl
  · rename_i hr
    rw [hread] at hr
    cases hr

theorem join_map_foldr_consLiteral {shown : Segment → String} (front : List Char)
    (h : ∀ text, shown (.literal text) = text) :
    String.join ((front.foldr consLiteral segments).map shown) =
      .ofList front ++ String.join (segments.map shown) := by
  induction front with
  | nil => simp
  | cons c front ih =>
    rw [List.foldr_cons, join_map_consLiteral h, ih, String.ofList_cons, String.append_assoc]

theorem placeholders_foldr_consLiteral (front : List Char) :
    placeholders ⟨front.foldr consLiteral segments⟩ = placeholders ⟨segments⟩ := by
  induction front with
  | nil => rfl
  | cons c front ih =>
    rw [List.foldr_cons, ← ih]
    generalize front.foldr consLiteral segments = ss
    cases ss with
    | nil => rfl
    | cons s ss => cases s <;> rfl

/-- Reading a template loses no text, its literals hold text and stand apart, and it is plain only
if no placeholder can be derived anywhere in it. -/
theorem source_ofText_and_normal (s : String) :
    (ofText s).source = s ∧
      (∀ text, .literal text ∈ (ofText s).segments → text ≠ "") ∧
        (ofText s).segments.IsChain Apart ∧
          ((ofText s).isPlain ↔ ∀ n, ∀ d : Derivation, ¬ d.text <+: s.toList.drop n) := by
  refine ⟨source_ofText s, ?_, isChain_scan, isPlain_ofText_iff⟩
  intro text h
  exact ne_empty_of_mem_scan h

/-- A placeholder is derived where it stands, which is behind the text of the segments before it. -/
theorem exists_derivation_of_scan {front back : List Segment}
    (h : scan cs = front ++ .placeholder p :: back) :
    ∃ d : Derivation, d.placeholder = p ∧ d.text <+: cs.drop (source ⟨front⟩).length := by
  have hmem : .placeholder p ∈ scan cs := by simp [h]
  obtain ⟨d, rfl, -⟩ := exists_derivation_of_mem_scan hmem
  have hsource : .ofList cs = source ⟨front⟩ ++ .ofList d.text ++ source ⟨back⟩ := by
    rw [← source_scan, h]
    simp [source, Segment.source, Derivation.placeholder, String.append_assoc]
  have hcs : cs = (source ⟨front⟩).toList ++ (d.text ++ (source ⟨back⟩).toList) := by
    rw [← String.ofList_inj, hsource]
    simp [String.append_assoc]
  refine ⟨d, rfl, (source ⟨back⟩).toList, ?_⟩
  conv_rhs => rw [hcs]
  rw [List.drop_left' String.length_toList]

/-- Reading a template loses no text. It finds the placeholders of the grammar: each is derived where
it stands, nothing else is derived there, and nothing that can be derived starts inside a literal. -/
theorem ofText_derivations (s : String) :
    (ofText s).source = s ∧
    (∀ front p back, (ofText s).segments = front ++ .placeholder p :: back →
      ∃ d : Derivation, d.placeholder = p ∧ d.text = p.source.toList ∧
        d.text <+: s.toList.drop (source ⟨front⟩).length ∧
        ∀ e : Derivation, e.text <+: s.toList.drop (source ⟨front⟩).length → e = d) ∧
    ∀ n, LiteralAt (ofText s).segments n → ∀ d : Derivation, ¬ d.text <+: s.toList.drop n := by
  refine ⟨source_ofText s, ?_, ?_⟩
  · intro front p back h
    obtain ⟨d, rfl, hd⟩ := exists_derivation_of_scan h
    refine ⟨d, rfl, by simp [Derivation.placeholder], hd, ?_⟩
    rintro e ⟨rest, he⟩
    obtain ⟨rest', hrest⟩ := hd
    exact Derivation.eq_of_text_append (he.trans hrest.symm)
  · rintro n hn d ⟨rest, hd⟩
    have hnone := read?_drop_of_literalAt hn
    rw [← hd, d.read?_text_append] at hnone
    cases hnone

end Phrasebook.Template
