import Mathlib.Data.List.Forall2
import Phrasebook.Proofs.Memory
import Phrasebook.Proofs.Segments

/-! What the text of a template is: the leftmost error if there is one, else the segments in order,
each placeholder as what it makes of its value. -/
namespace Phrasebook

/-- Why a placeholder has no formatter. -/
def Placeholder.fault? (p : Placeholder) : Option PlaceholderError :=
  match p.formatter with
  | .ok _ => none
  | .error e => some e

theorem Placeholder.fault?_eq_some_iff {p : Placeholder} {e : PlaceholderError} :
    p.fault? = some e ↔ p.formatter = .error e := by
  simp only [fault?]
  cases p.formatter <;> simp

/-- What a placeholder makes of its value, if it has one. -/
def Placeholder.outcome? (settings : CurrencySettings) (locales : List String) (values : Values)
    (p : Placeholder) : Option (Except Failure String) :=
  match p.formatter, values.get? p.name with
  | .ok f, some v => some (f.format (m := Id) .direct settings locales v)
  | _, _ => none

/-- Why a placeholder cannot show its value. -/
def Placeholder.failure? (settings : CurrencySettings) (locales : List String) (values : Values)
    (p : Placeholder) : Option Failure :=
  match p.outcome? settings locales values with
  | some (.error e) => some e
  | _ => none

/-- The text of a segment with values: a placeholder without one stays as it was written. -/
def Segment.shown (settings : CurrencySettings) (locales : List String) (values : Values) :
    Segment → String
  | .literal text => text
  | .placeholder p =>
    match p.outcome? settings locales values with
    | some (.ok text) => text
    | _ => p.source

namespace Template

/-- The segments as they show, one after the other, unless a placeholder cannot show its value. The
leftmost such placeholder counts. -/
def shown (settings : CurrencySettings) (locales : List String) (values : Values) (t : Template) :
    Except Failure String :=
  match t.placeholders.findSome? (Placeholder.failure? settings locales values) with
  | some e => .error e
  | none => .ok (String.join (t.segments.map (Segment.shown settings locales values)))

/-- The text of a template. The leftmost placeholder without a formatter counts before everything
else, also if there are no values. -/
def meaning (settings : CurrencySettings) (values : Option Values) (locales : List String)
    (t : Template) : Except PhraseError String :=
  match t.placeholders.findSome? Placeholder.fault?, values with
  | some e, _ => .error (.placeholder e)
  | none, none => .ok t.source
  | none, some values => (t.shown settings locales values).mapError .value

variable {settings : CurrencySettings} {locales : List String} {values : Values}
  {segments : List Segment} {s : Segment} {part : Part} {parts : List Part} {e : PlaceholderError}

theorem findSome?_placeholders_cons {ε : Type} (f : Placeholder → Option ε) :
    (placeholders ⟨s :: segments⟩).findSome? f =
      (s.placeholder?.bind f).or ((placeholders ⟨segments⟩).findSome? f) := by
  cases s with
  | literal text => rfl
  | placeholder p =>
    simp only [placeholders, List.filterMap_cons, Segment.placeholder?, List.findSome?_cons,
      Option.bind_some]
    cases f p <;> rfl

theorem ofSegment_of_fault (h : s.placeholder?.bind Placeholder.fault? = some e) :
    Part.ofSegment s = .error e := by
  cases s with
  | literal text => cases h
  | placeholder p =>
    simp only [Segment.placeholder?, Option.bind_some, Placeholder.fault?] at h
    simp only [Part.ofSegment]
    cases hf : p.formatter with
    | error reason =>
      rw [hf] at h
      cases h
      rfl
    | ok f =>
      rw [hf] at h
      cases h

theorem ofSegment_of_no_fault (h : s.placeholder?.bind Placeholder.fault? = none) :
    ∃ part, Part.ofSegment s = .ok part := by
  cases s with
  | literal text => exact ⟨_, rfl⟩
  | placeholder p =>
    simp only [Segment.placeholder?, Option.bind_some, Placeholder.fault?] at h
    simp only [Part.ofSegment]
    cases hf : p.formatter with
    | error reason =>
      rw [hf] at h
      cases h
    | ok f => exact ⟨_, rfl⟩

theorem partsOf_of_fault
    (h : (placeholders ⟨segments⟩).findSome? Placeholder.fault? = some e) :
    Message.partsOf segments = .error e := by
  induction segments with
  | nil => cases h
  | cons s segments ih =>
    rw [findSome?_placeholders_cons] at h
    cases hs : s.placeholder?.bind Placeholder.fault? with
    | some reason =>
      rw [hs] at h
      cases h
      simp only [Message.partsOf, ofSegment_of_fault hs]
      rfl
    | none =>
      rw [hs] at h
      obtain ⟨part, hpart⟩ := ofSegment_of_no_fault hs
      simp only [Message.partsOf, hpart, ih h]
      rfl

theorem partsOf_of_no_fault
    (h : (placeholders ⟨segments⟩).findSome? Placeholder.fault? = none) :
    ∃ parts, Message.partsOf segments = .ok parts ∧
      List.Forall₂ (fun s part => Part.ofSegment s = .ok part) segments parts := by
  induction segments with
  | nil => exact ⟨[], rfl, .nil⟩
  | cons s segments ih =>
    rw [findSome?_placeholders_cons] at h
    obtain ⟨hs, hsegments⟩ := Option.or_eq_none_iff.mp h
    obtain ⟨part, hpart⟩ := ofSegment_of_no_fault hs
    obtain ⟨parts, hparts, hall⟩ := ih hsegments
    refine ⟨part :: parts, ?_, .cons hpart hall⟩
    simp only [Message.partsOf, hpart, hparts]
    rfl

theorem render_ofSegment (h : Part.ofSegment s = .ok part) :
    part.render (m := Id) .direct settings locales values =
      match s.placeholder?.bind (Placeholder.failure? settings locales values) with
      | some e => .error e
      | none => .ok (s.shown settings locales values) := by
  cases s with
  | literal text =>
    cases h
    rfl
  | placeholder p =>
    simp only [Part.ofSegment] at h
    simp only [Segment.placeholder?, Option.bind_some, Placeholder.failure?, Segment.shown,
      Placeholder.outcome?]
    cases hf : p.formatter with
    | error reason =>
      rw [hf] at h
      cases h
    | ok f =>
      rw [hf] at h
      cases h
      simp only [Part.render]
      cases values.get? p.name with
      | none => rfl
      | some v =>
        dsimp only
        generalize f.format (m := Id) .direct settings locales v = result
        cases result <;> rfl

theorem renderParts_of_forall₂
    (h : List.Forall₂ (fun s part => Part.ofSegment s = .ok part) segments parts) :
    Message.renderParts (m := Id) .direct settings locales values parts =
      shown settings locales values ⟨segments⟩ := by
  induction h with
  | nil => rfl
  | @cons s part segments parts hpart _ ih =>
    rw [Message.renderParts, render_ofSegment hpart, ih]
    simp only [shown, findSome?_placeholders_cons, List.map_cons, String.join_cons]
    cases s.placeholder?.bind (Placeholder.failure? settings locales values) with
    | some e => rfl
    | none =>
      cases (placeholders ⟨segments⟩).findSome? (Placeholder.failure? settings locales values) <;>
        rfl

/-- Where no placeholder has a value, a template shows itself. -/
theorem join_shown_of_no_outcome
    (h : ∀ p ∈ placeholders ⟨segments⟩, p.outcome? settings locales values = none) :
    String.join (segments.map (Segment.shown settings locales values)) = source ⟨segments⟩ := by
  simp only [source]
  congr 1
  apply List.map_congr_left
  intro s hs
  cases s with
  | literal text => rfl
  | placeholder p =>
    have hp : p ∈ placeholders ⟨segments⟩ := List.mem_filterMap.mpr ⟨_, hs, rfl⟩
    simp only [Segment.shown, h p hp, Segment.source]

theorem meaning_of_no_outcome {t : Template} {values : Option Values}
    (hfault : t.placeholders.findSome? Placeholder.fault? = none)
    (h : ∀ v, values = some v → ∀ p ∈ t.placeholders, p.outcome? settings locales v = none) :
    t.meaning settings values locales = .ok t.source := by
  simp only [meaning, hfault]
  cases values with
  | none => rfl
  | some v =>
    have hv : ∀ p ∈ t.placeholders, p.outcome? settings locales v = none := h v rfl
    have hfailure :
        t.placeholders.findSome? (Placeholder.failure? settings locales v) = none := by
      apply List.findSome?_eq_none_iff.mpr
      intro p hp
      simp only [Placeholder.failure?, hv p hp]
    simp only [shown, hfailure]
    exact congrArg Except.ok (join_shown_of_no_outcome hv)

/-- Reading a template and showing its parts gives what the template means. -/
theorem fillTemplate_eq_meaning (s : String) (values : Option Values) :
    fillTemplate (m := Id) .direct settings s values locales =
      (ofText s).meaning settings values locales := by
  have hsource : (ofText s).source = s := source_ofText s
  simp only [fillTemplate, Message.ofText?]
  generalize ofText s = t at hsource ⊢
  subst hsource
  by_cases hplain : t.isPlain
  · -- A plain template is not rendered, but rendering it would give its source as well.
    have hnone : t.placeholders = [] := List.isEmpty_iff.mp hplain
    rw [if_pos hplain, meaning_of_no_outcome (by simp [hnone]) (by simp [hnone])]
    rfl
  · rw [if_neg hplain]
    cases hfault : t.placeholders.findSome? Placeholder.fault? with
    | some e =>
      simp only [partsOf_of_fault hfault, meaning, hfault]
      rfl
    | none =>
      obtain ⟨parts, hparts, hall⟩ := partsOf_of_no_fault hfault
      simp only [hparts, meaning, hfault]
      cases values with
      | none => rfl
      | some values =>
        exact congrArg (Except.mapError PhraseError.value) (renderParts_of_forall₂ hall)

end Template

/-- A text cannot be read just if a placeholder has no formatter. The leftmost one is told. -/
theorem Message.ofText?_eq_error_iff {text : String} {e : PlaceholderError} :
    ofText? text = .error e ↔
      (Template.ofText text).placeholders.findSome? Placeholder.fault? = some e := by
  simp only [ofText?]
  generalize Template.ofText text = t
  by_cases hplain : t.isPlain
  · have hnone : t.placeholders = [] := List.isEmpty_iff.mp hplain
    simp [hplain, hnone]
  · rw [if_neg hplain]
    cases hfault : t.placeholders.findSome? Placeholder.fault? with
    | some reason =>
      rw [Template.partsOf_of_fault hfault]
      simp [Functor.map, Except.map]
    | none =>
      obtain ⟨parts, hparts, -⟩ := Template.partsOf_of_no_fault hfault
      rw [hparts]
      simp [Functor.map, Except.map]

end Phrasebook
