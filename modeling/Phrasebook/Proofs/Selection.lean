import Phrasebook.Proofs.Meaning
import Phrasebook.Proofs.WrittenClauses

/-! Choices between texts. A select placeholder shows the text that its clauses have last for the
choice, and nothing for a choice without a clause. -/
namespace Phrasebook
open Text

namespace Clauses
variable {kind : SelectorKind}

theorem isBalanced_source (w : Written kind) : IsBalanced w.source := by
  have hclauses : IsBalanced (w.clauses.flatMap Clause.Written.source) := by
    induction w.clauses with
    | nil => rfl
    | cons clause clauses ih => exact isBalanced_append (Clause.isBalanced_source clause) ih
  have hafter : IsBalanced w.after :=
    depthAfter_of_no_brace fun c hc => (w.isSeparator_after c hc).2.2
  exact isBalanced_append hclauses hafter

theorem brace_mem_source {w : Written kind} (h : w.clauses ≠ []) : '{' ∈ w.source := by
  cases hw : w.clauses with
  | nil => exact absurd hw h
  | cons clause clauses => simp [Written.source, Clause.Written.source, hw]

/-- White space in front of clauses makes no difference. -/
theorem readAll_dropWhile (cs : List Char) :
    Clause.readAll kind (cs.dropWhile isBlank) = Clause.readAll kind cs := by
  have hblank : Clause.IsSeparator (cs.takeWhile isBlank) :=
    Clause.isSeparator_of_isBlank fun c hc => List.mem_takeWhile_imp hc
  rw [← Clause.readAll_separator hblank, List.takeWhile_append_dropWhile]

end Clauses

namespace Placeholder
variable {kind body : List Char}

theorem isBalanced_dropWhile (hb : IsBalanced body) : IsBalanced (body.dropWhile isBlank) := by
  have hblank : depthAfter 0 (body.takeWhile isBlank) = some 0 :=
    depthAfter_of_no_brace fun c hc =>
      (Clause.isSeparator_of_isBlank (fun _ h => List.mem_takeWhile_imp h) c hc).2.2
  rw [IsBalanced, ← List.takeWhile_append_dropWhile (p := isBlank) (l := body), depthAfter_append,
    hblank] at hb
  exact hb

/-- Balanced text with a group in it is a format, but for the white space in front. -/
theorem isFormat_dropWhile (hk : String.ofList kind ∈ clauseKinds) (hb : IsBalanced body)
    (hg : '{' ∈ body) : IsFormat kind (body.dropWhile isBlank) := by
  refine Or.inr ⟨hk, isBalanced_dropWhile hb, ?_, startsOutside_dropWhile⟩
  rw [← List.takeWhile_append_dropWhile (p := isBlank) (l := body)] at hg
  rcases List.mem_append.mp hg with hg | hg
  · exact absurd (List.mem_takeWhile_imp hg) (by decide)
  · exact hg

/-- The derivation of a placeholder with clauses, one space after each comma. -/
def Derivation.ofClauses (name : List Char) (hname : isWord name) (kind : List Char)
    (hkind : isWord kind) (hk : String.ofList kind ∈ clauseKinds) (body : List Char)
    (hb : IsBalanced body) (hg : '{' ∈ body) : Derivation :=
  .formatted name hname [' '] ⟨List.cons_ne_nil _ _, List.forall_mem_singleton.mpr rfl⟩ kind hkind
    (' ' :: body.takeWhile isBlank)
    ⟨List.cons_ne_nil _ _, List.forall_mem_cons.mpr ⟨rfl, fun _ h => List.mem_takeWhile_imp h⟩⟩
    (body.dropWhile isBlank) (isFormat_dropWhile hk hb hg)

theorem Derivation.text_ofClauses {name : List Char} (hname : isWord name) (hkind : isWord kind)
    (hk : String.ofList kind ∈ clauseKinds) (hb : IsBalanced body) (hg : '{' ∈ body) :
    (ofClauses name hname kind hkind hk body hb hg).text =
      '{' :: name ++ ", ".toList ++ kind ++ ", ".toList ++ body ++ ['}'] := by
  simp [ofClauses, Derivation.text, Derivation.name, afterName, List.takeWhile_append_dropWhile]

end Placeholder

namespace Template
variable {settings : CurrencySettings} {locales : List String} {values : Values} {f : Formatter}
  {front back : List Char} {d : Placeholder.Derivation} {v : Value} {text : String}

/-- Literal text around one placeholder stays as it is. -/
theorem meaning_of_single (hfront : '{' ∉ front) (hback : '{' ∉ back)
    (hf : d.placeholder.formatter = .ok f) (hv : values.get? d.placeholder.name = some v)
    (ht : f.format (m := Id) .direct settings locales v = .ok text) :
    (Template.mk (scan (front ++ (d.text ++ back)))).meaning settings (some values) locales =
      .ok (.ofList front ++ text ++ .ofList back) := by
  have hscan : scan (front ++ (d.text ++ back)) =
      front.foldr consLiteral (.placeholder d.placeholder :: back.foldr consLiteral []) := by
    rw [scan_append_of_no_brace hfront, scan_text_append]
    have hb : scan (back ++ []) = back.foldr consLiteral (scan []) := scan_append_of_no_brace hback
    rw [List.append_nil, scan] at hb
    rw [hb]
  have hone : placeholders ⟨scan (front ++ (d.text ++ back))⟩ = [d.placeholder] := by
    have hnone : placeholders ⟨back.foldr consLiteral []⟩ = placeholders ⟨[]⟩ :=
      placeholders_foldr_consLiteral back
    rw [hscan, placeholders_foldr_consLiteral]
    simp only [placeholders, List.filterMap_cons, Segment.placeholder?] at hnone ⊢
    rw [hnone]
    rfl
  have houtcome : d.placeholder.outcome? settings locales values = some (.ok text) := by
    simp only [Placeholder.outcome?, hf, hv, ht]
  have hjoin : String.join ((scan (front ++ (d.text ++ back))).map
      (Segment.shown settings locales values)) = .ofList front ++ text ++ .ofList back := by
    rw [hscan, join_map_foldr_consLiteral front fun _ => rfl, List.map_cons, String.join_cons,
      join_map_foldr_consLiteral back fun _ => rfl]
    simp [Segment.shown, houtcome, String.append_assoc]
  simp only [meaning, shown, hone, hjoin, List.findSome?_cons, List.findSome?_nil,
    Placeholder.fault?, hf, Placeholder.failure?, houtcome]
  rfl

end Template

theorem SelectFormat.format_source (w : Clauses.Written .select) (choice : String) :
    (ofText (.ofList (w.source.dropWhile isBlank))).format choice = (w.last? choice).getD "" := by
  have hclauses : Clauses.ofText .select (.ofList (w.source.dropWhile isBlank)) =
      Clauses.ofText .select (.ofList w.source) := by
    simp only [Clauses.ofText, String.toList_ofList, Clauses.readAll_dropWhile]
  rw [format, ofText, hclauses, Clauses.get?_ofText_source]

/-- Whatever the choice, a select placeholder shows the last text that was written for it, and
nothing if there is none; the text around the placeholder stays. -/
theorem Renderer.fill_select (settings : CurrencySettings) (caches : FormatCaches) (key : String)
    (locales : List String) (front name back choice : String) (w : Clauses.Written .select)
    (hname : isWord name.toList) (hw : w.clauses ≠ []) (hfront : '{' ∉ front.toList)
    (hback : '{' ∉ back.toList) :
    (fill key (front ++ "\x7b" ++ name ++ ", select, " ++ .ofList w.source ++ "\x7d" ++ back)
        (some (.ofList [(name, .text choice)])) locales { settings, caches }).1 =
      .ok (front ++ (w.last? choice).getD "" ++ back) := by
  have hword : isWord "select".toList := by decide
  have hkind : String.ofList "select".toList ∈ clauseKinds := by decide
  have hb : IsBalanced w.source := Clauses.isBalanced_source w
  have hg : '{' ∈ w.source := Clauses.brace_mem_source hw
  let d : Placeholder.Derivation :=
    .ofClauses name.toList hname "select".toList hword hkind w.source hb hg
  have htemplate : front ++ "\x7b" ++ name ++ ", select, " ++ .ofList w.source ++ "\x7d" ++ back =
      .ofList (front.toList ++ (d.text ++ back.toList)) := by
    rw [Placeholder.Derivation.text_ofClauses hname hword hkind hb hg, ← String.toList_inj]
    simp
  have hf : d.placeholder.formatter =
      .ok (.select (.ofText (.ofList (w.source.dropWhile isBlank)))) := rfl
  have hv : (Dictionary.ofList [(name, Value.text choice)]).get? d.placeholder.name =
      some (.text choice) := by
    have hd : d.placeholder.name = name := String.ofList_toList
    rw [hd, Dictionary.get?_ofList]
    simp
  have ht : (Formatter.select (.ofText (.ofList (w.source.dropWhile isBlank)))).format (m := Id)
      .direct settings locales (.text choice) = .ok ((w.last? choice).getD "") :=
    congrArg Except.ok (SelectFormat.format_source w choice)
  rw [fill_fst (agreesOn_of_forgotten rfl), Template.fillTemplate_eq_meaning, htemplate,
    Template.ofText, String.toList_ofList, Template.meaning_of_single hfront hback hf hv ht,
    String.ofList_toList, String.ofList_toList]

/-- A text with braces in it, a text that is replaced, and a choice without a clause. -/
theorem Renderer.fill_select_nested :
    ∃ w : Clauses.Written .select, w.source = "a{1} b {x {y}} a {2}".toList ∧ w.clauses ≠ [] ∧
      isWord "who".toList ∧ '{' ∉ "<\x7d ".toList ∧ '{' ∉ "\x7d>".toList ∧
      (fill "key" "<\x7d {who, select, a{1} b {x {y}} a {2}}\x7d>"
        (some (.ofList [("who", .text "a")])) ["en"] {}).1 = .ok "<\x7d 2\x7d>" ∧
      (fill "key" "<\x7d {who, select, a{1} b {x {y}} a {2}}\x7d>"
        (some (.ofList [("who", .text "b")])) ["en"] {}).1 = .ok "<\x7d x {y}\x7d>" ∧
      (fill "key" "<\x7d {who, select, a{1} b {x {y}} a {2}}\x7d>"
        (some (.ofList [("who", .text "c")])) ["en"] {}).1 = .ok "<\x7d \x7d>" := by
  have hspace : ∀ c ∈ [' '], isBlank c := List.forall_mem_singleton.mpr rfl
  let w : Clauses.Written .select :=
    { clauses :=
        [⟨[], by decide, ['a'], .word (by decide), [], by simp, ['1'], by decide⟩,
          ⟨[' '], by decide, ['b'], .word (by decide), [' '], hspace, "x {y}".toList, by decide⟩,
          ⟨[' '], by decide, ['a'], .word (by decide), [' '], hspace, ['2'], by decide⟩]
      after := []
      isSeparator_after := by decide }
  have h : ∀ choice, (fill "key" ("<\x7d " ++ "\x7b" ++ "who" ++ ", select, " ++ .ofList w.source ++
      "\x7d" ++ "\x7d>") (some (.ofList [("who", .text choice)])) ["en"] {}).1 =
        .ok ("<\x7d " ++ (w.last? choice).getD "" ++ "\x7d>") := fun choice =>
    fill_select {} {} "key" ["en"] "<\x7d " "who" "\x7d>" choice w (by decide) (List.cons_ne_nil _ _)
      (by decide) (by decide)
  exact ⟨w, rfl, List.cons_ne_nil _ _, by decide, by decide, by decide, h "a", h "b", h "c"⟩

end Phrasebook
