import Mathlib.Data.Finset.Dedup
import Mathlib.Data.List.Forall2
import Phrasebook.CommandLine
import Phrasebook.Proofs.Findings

/-! What a check of files counts and lists. The findings are listed by their places, and each file
is counted by its content; so there are as many findings as errors are counted. -/
namespace Phrasebook
variable {α β γ ι κ : Type}

/-- The values are listed that `Holds` finds at places, each at its own place, in the order of the
places. -/
def Lists (before : α → α → Prop) (Holds : α → β → Prop) (bs : List β) : Prop :=
  ∃ located : List (α × β), located.map Prod.snd = bs ∧
    located.Pairwise (fun x y => before x.1 y.1) ∧ ∀ a b, (a, b) ∈ located ↔ Holds a b

theorem pairwise_zipIdx (l : List ι) : l.zipIdx.Pairwise (·.2 < ·.2) := by
  have hrange := List.pairwise_lt_range' (s := 0) (n := l.length) 1
  rwa [← List.zipIdx_map_snd, List.pairwise_map] at hrange

namespace Lists
variable {before : α → α → Prop} {Holds Holds' : α → β → Prop} {bs : List β}

theorem congr (h : Lists before Holds bs) (hiff : ∀ a b, Holds a b ↔ Holds' a b) :
    Lists before Holds' bs := by
  obtain ⟨located, hvalues, hsorted, hmem⟩ := h
  exact ⟨located, hvalues, hsorted, fun a b => (hmem a b).trans (hiff a b)⟩

theorem map (f : β → γ) (h : Lists before Holds bs) :
    Lists before (fun a c => ∃ b, Holds a b ∧ f b = c) (bs.map f) := by
  obtain ⟨located, rfl, hsorted, hmem⟩ := h
  refine ⟨located.map fun x => (x.1, f x.2), by simp, ?_, ?_⟩
  · rw [List.pairwise_map]
    exact hsorted
  · intro a c
    simp [← hmem]

theorem singleton (a : α) (b : β) : Lists before (fun a' b' => a' = a ∧ b' = b) [b] := by
  refine ⟨[(a, b)], rfl, List.pairwise_singleton _ _, ?_⟩
  intro a' b'
  simp

/-- What is chosen from a list is listed by the positions in it. -/
theorem filterMap (f : ι → Option β) (l : List ι) :
    Lists (fun m n : ℕ => m < n) (fun n b => ∃ x, l[n]? = some x ∧ f x = some b)
      (l.filterMap f) := by
  refine ⟨l.zipIdx.filterMap fun e => (f e.1).map (e.2, ·), ?_, ?_, ?_⟩
  · calc (l.zipIdx.filterMap fun e => (f e.1).map (e.2, ·)).map Prod.snd
        = l.zipIdx.filterMap (f ∘ Prod.fst) := by simp [List.map_filterMap, Function.comp_def]
      _ = l.filterMap f := by rw [← List.filterMap_map, List.zipIdx_map_fst]
  · rw [List.pairwise_filterMap]
    apply (pairwise_zipIdx l).imp
    intro e e' hlt p hp p' hp'
    obtain ⟨b, -, rfl⟩ := Option.map_eq_some_iff.mp hp
    obtain ⟨b', -, rfl⟩ := Option.map_eq_some_iff.mp hp'
    exact hlt
  · intro n b
    simp [List.mem_filterMap, List.mk_mem_zipIdx_iff_getElem?]

/-- What is listed for each item is listed for all of them, if the items have keys in order. -/
theorem flatMap {before : κ → κ → Prop} {inner : α → α → Prop} {key : ι → κ} {l : List ι}
    {Holds : ι → α → β → Prop} {g : ι → List β}
    (hkeys : l.Pairwise fun x y => before (key x) (key y))
    (hg : ∀ x ∈ l, Lists inner (Holds x) (g x)) :
    Lists (Prod.Lex before inner) (fun p b => ∃ x ∈ l, key x = p.1 ∧ Holds x p.2 b)
      (l.flatMap g) := by
  induction l with
  | nil => exact ⟨[], rfl, List.Pairwise.nil, by simp⟩
  | cons x l ih =>
    obtain ⟨hx, hl⟩ := List.pairwise_cons.mp hkeys
    obtain ⟨front, hfront, hsorted, hmem⟩ := hg x List.mem_cons_self
    obtain ⟨back, hback, hsorted', hmem'⟩ := ih hl fun y hy => hg y (List.mem_cons_of_mem x hy)
    refine ⟨front.map (fun e => ((key x, e.1), e.2)) ++ back, ?_, ?_, ?_⟩
    · rw [List.map_append, List.map_map, hback, List.flatMap_cons, ← hfront]
      rfl
    · rw [List.pairwise_append, List.pairwise_map]
      refine ⟨?_, hsorted', ?_⟩
      · apply hsorted.imp
        intro e e' he
        exact Prod.Lex.right _ he
      · rintro e he ⟨⟨k, a⟩, b⟩ hb
        obtain ⟨p, -, rfl⟩ := List.mem_map.mp he
        obtain ⟨y, hy, rfl, -⟩ := (hmem' (k, a) b).mp hb
        exact Prod.Lex.left _ _ (hx y hy)
    · rintro ⟨k, a⟩ b
      rw [List.mem_append, hmem', List.mem_map]
      constructor
      · rintro (⟨e, he, heq⟩ | ⟨y, hy, hkey, hb⟩)
        · cases heq
          exact ⟨x, List.mem_cons_self, rfl, (hmem _ _).mp he⟩
        · exact ⟨y, List.mem_cons_of_mem x hy, hkey, hb⟩
      · rintro ⟨y, hy, hkey, hb⟩
        rcases List.mem_cons.mp hy with rfl | hy
        · left
          exact ⟨(a, b), (hmem a b).mpr hb, by rw [hkey]⟩
        · exact Or.inr ⟨y, hy, hkey, hb⟩

end Lists

namespace Finding

/-- What is wrong at a place of a file: at a position among the placeholders of the template of a
key, or, where there are no phrases, at the one place that such a file has. -/
inductive At (content : String) : String × ℕ → Finding → Prop where
  | malformed {e : Json.Error} (h : Json.readDictionary content = .error e) :
    At content ("", 0) (.malformed e)
  | placeholder {phrases : Phrases} {key text : String} {n : ℕ} {p : Placeholder}
    {e : PlaceholderError} (h : Json.readDictionary content = .ok phrases)
    (hkey : phrases.get? key = some text)
    (hp : (Template.ofText text).placeholders[n]? = some p) (he : p.formatter = .error e) :
    At content (key, n) (.placeholder key p.source e)

theorem ofPlaceholder?_eq_some_iff {key : String} {p : Placeholder} {finding : Finding} :
    ofPlaceholder? key p = some finding ↔
      ∃ e, p.formatter = .error e ∧ placeholder key p.source e = finding := by
  rw [ofPlaceholder?_eq, Option.map_eq_some_iff]
  simp only [Placeholder.fault?_eq_some_iff]

theorem lists_ofPhrases (t : Phrases) :
    Lists (Prod.Lex (· < ·) (· < ·))
      (fun (place : String × ℕ) finding => ∃ x ∈ t.entries, x.1 = place.1 ∧
        ∃ p, (Template.ofText x.2).placeholders[place.2]? = some p ∧
          ofPlaceholder? x.1 p = some finding) (ofPhrases t) :=
  Lists.flatMap t.sorted fun x _ => Lists.filterMap (ofPlaceholder? x.1) _

end Finding

namespace FileReport
variable {file content : String}

theorem lists_findings (file content : String) :
    Lists (Prod.Lex (· < ·) (· < ·)) (Finding.At content) (ofText file content).findings := by
  cases h : Json.readDictionary content with
  | error e =>
    simp only [ofText, h]
    apply (Lists.singleton ("", 0) (Finding.malformed e)).congr
    rintro place finding
    constructor
    · rintro ⟨rfl, rfl⟩
      exact .malformed h
    · rintro (hat | hat)
      · rw [h] at hat
        cases hat
        exact ⟨rfl, rfl⟩
      · rw [h] at hat
        cases hat
  | ok t =>
    rw [ofText_of_phrases h]
    apply (Finding.lists_ofPhrases t).congr
    rintro ⟨key, n⟩ finding
    constructor
    · rintro ⟨⟨_, text⟩, hentry, rfl, p, hp, hfinding⟩
      obtain ⟨e, he, rfl⟩ := Finding.ofPlaceholder?_eq_some_iff.mp hfinding
      exact .placeholder h (Dictionary.get?_eq_some_iff.mpr hentry) hp he
    · rintro (hat | ⟨hat, hkey, hp, he⟩)
      · rw [h] at hat
        cases hat
      · rw [h] at hat
        cases hat
        exact ⟨_, Dictionary.get?_eq_some_iff.mp hkey, rfl, _, hp,
          Finding.ofPlaceholder?_eq_some_iff.mpr ⟨_, he, rfl⟩⟩

end FileReport

theorem Dictionary.size_ofList (es : List (String × α)) :
    (Dictionary.ofList es).size = (es.map Prod.fst).dedup.length := by
  rw [size, ← List.length_map (f := Prod.fst)]
  apply List.Perm.length_eq
  rw [List.perm_ext_iff_of_nodup (nodup_keys _) (List.nodup_dedup _)]
  intro key
  rw [← isSome_get?_iff, get?_ofList, List.mem_dedup, List.lookup_isSome_iff]
  simp only [List.mem_reverse, List.mem_map, beq_iff_eq]
  exact exists_congr fun e => and_congr_right fun _ => eq_comm

theorem Finding.length_ofPhrases (t : Phrases) :
    (ofPhrases t).length = t.placeholders.countP fun p => p.fault?.isSome := by
  rw [ofPhrases, Phrases.placeholders, List.length_flatMap, List.countP_flatMap]
  apply congrArg List.sum
  apply List.map_congr_left
  intro x _
  calc (ofTemplate x.1 x.2).length
      = (Template.ofText x.2).placeholders.countP fun p => (ofPlaceholder? x.1 p).isSome :=
        List.length_filterMap_eq_countP
    _ = (Template.ofText x.2).placeholders.countP fun p => p.fault?.isSome := by
        simp only [ofPlaceholder?_eq, Option.isSome_map]

/-- The counts of messages, placeholders and errors for a content: an object of strings has a
message for each of its keys, and anything else is one error. -/
inductive FileReport.Counts (content : String) : ℕ → ℕ → ℕ → Prop where
  | malformed {fault : Json.Fault} (h : Json.readObject content.toList = .error fault) :
    Counts content 0 0 1
  | phrases {members : List (String × String)} (h : Json.readObject content.toList = .ok members) :
    Counts content (members.map Prod.fst).dedup.length
      (Phrases.placeholders (.ofList members)).length
      ((Phrases.placeholders (.ofList members)).countP fun p => p.fault?.isSome)

theorem FileReport.counts_ofText (file content : String) : Counts content
    (ofText file content).messages (ofText file content).placeholders
      (ofText file content).errors := by
  cases h : Json.readObject content.toList with
  | error fault =>
    have hread : Json.readDictionary content = .error (fault.locate content.toList) := by
      rw [Json.readDictionary, h]
    simp only [ofText, hread]
    exact .malformed h
  | ok members =>
    have hread : Json.readDictionary content = .ok (.ofList members) := by
      rw [Json.readDictionary, h]
    rw [ofText_of_phrases hread, Dictionary.size_ofList]
    exact .phrases h

/-- The errors are counted where the findings are listed. -/
theorem FileReport.errors_ofText (file content : String) :
    (ofText file content).errors = (ofText file content).findings.length := by
  cases h : Json.readDictionary content with
  | error e => simp only [ofText, h, List.length_singleton]
  | ok phrases => rw [ofText_of_phrases h, Finding.length_ofPhrases]

namespace Report
variable {content? : String → Option String} {files : List String}

/-- What is wrong at a place of a list of files: first the position of a file, then a place in
it. -/
def At (content? : String → Option String) (files : List String) (place : ℕ × String × ℕ)
    (problem : String × Finding) : Prop :=
  files[place.1]? = some problem.1 ∧
    ∃ content, content? problem.1 = some content ∧ Finding.At content place.2 problem.2

theorem lists_findings (h : ∀ file ∈ files, (content? file).isSome) :
    Lists (Prod.Lex (· < ·) (Prod.Lex (· < ·) (· < ·))) (At content? files)
      (findings ⟨files.map fun file => .ofText file ((content? file).getD "")⟩) := by
  have hfindings : findings ⟨files.map fun file => .ofText file ((content? file).getD "")⟩ =
      files.zipIdx.flatMap fun x =>
        (FileReport.ofText x.1 ((content? x.1).getD "")).findings.map fun f => (x.1, f) := by
    conv_lhs => rw [← List.zipIdx_map_fst 0 files]
    rw [findings, List.map_map, List.flatMap_map]
    apply List.flatMap_congr
    intro x _
    rw [Function.comp_apply, FileReport.file_ofText]
  rw [hfindings]
  have hfile : ∀ x ∈ files.zipIdx, Lists (Prod.Lex (· < ·) (· < ·))
      (fun place problem => ∃ finding,
        Finding.At ((content? x.1).getD "") place finding ∧ (x.1, finding) = problem)
      ((FileReport.ofText x.1 ((content? x.1).getD "")).findings.map fun f => (x.1, f)) :=
    fun x _ => (FileReport.lists_findings x.1 _).map _
  apply (Lists.flatMap (pairwise_zipIdx files) hfile).congr
  rintro ⟨i, place⟩ ⟨file, finding⟩
  constructor
  · rintro ⟨⟨name, j⟩, hmem, rfl, finding', hat, heq⟩
    cases heq
    have hi : files[j]? = some name := List.mk_mem_zipIdx_iff_getElem?.mp hmem
    obtain ⟨content, hcontent⟩ := Option.isSome_iff_exists.mp (h name (List.mem_of_getElem? hi))
    refine ⟨hi, content, hcontent, ?_⟩
    rwa [hcontent] at hat
  · rintro ⟨hi, content, hcontent, hat⟩
    refine ⟨(file, i), List.mk_mem_zipIdx_iff_getElem?.mpr hi, rfl, finding, ?_, rfl⟩
    rwa [hcontent]

theorem length_findings {r : Report} (h : ∀ f ∈ r.files, f.errors = f.findings.length) :
    r.findings.length = (r.files.map FileReport.errors).sum := by
  rw [findings, List.length_flatMap]
  simp only [List.length_map]
  exact congrArg List.sum (List.map_congr_left fun f hf => (h f hf).symm)

/-- The report of files that can all be read. -/
structure AddsUp (content? : String → Option String) (files : List String) (r : Report) :
    Prop where
  /-- There is one entry for each file, in the order given, with the counts of its content. -/
  summaries : List.Forall₂ (fun file f => f.file = file ∧ ∃ content, content? file = some content ∧
    FileReport.Counts content f.messages f.placeholders f.errors) files r.files
  /-- The findings are listed by file, by key and by their place in the template. -/
  listed : Lists (Prod.Lex (· < ·) (Prod.Lex (· < ·) (· < ·))) (At content? files) r.findings
  /-- There are as many of them as errors are counted. -/
  total : r.findings.length = (r.files.map FileReport.errors).sum

theorem addsUp_of_readable (h : ∀ file ∈ files, (content? file).isSome) :
    AddsUp content? files ⟨files.map fun file => .ofText file ((content? file).getD "")⟩ where
  summaries := by
    rw [List.forall₂_map_right_iff, List.forall₂_same]
    intro file hfile
    obtain ⟨content, hcontent⟩ := Option.isSome_iff_exists.mp (h file hfile)
    refine ⟨FileReport.file_ofText _ _, content, hcontent, ?_⟩
    rw [hcontent]
    exact FileReport.counts_ofText file content
  listed := lists_findings h
  total := by
    apply length_findings
    intro f hf
    obtain ⟨file, -, rfl⟩ := List.mem_map.mp hf
    exact FileReport.errors_ofText file _

theorem AddsUp.isClean_iff {r : Report} (h : r.AddsUp content? files) :
    r.isClean ↔ (r.files.map FileReport.errors).sum = 0 := by
  rw [← h.total, List.length_eq_zero_iff, isClean, List.isEmpty_iff]

theorem ofFiles_of_unreadable {file : String} (hfile : file ∈ files) (h : content? file = none) :
    ∃ name, ofFiles content? files = .error name := by
  induction files with
  | nil => cases hfile
  | cons front files ih =>
    simp only [ofFiles]
    cases hfront : content? front with
    | none => exact ⟨front, rfl⟩
    | some content =>
      rcases List.mem_cons.mp hfile with rfl | hfile
      · rw [h] at hfront
        cases hfront
      · obtain ⟨name, hname⟩ := ih hfile
        rw [hname]
        exact ⟨name, rfl⟩

end Report

namespace CheckCommand

theorem run_of_ok {c : CheckCommand} {content? : String → Option String} {report : Report}
    (h : Report.ofFiles content? c.files = .ok report) :
    (c.run content?).stdout =
        (if c.json then report.document.pretty ++ "\n" else c.overview report) ∧
      (c.run content?).code = if report.isClean then 0 else 65 := by
  simp only [run, h]
  cases c.json <;> exact ⟨rfl, rfl⟩

/-- A check of files that can all be read ends with a report that adds up. It tells wrong data just
if an error is counted, whether the report is shown as a table or as JSON. If a file cannot be read,
wherever it stands, the check shows nothing and tells that. -/
theorem run_files (content? : String → Option String) (files : List String) (json : Bool)
    (color : ColorChoice) :
    ((∀ file ∈ files, (content? file).isSome) → ∃ report,
      Report.ofFiles content? files = .ok report ∧ report.AddsUp content? files ∧
      (run ⟨files, json, color⟩ content?).stdout =
        (if json then report.document.pretty ++ "\n" else overview ⟨files, json, color⟩ report) ∧
      (run ⟨files, json, color⟩ content?).code =
        if 0 < (report.files.map FileReport.errors).sum then 65 else 0) ∧
    ∀ file ∈ files, content? file = none →
      (run ⟨files, json, color⟩ content?).stdout = "" ∧
      (run ⟨files, json, color⟩ content?).code = 70 := by
  constructor
  · intro h
    have hreport := Report.ofFiles_eq_ok h
    have haddsUp := Report.addsUp_of_readable h
    obtain ⟨hstdout, hcode⟩ := run_of_ok (c := ⟨files, json, color⟩) hreport
    refine ⟨_, hreport, haddsUp, hstdout, hcode.trans ?_⟩
    split
    · rename_i hclean
      rw [haddsUp.isClean_iff.mp hclean]
      rfl
    · rename_i hfound
      rw [if_pos (Nat.pos_of_ne_zero (hfound ∘ haddsUp.isClean_iff.mpr))]
  · intro file hfile hnone
    obtain ⟨name, hname⟩ := Report.ofFiles_of_unreadable hfile hnone
    simp only [run, hname, Outcome.unreadableCode, and_self]

/-- A file with a repeated key and a wrong format that is checked twice, one that holds no object,
and one that cannot be read. -/
theorem run_files_mixed :
    let phrases := "\x7b\"a\": \"\x7bn, color\x7d\", \"b\": \"\x7bn\x7d\", " ++
      "\"a\": \"\x7bn\x7d \x7bn, odd\x7d\"\x7d"
    let content? := fun file =>
      if file = "de" then some phrases else if file = "fr" then some "[]" else none
    (∀ file ∈ ["de", "fr", "de"], (content? file).isSome) ∧
      (∃ report, Report.ofFiles content? ["de", "fr", "de"] = .ok report ∧
        report.AddsUp content? ["de", "fr", "de"] ∧
        (report.files.map fun f => (f.messages, f.placeholders, f.errors)) =
          [(2, 3, 1), (0, 0, 1), (2, 3, 1)] ∧
        (run ⟨["de", "fr", "de"], true, .auto⟩ content?).code = 65) ∧
      content? "it" = none ∧
      (run ⟨["de", "it", "fr"], true, .auto⟩ content?).stdout = "" ∧
      (run ⟨["de", "it", "fr"], true, .auto⟩ content?).code = 70 := by
  intro phrases content?
  have hreadable : ∀ file ∈ ["de", "fr", "de"], (content? file).isSome := by decide
  have hunreadable : content? "it" = none := by decide
  obtain ⟨report, hreport, haddsUp, -, hcode⟩ :=
    (run_files content? ["de", "fr", "de"] true .auto).1 hreadable
  have hcounts : (Report.ofFiles content? ["de", "fr", "de"]).map (fun r =>
      r.files.map fun f => (f.messages, f.placeholders, f.errors)) =
        .ok [(2, 3, 1), (0, 0, 1), (2, 3, 1)] := by decide +kernel
  rw [hreport] at hcounts
  have hfiles : (report.files.map fun f => (f.messages, f.placeholders, f.errors)) =
      [(2, 3, 1), (0, 0, 1), (2, 3, 1)] := Except.ok.inj hcounts
  have herrors : report.files.map FileReport.errors = [1, 1, 1] := by
    have h := congrArg (List.map fun counts => counts.2.2) hfiles
    rwa [List.map_map] at h
  rw [herrors] at hcode
  obtain ⟨hstdout, hcode'⟩ := (run_files content? ["de", "it", "fr"] true .auto).2 "it"
    (by decide) hunreadable
  exact ⟨hreadable, ⟨report, hreport, haddsUp, hfiles, hcode⟩, hunreadable, hstdout, hcode'⟩

end CheckCommand
end Phrasebook
