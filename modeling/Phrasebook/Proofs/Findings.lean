import Phrasebook.Check
import Phrasebook.Proofs.Entries
import Phrasebook.Proofs.History
import Phrasebook.Proofs.Meaning

/-! What a check finds and what speaking runs into are the same: a key has a finding just if its
template cannot be read, and the first finding tells why. -/
namespace Phrasebook

namespace Renderer
variable {r : Renderer} {key template : String} {e : PlaceholderError}

/-- A message that is remembered is no error. -/
theorem ofText?_of_message_error (h : (r.message key template).1 = .error e) :
    Message.ofText? template = .error e := by
  simp only [message] at h
  cases hk : r.messages.get? key with
  | some msg => simp [hk] at h
  | none =>
    cases ht : Message.ofText? template with
    | error reason => simpa [hk, ht] using h
    | ok msg => simp [hk, ht] at h

theorem fill_eq_error_iff (values : Option Values) (locales : List String) :
    (r.fill key template values locales).1 = .error (.placeholder e) ↔
      (r.message key template).1 = .error e := by
  rw [fill_fst_eq_textOf]
  generalize (r.message key template).1 = answer
  cases answer with
  | error reason => simp [textOf]
  | ok msg? =>
    cases msg? with
    | none => simp [textOf]
    | some msg =>
      cases values with
      | none => simp [textOf]
      | some values =>
        simp only [textOf]
        cases msg.render (m := Id) .direct r.settings locales values <;> simp [Except.mapError]

end Renderer

/-- Why the template of a key cannot be read. -/
def Phrases.fault? (t : Phrases) (key : String) : Option PlaceholderError :=
  (t.get? key).bind fun text => (Template.ofText text).placeholders.findSome? Placeholder.fault?

namespace Speaker
variable {s : Speaker} {key template : String} {values : Option Values} {e : PlaceholderError}
  {phrases : Phrases}

/-- The phrases of the active locale. -/
def phrases? (s : Speaker) : Option Phrases :=
  s.books.get? s.locale

theorem template?_of_phrases (h : s.phrases? = some phrases) :
    s.template? key = phrases.get? key := by
  rw [template?, ← phrases?, h, Option.bind_some]

theorem say_of_no_template (h : s.phrases? = some phrases) (ht : phrases.get? key = none) :
    (s.say key values).1 = .ok none := by
  rw [phrases?] at h
  simp only [say, h, ht]

theorem say_eq_error_iff (h : s.template? key = some template) :
    (s.say key values).1 = .error (.placeholder e) ↔
      (s.renderer.message key template).1 = .error e := by
  rw [say_of_template h, ← Renderer.fill_eq_error_iff values [s.locale, s.fallback]]
  cases (s.renderer.fill key template values [s.locale, s.fallback]).1 <;> simp [Except.map]

/-- Whatever is remembered, no placeholder fails in a template that can be read. -/
theorem fault?_of_say (h : s.phrases? = some phrases)
    (he : (s.say key values).1 = .error (.placeholder e)) : phrases.fault? key = some e := by
  cases ht : phrases.get? key with
  | none => simp [say_of_no_template h ht] at he
  | some template =>
    have hs : s.template? key = some template := (template?_of_phrases h).trans ht
    rw [Phrases.fault?, ht, Option.bind_some, ← Message.ofText?_eq_error_iff]
    exact Renderer.ofText?_of_message_error ((say_eq_error_iff hs).mp he)

/-- Where what is remembered agrees with the phrases, the leftmost placeholder without a formatter
is told. -/
theorem Agrees.say_of_fault? (h : s.Agrees) (hp : s.phrases? = some phrases)
    (he : phrases.fault? key = some e) : (s.say key values).1 = .error (.placeholder e) := by
  obtain ⟨template, ht, hfault⟩ := Option.bind_eq_some_iff.mp he
  have hs : s.template? key = some template := (template?_of_phrases hp).trans ht
  rw [say_eq_error_iff hs, Renderer.message_fst (h key template hs)]
  exact Message.ofText?_eq_error_iff.mpr hfault

/-- A speaker after requests one after the other. -/
def after (s : Speaker) : List Request → Speaker
  | [] => s
  | q :: qs => (s.serve q).2.after qs

theorem Agrees.after (h : s.Agrees) (qs : List Request) : (s.after qs).Agrees := by
  induction qs generalizing s with
  | nil => exact h
  | cons q qs ih => exact ih (h.serve q)

end Speaker

/-- The placeholders of all templates, in the order of the keys. -/
def Phrases.placeholders (t : Phrases) : List Placeholder :=
  t.entries.flatMap fun x => (Template.ofText x.2).placeholders

namespace Finding
variable {key key' text : String} {finding : Finding}

/-- The findings in one template, from left to right. -/
def ofTemplate (key text : String) : List Finding :=
  (Template.ofText text).placeholders.filterMap (ofPlaceholder? key)

/-- The findings in all templates, in the order of their keys. -/
def ofPhrases (t : Phrases) : List Finding :=
  t.entries.flatMap fun x => ofTemplate x.1 x.2

theorem ofPlaceholder?_eq (key : String) (p : Placeholder) :
    ofPlaceholder? key p = p.fault?.map (placeholder key p.source) := by
  simp only [ofPlaceholder?, Placeholder.fault?]
  cases p.formatter <;> rfl

theorem key_of_mem_ofTemplate (h : finding ∈ ofTemplate key text) : finding.key = key := by
  obtain ⟨p, -, hp⟩ := List.mem_filterMap.mp h
  rw [ofPlaceholder?_eq] at hp
  obtain ⟨e, -, rfl⟩ := Option.map_eq_some_iff.mp hp
  rfl

/-- The first finding in a template tells why its leftmost placeholder without a formatter has
none. -/
theorem head?_ofTemplate : (ofTemplate key text).head?.map message =
    ((Template.ofText text).placeholders.findSome? Placeholder.fault?).map
      PlaceholderError.message := by
  rw [ofTemplate, List.head?_filterMap, List.map_findSome?, List.map_findSome?]
  congr 1
  funext p
  rw [Function.comp_apply, Function.comp_apply, ofPlaceholder?_eq, Option.map_map]
  rfl

theorem find?_ofTemplate (text : String) : (ofTemplate key text).find? (·.key == key') =
    if key = key' then (ofTemplate key text).head? else none := by
  split
  · rename_i he
    subst he
    cases hf : ofTemplate key text with
    | nil => rfl
    | cons finding findings =>
      have hmem : finding ∈ ofTemplate key text := by simp [hf]
      simp [key_of_mem_ofTemplate hmem]
  · rename_i hne
    apply List.find?_eq_none.mpr
    intro finding hf
    rw [key_of_mem_ofTemplate hf]
    simpa using hne

/-- Only one element counts if the search finds nothing at the others. -/
theorem findSome?_of_forall_ne {α β : Type} {l : List α} {g : α → Option β} {a : α} (hmem : a ∈ l)
    (h : ∀ b ∈ l, b ≠ a → g b = none) : l.findSome? g = g a := by
  cases ha : g a with
  | none =>
    apply List.findSome?_eq_none_iff.mpr
    intro b hb
    by_cases he : b = a
    · rw [he, ha]
    · exact h b hb he
  | some found =>
    obtain ⟨front, back, rfl, hfront⟩ := List.eq_append_cons_of_mem hmem
    refine List.findSome?_eq_some_iff.mpr ⟨front, a, back, rfl, ha, ?_⟩
    intro b hb
    exact h b (List.mem_append_left _ hb) fun he => hfront (he ▸ hb)

/-- The first finding of a key is that of its template. -/
theorem find?_ofPhrases (t : Phrases) (key : String) :
    (ofPhrases t).find? (·.key == key) =
      (t.get? key).bind fun text => (ofTemplate key text).head? := by
  simp only [ofPhrases, List.find?_flatMap, find?_ofTemplate]
  cases ht : t.get? key with
  | none =>
    apply List.findSome?_eq_none_iff.mpr
    intro entry hentry
    apply if_neg
    intro he
    have hsome : t.get? key = some entry.2 := Dictionary.get?_eq_some_iff.mpr (he ▸ hentry)
    simp [ht] at hsome
  | some text =>
    rw [findSome?_of_forall_ne (Dictionary.get?_eq_some_iff.mp ht), if_pos rfl, Option.bind_some]
    intro entry hentry hne
    apply if_neg
    intro he
    have hsome : t.get? key = some entry.2 := Dictionary.get?_eq_some_iff.mpr (he ▸ hentry)
    rw [ht] at hsome
    exact hne (Prod.ext he (Option.some.inj hsome).symm)

end Finding

namespace FileReport
variable {file content : String} {phrases : Phrases}

/-- Counting placeholders one after the other: each counts, and those without a formatter are errors
and are listed. -/
theorem foldl_count (key : String) (ps : List Placeholder) (r : FileReport) :
    ps.foldl (count key) r =
      { r with
        placeholders := r.placeholders + ps.length
        errors := r.errors + ps.countP fun p => p.fault?.isSome
        findings := r.findings ++ ps.filterMap (Finding.ofPlaceholder? key) } := by
  induction ps generalizing r with
  | nil => simp
  | cons p ps ih =>
    rw [List.foldl_cons, ih, count, Finding.ofPlaceholder?_eq]
    cases h : p.fault? with
    | none => simp [Finding.ofPlaceholder?_eq, h, Nat.add_assoc, Nat.add_comm 1]
    | some e => simp [Finding.ofPlaceholder?_eq, h, Nat.add_assoc, Nat.add_comm 1]

theorem foldl_countTemplate (es : List (String × String)) (r : FileReport) :
    es.foldl (fun r entry => r.countTemplate entry.1 entry.2) r =
      { r with
        placeholders :=
          r.placeholders + (es.flatMap fun x => (Template.ofText x.2).placeholders).length
        errors := r.errors +
          (es.flatMap fun x => (Template.ofText x.2).placeholders).countP fun p => p.fault?.isSome
        findings := r.findings ++ es.flatMap fun x => Finding.ofTemplate x.1 x.2 } := by
  induction es generalizing r with
  | nil => simp
  | cons x es ih =>
    rw [List.foldl_cons, ih, countTemplate, foldl_count]
    simp [Finding.ofTemplate, Nat.add_assoc]

theorem ofText_of_phrases (h : Json.readDictionary content = .ok phrases) :
    ofText file content = ⟨file, phrases.size, phrases.placeholders.length,
      phrases.placeholders.countP fun p => p.fault?.isSome, Finding.ofPhrases phrases⟩ := by
  simp only [ofText, h, foldl_countTemplate, Nat.zero_add, List.nil_append]
  rfl

theorem file_ofText (file content : String) : (ofText file content).file = file := by
  cases h : Json.readDictionary content with
  | error e => simp only [ofText, h]
  | ok phrases => rw [ofText_of_phrases h]

end FileReport

namespace Report
variable {content? : String → Option String} {file content key : String} {files : List String}
  {phrases : Phrases}

theorem ofFiles_eq_ok (h : ∀ file ∈ files, (content? file).isSome) :
    ofFiles content? files =
      .ok ⟨files.map fun file => .ofText file ((content? file).getD "")⟩ := by
  induction files with
  | nil => rfl
  | cons file files ih =>
    obtain ⟨hfile, hfiles⟩ := List.forall_mem_cons.mp h
    obtain ⟨content, hc⟩ := Option.isSome_iff_exists.mp hfile
    simp only [ofFiles, hc, ih hfiles, List.map_cons, Option.getD_some]
    rfl

/-- The first finding that is listed for a key of a file. -/
def first? (r : Report) (file key : String) : Option Finding :=
  (r.findings.find? fun f => f.1 == file && f.2.key == key).map Prod.snd

theorem isSome_first?_iff {r : Report} : (r.first? file key).isSome ↔
    ∃ finding, (file, finding) ∈ r.findings ∧ finding.key = key := by
  simp [first?, List.find?_isSome]

theorem find?_findings (name : String) (found : List Finding) :
    ((found.map fun finding => (name, finding)).find?
      fun f => f.1 == file && f.2.key == key).map Prod.snd =
        if name = file then found.find? (·.key == key) else none := by
  rw [List.find?_map, Option.map_map]
  split
  · rename_i he
    simp [Function.comp_def, he]
  · rename_i hne
    simp [Function.comp_def, hne]

/-- The first finding of a key tells why its template cannot be read, wherever the file stands among
others. -/
theorem first?_ofFiles (key : String) (hfile : file ∈ files)
    (hcontent : content? file = some content)
    (hphrases : Json.readDictionary content = .ok phrases) :
    (first? ⟨files.map fun file => .ofText file ((content? file).getD "")⟩ file key).map
        Finding.message =
      (phrases.fault? key).map PlaceholderError.message := by
  have hfindings : (FileReport.ofText file content).findings = Finding.ofPhrases phrases := by
    rw [FileReport.ofText_of_phrases hphrases]
  simp only [first?, findings, List.flatMap_map, List.find?_flatMap, List.map_findSome?,
    Function.comp_def, FileReport.file_ofText, find?_findings]
  rw [Finding.findSome?_of_forall_ne hfile, if_pos rfl, hcontent, Option.getD_some, hfindings,
    Finding.find?_ofPhrases, Phrases.fault?, Option.map_bind, Option.map_bind]
  · congr 1
    funext text
    exact Finding.head?_ofTemplate
  · intro other _ hne
    rw [if_neg hne, Option.map_none]

/-- Files that can be read are checked. If one of them holds phrases, then whatever a speaker has
done since these were loaded for its active locale, and as long as they are its phrases, saying a
key fails for a placeholder just if the check lists a finding for the key, and the first one tells
the error. A key without a finding never fails so, whatever is remembered. -/
theorem say_fails_iff_mem_findings (content? : String → Option String) (files : List String)
    (hfiles : ∀ file ∈ files, (content? file).isSome) (file content : String)
    (hfile : file ∈ files) (hcontent : content? file = some content) (phrases : Phrases)
    (hphrases : Json.readDictionary content = .ok phrases) :
    ∃ report, ofFiles content? files = .ok report ∧
      (∀ (s t : Speaker) (qs : List Request), t = (s.load s.locale phrases).after qs →
        t.phrases? = some phrases → ∀ (key : String) (values : Option Values),
          ((∃ e, (t.say key values).1 = .error (.placeholder e)) ↔
            ∃ finding, (file, finding) ∈ report.findings ∧ finding.key = key) ∧
          ∀ e, (t.say key values).1 = .error (.placeholder e) →
            (report.first? file key).map Finding.message =
              some (PhraseError.placeholder e).message) ∧
      ∀ (t : Speaker) (key : String) (values : Option Values), t.phrases? = some phrases →
        (∀ finding, (file, finding) ∈ report.findings → finding.key ≠ key) →
          ∀ e, (t.say key values).1 ≠ .error (.placeholder e) := by
  refine ⟨_, ofFiles_eq_ok hfiles, ?_, ?_⟩
  · rintro s t qs rfl hp key values
    have hagrees : ((s.load s.locale phrases).after qs).Agrees :=
      (s.agrees_load_active phrases).after qs
    have hfirst := first?_ofFiles key hfile hcontent hphrases
    refine ⟨?_, ?_⟩
    · rw [← isSome_first?_iff, ← Option.isSome_map (f := Finding.message), hfirst,
        Option.isSome_map, Option.isSome_iff_exists]
      exact exists_congr fun e => ⟨Speaker.fault?_of_say hp, hagrees.say_of_fault? hp⟩
    · intro e he
      rw [hfirst, Speaker.fault?_of_say hp he]
      rfl
  · intro t key values hp hnone e he
    have hfirst := first?_ofFiles key hfile hcontent hphrases
    rw [Speaker.fault?_of_say hp he] at hfirst
    have hsome : (first? ⟨files.map fun file => .ofText file ((content? file).getD "")⟩ file
        key).isSome := by
      rw [← Option.isSome_map (f := Finding.message), hfirst]
      rfl
    obtain ⟨finding, hmem, hkey⟩ := isSome_first?_iff.mp hsome
    exact hnone finding hmem hkey

/-- A template with two bad formats: the check lists both, and the first of them is what a speaker
tells. -/
theorem say_fails_two_bad_formats :
    let content := "\x7b\"due\": \"\x7bn, color\x7d \x7bn, number, odd\x7d\", \"ok\": \"\x7bn\x7d\"\x7d"
    let phrases : Phrases := .ofList [("due", "{n, color} {n, number, odd}"), ("ok", "{n}")]
    let t := (({} : Speaker).load "en" phrases).after [.say "ok" none]
    (∀ file ∈ ["de.json"], (some content).isSome) ∧
      Json.readDictionary content = .ok phrases ∧ t.phrases? = some phrases ∧
      (t.say "due" none).1 = .error (.placeholder (.unsupportedType "color" none)) ∧
      ∃ report, ofFiles (fun _ => some content) ["de.json"] = .ok report ∧
        (∃ finding, ("de.json", finding) ∈ report.findings ∧ finding.key = "due") ∧
        (report.first? "de.json" "due").map Finding.message =
          some "unsupported type \"color\" and format \"\"" ∧
        ¬∃ finding, ("de.json", finding) ∈ report.findings ∧ finding.key = "ok" := by
  intro content phrases t
  have hfiles : ∀ file ∈ ["de.json"], (some content).isSome := fun _ _ => rfl
  have hphrases : Json.readDictionary content = .ok phrases := by decide +kernel
  have ht : t.phrases? = some phrases := by decide
  have hdue : (t.say "due" none).1 = .error (.placeholder (.unsupportedType "color" none)) := by
    decide +kernel
  have hok : (t.say "ok" none).1 = .ok (some "{n}") := by decide +kernel
  obtain ⟨report, hreport, herror, -⟩ := say_fails_iff_mem_findings (fun _ => some content)
    ["de.json"] hfiles "de.json" content (List.mem_singleton.mpr rfl) rfl phrases hphrases
  refine ⟨hfiles, hphrases, ht, hdue, report, hreport, ?_, ?_, ?_⟩
  · exact (herror {} t _ rfl ht "due" none).1.mp ⟨_, hdue⟩
  · exact (herror {} t _ rfl ht "due" none).2 _ hdue
  · rw [← (herror {} t _ rfl ht "ok" none).1, hok]
    rintro ⟨e, he⟩
    cases he

end Report
end Phrasebook
