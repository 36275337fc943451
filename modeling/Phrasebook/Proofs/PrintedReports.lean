import Phrasebook.Proofs.ReportTotals
import Phrasebook.Proofs.Words
import Phrasebook.Proofs.WrittenObjects

/-! Reports that are printed as JSON. A text over several lines is that of one value only, so what a
check counts and finds can be told from what it prints. -/
namespace Phrasebook
namespace Json
variable {α : Type} {w : α → List Char} {as bs : List α} {closing : Char} {depth m n : ℕ}
  {s t rest rest' : List Char}

open Text (StartsOutside)

/-- In front of anything but a digit, what is written of `a` can be told from what follows it, and
from what is written of anything else. Only the digits of a number go on until something else
follows; the other values end with a character of their own. -/
def Delimits (w : α → List Char) (a : α) : Prop :=
  ∀ b rest rest', StartsOutside Char.isDigit rest → StartsOutside Char.isDigit rest' →
    w a ++ rest = w b ++ rest' → a = b ∧ rest = rest'

theorem quote_append_inj (h : quote s ++ rest = quote t ++ rest') : s = t ∧ rest = rest' := by
  have hread : ∀ s rest, readString (quote s ++ rest).tail = .ok (s, rest) := by
    intro s rest
    rw [quote, List.cons_append, List.tail_cons, List.append_assoc, List.singleton_append]
    exact readString_append s rest
  have heq := hread s rest
  rw [h, hread t rest'] at heq
  cases heq
  exact ⟨rfl, rfl⟩

theorem toDigits_append_inj (hrest : StartsOutside Char.isDigit rest)
    (hrest' : StartsOutside Char.isDigit rest')
    (h : Nat.toDigits 10 m ++ rest = Nat.toDigits 10 n ++ rest') : m = n ∧ rest = rest' := by
  have hdigits : ∀ k, ∀ c ∈ Nat.toDigits 10 k, c.isDigit :=
    fun k c hc => Nat.isDigit_of_mem_toDigits (by decide) (by decide) hc
  obtain ⟨htake, hdrop⟩ := Text.takeWhile_append_of_head? (hdigits m) hrest
  obtain ⟨htake', hdrop'⟩ := Text.takeWhile_append_of_head? (hdigits n) hrest'
  rw [h, htake'] at htake
  rw [h, hdrop'] at hdrop
  refine ⟨?_, hdrop.symm⟩
  calc m = Nat.ofDigitChars 10 (Nat.toDigits 10 m) 0 := Nat.ofDigitChars_ten_toDigits.symm
    _ = Nat.ofDigitChars 10 (Nat.toDigits 10 n) 0 := by rw [htake]
    _ = n := Nat.ofDigitChars_ten_toDigits

namespace Document

/-! Blocks. -/

/-- What follows an item of a block: the other items, each behind its comma, and the end. -/
def afterItem (closing : Char) (depth : ℕ) (items : List (List Char)) : List Char :=
  items.flatMap (fun i => ',' :: (newLine (depth + 1) ++ i)) ++ newLine depth ++ [closing]

theorem afterItem_cons (item : List Char) (items : List (List Char)) :
    afterItem closing depth (item :: items) ++ rest =
      ',' :: (newLine (depth + 1) ++ (item ++ (afterItem closing depth items ++ rest))) := by
  simp [afterItem]

theorem block_cons (opening : Char) (item : List Char) (items : List (List Char)) :
    block opening closing depth (item :: items) ++ rest =
      opening :: (newLine (depth + 1) ++ (item ++ (afterItem closing depth items ++ rest))) := by
  simp [block, afterItem]

theorem startsOutside_afterItem (items : List (List Char)) :
    StartsOutside Char.isDigit (afterItem closing depth items ++ rest) := by
  cases items with
  | nil => exact Text.startsOutside_cons rfl
  | cons item items =>
    rw [afterItem_cons]
    exact Text.startsOutside_cons rfl

theorem item_inj {a b : α} (h : Delimits w a)
    (heq : newLine (depth + 1) ++ (w a ++ (afterItem closing depth (as.map w) ++ rest)) =
      newLine (depth + 1) ++ (w b ++ (afterItem closing depth (bs.map w) ++ rest'))) :
    a = b ∧ afterItem closing depth (as.map w) ++ rest =
      afterItem closing depth (bs.map w) ++ rest' :=
  h b _ _ (startsOutside_afterItem _) (startsOutside_afterItem _) (List.append_cancel_left heq)

theorem afterItem_inj (h : ∀ a ∈ as, Delimits w a)
    (heq : afterItem closing depth (as.map w) ++ rest =
      afterItem closing depth (bs.map w) ++ rest') : as = bs ∧ rest = rest' := by
  induction as generalizing bs with
  | nil =>
    cases bs with
    | nil => exact ⟨rfl, List.append_cancel_left heq⟩
    | cons b bs =>
      rw [List.map_cons, afterItem_cons] at heq
      exact absurd (List.cons.inj heq).1 (by decide)
  | cons a as ih =>
    obtain ⟨ha, has⟩ := List.forall_mem_cons.mp h
    rw [List.map_cons, afterItem_cons] at heq
    cases bs with
    | nil => exact absurd (List.cons.inj heq).1 (by decide)
    | cons b bs =>
      rw [List.map_cons, afterItem_cons] at heq
      obtain ⟨rfl, htail⟩ := item_inj ha (List.cons.inj heq).2
      obtain ⟨rfl, hrest⟩ := ih has htail
      exact ⟨rfl, hrest⟩

theorem block_inj {opening : Char} (hclosing : closing ≠ '\n') (h : ∀ a ∈ as, Delimits w a)
    (heq : block opening closing depth (as.map w) ++ rest =
      block opening closing depth (bs.map w) ++ rest') : as = bs ∧ rest = rest' := by
  cases as with
  | nil =>
    cases bs with
    | nil => exact ⟨rfl, List.append_cancel_left heq⟩
    | cons b bs =>
      rw [List.map_cons, block_cons] at heq
      exact absurd (List.cons.inj (List.cons.inj heq).2).1 hclosing
  | cons a as =>
    obtain ⟨ha, has⟩ := List.forall_mem_cons.mp h
    rw [List.map_cons, block_cons] at heq
    cases bs with
    | nil => exact absurd (List.cons.inj (List.cons.inj heq).2).1.symm hclosing
    | cons b bs =>
      rw [List.map_cons, block_cons] at heq
      obtain ⟨rfl, htail⟩ := item_inj ha (List.cons.inj heq).2
      obtain ⟨rfl, hrest⟩ := afterItem_inj has htail
      exact ⟨rfl, hrest⟩

/-! Values. -/

theorem writeItems_eq (depth : ℕ) (ds : List Document) :
    writeItems depth ds = ds.map (write depth) := by
  induction ds with
  | nil => rfl
  | cons d ds ih => rw [writeItems, ih, List.map_cons]

/-- A field of a record on a line at this depth. -/
def writeField (depth : ℕ) (field : String × Document) : List Char :=
  quote field.1.toList ++ ':' :: ' ' :: field.2.write depth

theorem writeFields_eq (depth : ℕ) (fields : List (String × Document)) :
    writeFields depth fields = fields.map (writeField depth) := by
  induction fields with
  | nil => rfl
  | cons field fields ih => rw [writeFields, ih, List.map_cons, writeField]

/-- The characters that the text of a value of this kind can start with. -/
def StartsWith : Document → Char → Prop
  | text _, c => c = '"'
  | number _, c => c.isDigit
  | list _, c => c = '['
  | record _, c => c = '\x7b'

theorem exists_block_eq_cons (opening : Char) (items : List (List Char)) :
    ∃ cs, block opening closing depth items = opening :: cs := by
  cases items <;> exact ⟨_, rfl⟩

theorem exists_write_eq_cons (d : Document) (depth : ℕ) :
    ∃ c cs, d.write depth = c :: cs ∧ d.StartsWith c := by
  cases d with
  | text s => exact ⟨_, _, by rw [write, quote], rfl⟩
  | number n =>
    rw [write]
    cases h : Nat.toDigits 10 n with
    | nil => exact absurd h Nat.toDigits_ne_nil
    | cons c cs =>
      refine ⟨c, cs, rfl, Nat.isDigit_of_mem_toDigits (b := 10) (n := n) (by decide) (by decide) ?_⟩
      rw [h]
      exact List.mem_cons_self
  | list items =>
    obtain ⟨cs, hcs⟩ := exists_block_eq_cons '[' (writeItems (depth + 1) items)
    exact ⟨_, cs, by rw [write, hcs], rfl⟩
  | record fields =>
    obtain ⟨cs, hcs⟩ := exists_block_eq_cons '\x7b' (writeFields (depth + 1) fields)
    exact ⟨_, cs, by rw [write, hcs], rfl⟩

/-- Values with one text have a first character in common. -/
theorem exists_startsWith {d d' : Document}
    (h : d.write depth ++ rest = d'.write depth ++ rest') :
    ∃ c, d.StartsWith c ∧ d'.StartsWith c := by
  obtain ⟨c, cs, hcs, hc⟩ := exists_write_eq_cons d depth
  obtain ⟨c', cs', hcs', hc'⟩ := exists_write_eq_cons d' depth
  rw [hcs, hcs', List.cons_append, List.cons_append] at h
  obtain ⟨rfl, -⟩ := List.cons.inj h
  exact ⟨c, hc, hc'⟩

theorem delimits_text (depth : ℕ) (s : String) : Delimits (write depth) (text s) := by
  intro d rest rest' _ _ h
  obtain ⟨c, hc, hc'⟩ := exists_startsWith h
  cases d with
  | text t =>
    rw [write, write] at h
    obtain ⟨hchars, hrest⟩ := quote_append_inj h
    exact ⟨congrArg text (String.toList_injective hchars), hrest⟩
  | number | list | record =>
    obtain rfl : c = '"' := hc
    exact absurd hc' (by simp [StartsWith])

theorem delimits_number (depth n : ℕ) : Delimits (write depth) (number n) := by
  intro d rest rest' hrest hrest' h
  obtain ⟨c, hc, hc'⟩ := exists_startsWith h
  cases d with
  | number k =>
    rw [write, write] at h
    obtain ⟨rfl, heq⟩ := toDigits_append_inj hrest hrest' h
    exact ⟨rfl, heq⟩
  | text | list | record =>
    obtain rfl := hc'
    exact absurd hc (by simp [StartsWith])

theorem delimits_list {items : List Document} (h : ∀ d ∈ items, Delimits (write (depth + 1)) d) :
    Delimits (write depth) (list items) := by
  intro d rest rest' _ _ heq
  obtain ⟨c, hc, hc'⟩ := exists_startsWith heq
  cases d with
  | list items' =>
    rw [write, write, writeItems_eq, writeItems_eq] at heq
    obtain ⟨rfl, hrest⟩ := block_inj (by decide) h heq
    exact ⟨rfl, hrest⟩
  | text | number | record =>
    obtain rfl : c = '[' := hc
    exact absurd hc' (by simp [StartsWith])

theorem delimits_field {field : String × Document} (h : Delimits (write depth) field.2) :
    Delimits (writeField depth) field := by
  intro field' rest rest' hrest hrest' heq
  rw [writeField, writeField, List.append_assoc, List.append_assoc] at heq
  obtain ⟨hname, hvalue⟩ := quote_append_inj heq
  obtain ⟨hd, heq⟩ := h field'.2 rest rest' hrest hrest'
    (List.cons.inj (List.cons.inj hvalue).2).2
  exact ⟨Prod.ext (String.toList_injective hname) hd, heq⟩

theorem delimits_record {fields : List (String × Document)}
    (h : ∀ field ∈ fields, Delimits (write (depth + 1)) field.2) :
    Delimits (write depth) (record fields) := by
  intro d rest rest' _ _ heq
  obtain ⟨c, hc, hc'⟩ := exists_startsWith heq
  cases d with
  | record fields' =>
    rw [write, write, writeFields_eq, writeFields_eq] at heq
    obtain ⟨rfl, hrest⟩ := block_inj (by decide) (fun field hf => delimits_field (h field hf)) heq
    exact ⟨rfl, hrest⟩
  | text | number | list =>
    obtain rfl : c = '\x7b' := hc
    exact absurd hc' (by simp [StartsWith])

mutual

theorem delimits_write : ∀ (d : Document) (depth : ℕ), Delimits (write depth) d
  | text s, depth => delimits_text depth s
  | number n, depth => delimits_number depth n
  | list items, depth => delimits_list (delimits_items items (depth + 1))
  | record fields, depth => delimits_record (delimits_fields fields (depth + 1))

theorem delimits_items : ∀ (ds : List Document) (depth : ℕ), ∀ d ∈ ds, Delimits (write depth) d
  | [], _ => List.forall_mem_nil _
  | d :: ds, depth => List.forall_mem_cons.mpr ⟨delimits_write d depth, delimits_items ds depth⟩

theorem delimits_fields : ∀ (fields : List (String × Document)) (depth : ℕ),
    ∀ field ∈ fields, Delimits (write depth) field.2
  | [], _ => List.forall_mem_nil _
  | (_, d) :: fields, depth =>
    List.forall_mem_cons.mpr ⟨delimits_write d depth, delimits_fields fields depth⟩

end

theorem pretty_injective : Function.Injective pretty := by
  intro d d' h
  have hwrite : d.write 0 = d'.write 0 := String.ofList_injective h
  exact (delimits_write d 0 d' [] [] nofun nofun (by rw [hwrite])).1

example : (record [("files", .list [.number 2]), ("problems", .list [])]).pretty =
    "\x7b\n  \"files\": [\n    2\n  ],\n  \"problems\": []\n\x7d" := by
  decide

end Document
end Json

namespace Report
variable {content? : String → Option String} {files : List String}

/-- The record of a file that can be read, with the counts of its content. -/
inductive Summary (content? : String → Option String) (file : String) : Json.Document → Prop where
  | counts {content : String} {messages placeholders errors : ℕ}
    (hcontent : content? file = some content)
    (hcounts : FileReport.Counts content messages placeholders errors) :
    Summary content? file (.record [("file", .text file), ("messages", .number messages),
      ("placeholders", .number placeholders), ("errors", .number errors)])

/-- The record of what is wrong at a place of a list of files. -/
inductive Problem (content? : String → Option String) (files : List String)
    (place : ℕ × String × ℕ) : Json.Document → Prop where
  | found {file : String} {finding : Finding} (h : At content? files place (file, finding)) :
    Problem content? files place (.record [("file", .text file), ("key", .text finding.key),
      ("placeholder", .text finding.source), ("error", .text finding.message)])

/-- The value that tells about files that can all be read: a record for each file, in the order
given, and one for each finding, by its place. -/
inductive Shows (content? : String → Option String) (files : List String) :
    Json.Document → Prop where
  | record {summaries problems : List Json.Document}
    (hsummaries : List.Forall₂ (Summary content?) files summaries)
    (hproblems : Lists (Prod.Lex (· < ·) (Prod.Lex (· < ·) (· < ·))) (Problem content? files)
      problems) :
    Shows content? files (.record [("files", .list summaries), ("problems", .list problems)])

theorem AddsUp.shows {r : Report} (h : r.AddsUp content? files) :
    Shows content? files r.document := by
  apply Shows.record
  · rw [List.forall₂_map_right_iff]
    apply h.summaries.imp
    rintro file f ⟨rfl, content, hcontent, hcounts⟩
    exact .counts hcontent hcounts
  · apply (h.listed.map _).congr
    intro place d
    constructor
    · rintro ⟨⟨file, finding⟩, hat, rfl⟩
      exact .found hat
    · rintro ⟨hat⟩
      exact ⟨_, hat, rfl⟩

end Report

/-- Where JSON is asked for, a check of files that can all be read prints the text of one value,
which tells the counts of each file and each finding. -/
theorem CheckCommand.run_json {content? : String → Option String} {files : List String}
    (h : ∀ file ∈ files, (content? file).isSome) (color : ColorChoice) :
    ∃ shown, Report.Shows content? files shown ∧
      ∀ d : Json.Document, (run ⟨files, true, color⟩ content?).stdout = d.pretty ++ "\n" ↔
        d = shown := by
  have hreport := Report.ofFiles_eq_ok h
  refine ⟨_, (Report.addsUp_of_readable h).shows, fun d => ?_⟩
  rw [(run_of_ok (c := ⟨files, true, color⟩) hreport).1, if_pos rfl, String.append_left_inj]
  constructor
  · intro heq
    exact Json.Document.pretty_injective heq.symm
  · rintro rfl
    rfl

end Phrasebook
