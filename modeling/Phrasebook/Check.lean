import Phrasebook.Json.Document
import Phrasebook.Json.Object
import Phrasebook.Speaker
import Phrasebook.Table

/-! Checking files of phrases: whether every placeholder of every phrase has a formatter. -/
namespace Phrasebook

/-- What is wrong in a file. -/
inductive Finding where
  /-- The file holds no object of strings. -/
  | malformed (e : Json.Error)
  /-- A placeholder in the template of a key has no formatter. -/
  | placeholder (key source : String) (e : PlaceholderError)
deriving DecidableEq, Repr

namespace Finding

/-- The key of the phrase, or nothing for the file as a whole. -/
def key : Finding → String
  | malformed _ => ""
  | placeholder key _ _ => key

/-- The placeholder as it is written, or nothing for the file as a whole. -/
def source : Finding → String
  | malformed _ => ""
  | placeholder _ source _ => source

def message : Finding → String
  | malformed e => e.message
  | placeholder _ _ e => e.message

/-- The finding of a placeholder that has no formatter. -/
def ofPlaceholder? (key : String) (p : Placeholder) : Option Finding :=
  match p.formatter with
  | .ok _ => none
  | .error e => some (placeholder key p.source e)

end Finding

/-- What was counted and found in one file. -/
structure FileReport where
  file : String
  messages : Nat
  placeholders : Nat
  errors : Nat
  findings : List Finding
deriving DecidableEq, Repr

namespace FileReport

/-- Counts one more placeholder of a key. One without a formatter is an error as well, and is
listed. -/
def count (key : String) (r : FileReport) (p : Placeholder) : FileReport :=
  let r := { r with placeholders := r.placeholders + 1 }
  match Finding.ofPlaceholder? key p with
  | none => r
  | some finding => { r with errors := r.errors + 1, findings := r.findings ++ [finding] }

/-- Counts the placeholders of a template from left to right. -/
def countTemplate (r : FileReport) (key text : String) : FileReport :=
  (Template.ofText text).placeholders.foldl (count key) r

/-- Checks a file by its content. A malformed one has no messages and one error. -/
def ofText (file content : String) : FileReport :=
  match Json.readDictionary content with
  | .error e => ⟨file, 0, 0, 1, [.malformed e]⟩
  | .ok t =>
    t.entries.foldl (fun r entry => r.countTemplate entry.1 entry.2) ⟨file, t.size, 0, 0, []⟩

end FileReport

/-- The reports of files in the order in which they were given. -/
structure Report where
  files : List FileReport
deriving DecidableEq, Repr

namespace Report

/-- Checks files; the first one that cannot be read is told instead. -/
def ofFiles (content? : String → Option String) : List String → Except String Report
  | [] => .ok ⟨[]⟩
  | file :: files =>
    match content? file with
    | none => .error file
    | some content => do
      let rest ← ofFiles content? files
      pure ⟨.ofText file content :: rest.files⟩

/-- The findings with their files, in order. -/
def findings (r : Report) : List (String × Finding) :=
  r.files.flatMap fun f => f.findings.map fun finding => (f.file, finding)

def isClean (r : Report) : Bool :=
  r.findings.isEmpty

/-- The counts as a table. -/
def table (r : Report) : Table where
  header := ["File", "Messages", "Placeholders", "Errors"]
  rows := r.files.map fun f => f.file :: [f.messages, f.placeholders, f.errors].map toString

/-- The verdict in one line. -/
def summary (r : Report) : String :=
  if r.isClean then "All placeholders compile"
  else toString r.findings.length ++ " placeholder(s) failed to compile"

/-- One line for each finding. -/
def details (r : Report) : List String :=
  r.findings.map fun (file, finding) =>
    file ++ ": " ++ (if finding.key = "" then "" else finding.key ++ ": ") ++ finding.message

/-- The counts and the findings as a JSON value. -/
def document (r : Report) : Json.Document :=
  .record [
    ("files", .list (r.files.map fun f => .record [
      ("file", .text f.file), ("messages", .number f.messages),
      ("placeholders", .number f.placeholders), ("errors", .number f.errors)])),
    ("problems", .list (r.findings.map fun (file, finding) => .record [
      ("file", .text file), ("key", .text finding.key),
      ("placeholder", .text finding.source), ("error", .text finding.message)]))]

end Report
end Phrasebook
