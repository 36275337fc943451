import Phrasebook.Locale.Tag
import Phrasebook.Text.Split
import Phrasebook.Text.Word

/-! Reading locale tags. Subtags are joined by hyphens; letter case is free and is made canonical. -/
namespace Phrasebook

/-- A subtag of this many ASCII characters, all of one class. -/
def isSubtag (p : Char → Bool) (least most : Nat) (s : String) : Bool :=
  let cs := s.toList
  least ≤ cs.length && cs.length ≤ most && cs.all p

/-- Inserts a text at its place in an increasing list. -/
def insertSorted (s : String) : List String → List String
  | [] => [s]
  | t :: ts => if s < t then s :: t :: ts else t :: insertSorted s ts

/-- Inserts a keyword at its place, unless its key is there already. -/
def insertKeyword (k : Keyword) : List Keyword → List Keyword
  | [] => [k]
  | l :: ls =>
    if k.key < l.key then k :: l :: ls
    else if k.key = l.key then l :: ls
    else l :: insertKeyword k ls

namespace LanguageId

def language? (s : String) : Option String :=
  if isSubtag Char.isAlpha 2 3 s then some s.toLower else none

def script? (s : String) : Option String :=
  if isSubtag Char.isAlpha 4 4 s then some s.toLower.capitalize else none

def region? (s : String) : Option String :=
  if isSubtag Char.isAlpha 2 2 s then some s.toUpper
  else if isSubtag Char.isDigit 3 3 s then some s
  else none

def variant? (s : String) : Option String :=
  if isSubtag Char.isAlphanum 5 8 s then some s.toLower
  else if isSubtag Char.isAlphanum 4 4 s && (s.toList.take 1).all Char.isDigit then some s.toLower
  else none

/-- Variants at the front, and the rest; none twice. -/
def variants? (found : List String) : List String → Option (List String × List String)
  | [] => some (found, [])
  | s :: rest =>
    match variant? s with
    | none => some (found, s :: rest)
    | some v => if v ∈ found then none else variants? (insertSorted v found) rest

/-- An item at the front, or none. -/
def optional (f : String → Option String) : List String → Option String × List String
  | [] => (none, [])
  | s :: rest =>
    match f s with
    | some v => (some v, rest)
    | none => (none, s :: rest)

/-- Language, script, region and variants at the front, and the rest. -/
def read? : List String → Option (LanguageId × List String)
  | [] => none
  | s :: rest => do
    let language ← language? s
    let (script, rest) := optional script? rest
    let (region, rest) := optional region? rest
    let (variants, rest) ← variants? [] rest
    some (⟨language, script, region, variants⟩, rest)

end LanguageId

namespace Locale

/-- A part of the value of a keyword or field. -/
def isValuePart (s : String) : Bool :=
  isSubtag Char.isAlphanum 3 8 s

/-- A key of the `u` extension: a letter or digit, then a letter. -/
def isUnicodeKey (s : String) : Bool :=
  match s.toList with
  | [a, b] => a.isAlphanum && b.isAlpha
  | _ => false

/-- A key of the `t` extension: a letter, then a digit. -/
def isTransformKey (s : String) : Bool :=
  match s.toList with
  | [a, b] => a.isAlpha && b.isDigit
  | _ => false

/-- A key with the parts of its value, in lower case; a part `true` is left out. -/
def keyword (key : String) (parts : List String) : Keyword :=
  ⟨key.toLower, (parts.map String.toLower).filter (· != "true")⟩

/-- Keywords at the front, by their keys, and the rest. Of two with one key the first counts. -/
def readKeywords (found : List Keyword) : List String → List Keyword × List String
  | [] => (found, [])
  | s :: rest =>
    if isUnicodeKey s then
      have := Text.length_dropWhile_le isValuePart rest
      readKeywords (insertKeyword (keyword s (rest.takeWhile isValuePart)) found)
        (rest.dropWhile isValuePart)
    else (found, s :: rest)
termination_by rest => rest.length

/-- Fields at the front, by their keys, and the rest. Each has a value. -/
def readFields? (found : List Keyword) : List String → Option (List Keyword × List String)
  | [] => some (found, [])
  | s :: rest =>
    if isTransformKey s then
      have := Text.length_dropWhile_le isValuePart rest
      if (rest.takeWhile isValuePart).isEmpty then none
      else readFields? (insertKeyword (keyword s (rest.takeWhile isValuePart)) found)
        (rest.dropWhile isValuePart)
    else some (found, s :: rest)
termination_by rest => rest.length

/-- Reads the `u` extension after its letter. -/
def readUnicode? (l : Locale) (rest : List String) : Option (Locale × List String) :=
  let attributes := (rest.takeWhile isValuePart).foldl
    (fun found s => if s.toLower ∈ found then found else insertSorted s.toLower found) []
  let (found, rest) := readKeywords [] (rest.dropWhile isValuePart)
  if attributes.isEmpty && found.isEmpty then none
  else some ({ l with attributes, keywords := found }, rest)

/-- Reads the `t` extension after its letter. -/
def readTransform? (l : Locale) (rest : List String) : Option (Locale × List String) := do
  let (source, rest) ← match rest with
    | s :: _ =>
      if (LanguageId.language? s).isSome then
        (LanguageId.read? rest).map fun (id, rest) => (some id, rest)
      else some (none, rest)
    | [] => some (none, [])
  let (found, rest) ← readFields? [] rest
  if source.isNone && found.isEmpty then none
  else some ({ l with transform := some ⟨source, found⟩ }, rest)

/-- Reads the private extension after its letter: all that is left. -/
def readPrivate? (l : Locale) (rest : List String) : Option (Locale × List String) :=
  if rest.isEmpty || !rest.all (isSubtag Char.isAlphanum 1 8) then none
  else some ({ l with privateUse := rest.map String.toLower }, [])

/-- Inserts an extension at its letter's place. -/
def insertOther (e : OtherExtension) : List OtherExtension → List OtherExtension
  | [] => [e]
  | f :: fs => if e.letter < f.letter then e :: f :: fs else f :: insertOther e fs

/-- Reads the extension of another letter after that letter. -/
def readOther? (letter : Char) (l : Locale) (rest : List String) : Option (Locale × List String) :=
  let parts := rest.takeWhile (isSubtag Char.isAlphanum 2 8)
  if parts.isEmpty then none
  else
    let others := insertOther ⟨letter, parts.map String.toLower⟩ l.others
    some ({ l with others }, rest.dropWhile (isSubtag Char.isAlphanum 2 8))

/-- Reads extensions up to the end, none of them twice. Each takes at least its letter, so the
number of subtags bounds theirs. -/
def extensions? : Nat → List Char → Locale → List String → Option Locale
  | _, _, l, [] => some l
  | 0, _, _, _ => none
  | most + 1, seen, l, s :: rest =>
    match s.toList.map Char.toLower with
    | [c] =>
      if c ∈ seen || !c.isAlpha then none
      else do
        let (l, rest) ← match c with
          | 'u' => readUnicode? l rest
          | 't' => readTransform? l rest
          | 'x' => readPrivate? l rest
          | _ => readOther? c l rest
        extensions? most (c :: seen) l rest
    | _ => none

/-- The locale that a tag names, if it is well formed. -/
def ofText? (s : String) : Option Locale := do
  let subtags := (Text.split '-' s.toList).map String.ofList
  let (id, rest) ← LanguageId.read? subtags
  extensions? rest.length [] (ofId id) rest

/-- The first well-formed tag of a list; English if there is none. -/
def resolve (tags : List String) : Locale :=
  (tags.findSome? ofText?).getD english

end Locale
end Phrasebook
