/-! Locale tags in canonical case and order. -/
namespace Phrasebook

/-- Language, script, region and variants. -/
structure LanguageId where
  language : String
  script : Option String
  region : Option String
  /-- In increasing order. -/
  variants : List String
deriving DecidableEq, Repr

/-- A key of an extension with its value's parts. -/
structure Keyword where
  key : String
  parts : List String
deriving DecidableEq, Repr

/-- A transformed-content extension: the language it was transformed from, and fields. -/
structure Transform where
  source : Option LanguageId
  fields : List Keyword
deriving DecidableEq, Repr

/-- The extension of any other single letter. -/
structure OtherExtension where
  letter : Char
  parts : List String
deriving DecidableEq, Repr

structure Locale where
  id : LanguageId
  /-- Attributes of the `u` extension, in increasing order. -/
  attributes : List String
  /-- Keywords of the `u` extension, in increasing order of their keys. -/
  keywords : List Keyword
  transform : Option Transform
  /-- In increasing order of their letters. -/
  others : List OtherExtension
  /-- Parts of the private extension `x`. -/
  privateUse : List String
deriving DecidableEq, Repr

namespace LanguageId

def ofLanguage (language : String) : LanguageId :=
  ⟨language, none, none, []⟩

def parts (id : LanguageId) : List String :=
  id.language :: (id.script.toList ++ id.region.toList ++ id.variants)

end LanguageId

namespace Locale

def ofId (id : LanguageId) : Locale :=
  ⟨id, [], [], none, [], []⟩

def english : Locale :=
  .ofId (.ofLanguage "en")

def unicodeParts (l : Locale) : List String :=
  if l.attributes.isEmpty && l.keywords.isEmpty then []
  else "u" :: (l.attributes ++ l.keywords.flatMap fun k => k.key :: k.parts)

/-- A field without a value has the value `true`. -/
def transformParts (l : Locale) : List String :=
  match l.transform with
  | none => []
  | some t =>
    let source := match t.source with
      | none => []
      | some id => id.parts.map String.toLower
    "t" :: (source ++ t.fields.flatMap fun k => k.key :: if k.parts.isEmpty then ["true"] else k.parts)

def privateParts (l : Locale) : List String :=
  if l.privateUse.isEmpty then [] else "x" :: l.privateUse

/-- All subtags: the extensions in order of their letters, the private one last. -/
def parts (l : Locale) : List String :=
  let others (es : List OtherExtension) := es.flatMap fun e => e.letter.toString :: e.parts
  l.id.parts ++ others (l.others.filter (·.letter < 't')) ++ l.transformParts ++ l.unicodeParts ++
    others (l.others.filter (¬ ·.letter < 't')) ++ l.privateParts

def text (l : Locale) : String :=
  "-".intercalate l.parts

/-- The parts of the value of a keyword. -/
def keyword? (l : Locale) (key : String) : Option (List String) :=
  (l.keywords.find? (·.key == key)).map (·.parts)

end Locale
end Phrasebook
