import Phrasebook.Formatter
import Phrasebook.Template.Scan

/-! Messages: templates with a formatter for each placeholder, and the texts that they make of
values. -/
namespace Phrasebook
variable {m : Type → Type} [Monad m]

inductive Part where
  | text (s : String)
  | placeholder (source name : String) (formatter : Formatter)
deriving DecidableEq, Repr

structure Message where
  parts : List Part
deriving DecidableEq, Repr

/-- The formatter of a placeholder. -/
def Placeholder.formatter (p : Placeholder) : Except PlaceholderError Formatter :=
  Formatter.ofFormat p.kindName p.format

namespace Part

def ofSegment : Segment → Except PlaceholderError Part
  | .literal s => .ok (text s)
  | .placeholder p => placeholder p.source p.name <$> p.formatter

def name? : Part → Option String
  | text _ => none
  | placeholder _ name _ => some name

/-- The text of a part. A placeholder without a value stays as it was written. -/
def render (data : LocaleData m) (settings : CurrencySettings) (locales : List String)
    (values : Values) : Part → m (Except Failure String)
  | text s => pure (.ok s)
  | placeholder source name formatter =>
    match values.get? name with
    | some v => formatter.format data settings locales v
    | none => pure (.ok source)

end Part

namespace Message

/-- The parts of segments from left to right; the first error counts. -/
def partsOf : List Segment → Except PlaceholderError (List Part)
  | [] => .ok []
  | s :: ss => do
    let part ← Part.ofSegment s
    let parts ← partsOf ss
    pure (part :: parts)

/-- The message of a template, unless the template is plain. -/
def ofText? (template : String) : Except PlaceholderError (Option Message) :=
  let t := Template.ofText template
  if t.isPlain then .ok none
  else (fun parts => some ⟨parts⟩) <$> partsOf t.segments

/-- The names of the placeholders from left to right. -/
def names (t : Message) : List String :=
  t.parts.filterMap Part.name?

/-- The texts of parts from left to right, up to the first error. -/
def renderParts (data : LocaleData m) (settings : CurrencySettings) (locales : List String)
    (values : Values) : List Part → m (Except Failure String)
  | [] => pure (.ok "")
  | p :: ps => do
    match ← p.render data settings locales values with
    | .error e => pure (.error e)
    | .ok s =>
      match ← renderParts data settings locales values ps with
      | .error e => pure (.error e)
      | .ok rest => pure (.ok (s ++ rest))

/-- The text of the message with values in place of its placeholders. -/
def render (t : Message) (data : LocaleData m) (settings : CurrencySettings)
    (locales : List String) (values : Values) : m (Except Failure String) :=
  renderParts data settings locales values t.parts

end Message

/-- The text of a template that is read for this one use. Without values, and without placeholders,
it is the template itself. -/
def fillTemplate (data : LocaleData m) (settings : CurrencySettings) (template : String)
    (values : Option Values) (locales : List String) : m (Except PhraseError String) :=
  match Message.ofText? template, values with
  | .error e, _ => pure (.error (.placeholder e))
  | .ok (some t), some values => do
    let rendered ← t.render data settings locales values
    pure (rendered.mapError .value)
  | .ok _, _ => pure (.ok template)

end Phrasebook
