/-! Message templates: text with placeholders in it. -/
namespace Phrasebook

/-- One placeholder as it stands in a template: `{name}`, with an optional type and format. -/
structure Placeholder where
  /-- All of its text, braces included. -/
  source : String
  name : String
  kind : Option String
  /-- A word, or the clauses of a type that takes them. -/
  format : Option String
deriving DecidableEq, Repr

/-- The name of the type; the empty one stands for plain text. -/
def Placeholder.kindName (p : Placeholder) : String :=
  p.kind.getD ""

inductive Segment where
  | literal (text : String)
  | placeholder (p : Placeholder)
deriving DecidableEq, Repr

namespace Segment

/-- The text a segment was read from. -/
def source : Segment → String
  | literal text => text
  | placeholder p => p.source

def placeholder? : Segment → Option Placeholder
  | literal _ => none
  | placeholder p => some p

end Segment

structure Template where
  segments : List Segment
deriving DecidableEq, Repr

namespace Template

/-- The text a template was read from. -/
def source (t : Template) : String :=
  String.join (t.segments.map Segment.source)

/-- The placeholders from left to right. -/
def placeholders (t : Template) : List Placeholder :=
  t.segments.filterMap Segment.placeholder?

/-- A template without placeholders. -/
def isPlain (t : Template) : Bool :=
  t.placeholders.isEmpty

end Template
end Phrasebook
