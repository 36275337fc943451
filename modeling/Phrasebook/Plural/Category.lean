/-! Plural categories. -/
namespace Phrasebook

inductive PluralCategory where
  | zero | one | two | few | many | other
deriving DecidableEq, Repr

namespace PluralCategory

def name : PluralCategory → String
  | zero => "zero"
  | one => "one"
  | two => "two"
  | few => "few"
  | many => "many"
  | other => "other"

def all : List PluralCategory :=
  [zero, one, two, few, many, other]

def ofName? (s : String) : Option PluralCategory :=
  all.find? (·.name == s)

end PluralCategory

/-- Whether a count says how many or which one in order. -/
inductive RuleKind where
  | cardinal
  | ordinal
deriving DecidableEq, Repr

end Phrasebook
