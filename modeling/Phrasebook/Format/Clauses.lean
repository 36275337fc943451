import Phrasebook.Clause
import Phrasebook.Format.Number

/-! Formats that choose one of several texts: by a count, or by the text of a value. -/
namespace Phrasebook
variable {m : Type → Type} [Monad m]

/-- The category of a count in a locale. A count that is not finite is in `other`. -/
def pluralCategory (data : LocaleData m) (l : Locale) (kind : RuleKind) (count : Binary64) :
    m PluralCategory :=
  match count.toInt64? with
  | some n => do
    let rules ← data.rules l kind
    pure (rules.category (.ofNat n.toInt.natAbs))
  | none =>
    match count.abs.shortest? .even with
    | none => pure .other
    | some d => do
      let rules ← data.rules l kind
      pure (rules.category (.ofDecimal d))

structure PluralFormat where
  clauses : Clauses
  kind : RuleKind
deriving DecidableEq, Repr

namespace PluralFormat

def ofText (body : String) (kind : RuleKind) : PluralFormat :=
  ⟨.ofText .plural body, kind⟩

/-- The selector of exactly this count. -/
def exactSelector (count : Binary64) : String :=
  match count.toInt64? with
  | some n => "=" ++ (Decimal.ofInt n.toInt).text
  | none => "=" ++ count.text

/-- The clause for a count: that of exactly this count, else that of its category. -/
def clause? (f : PluralFormat) (data : LocaleData m) (l : Locale) (count : Binary64) :
    m (Option String) :=
  match f.clauses.get? (exactSelector count) with
  | some text => pure (some text)
  | none => do
    let category ← pluralCategory data l f.kind count
    pure (f.clauses.get? category.name)

/-- Puts the count in place of each number sign. -/
def substitute (text count : String) : String :=
  .ofList (text.toList.flatMap fun c => if c = '#' then count.toList else [c])

/-- The clause for a count with the count in it, or nothing without a clause. -/
def format (f : PluralFormat) (data : LocaleData m) (l : Locale) (count : Binary64) : m String := do
  match ← f.clause? data l count with
  | none => pure ""
  | some text =>
    if text.contains '#' then do
      let formatted ← formatDecimal data l count .standard
      pure (substitute text formatted)
    else pure text

end PluralFormat

structure SelectFormat where
  clauses : Clauses
deriving DecidableEq, Repr

namespace SelectFormat

def ofText (body : String) : SelectFormat :=
  ⟨.ofText .select body⟩

/-- The clause of exactly this choice, or nothing. -/
def format (f : SelectFormat) (choice : String) : String :=
  (f.clauses.get? choice).getD ""

end SelectFormat
end Phrasebook
