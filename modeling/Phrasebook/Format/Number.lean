import Phrasebook.Binary64.Text
import Phrasebook.Currency
import Phrasebook.Error
import Phrasebook.Format.LocaleData

/-! Formats of numbers: plain, as money, and as percentages. -/
namespace Phrasebook
variable {m : Type → Type} [Monad m]

/-- A number as a locale writes it. One that is not finite is not localised. -/
def formatDecimal (data : LocaleData m) (l : Locale) (x : Binary64) (places : Places) :
    m String :=
  match x.shortest? .even with
  | none => pure x.text
  | some d => do
    let symbols ← data.symbols l
    pure (symbols.format (places.fit d))

/-- Where an amount's currency comes from. -/
inductive CurrencyChoice where
  | named (c : Currency)
  | ofLocale
deriving DecidableEq, Repr

inductive NumberFormat where
  | decimal (places : Places)
  | currency (choice : CurrencyChoice)
  | percent
deriving DecidableEq, Repr

namespace NumberFormat

/-- The greatest number of fraction digits that a format may ask for. -/
def maxPlaces : Nat := 20

/-- Reads a format: a number of digits, a currency code, or the name of a preset. -/
def ofText (format : Option String) : Except PlaceholderError NumberFormat :=
  let f := format.getD ""
  if f = "" then .ok (.decimal .standard)
  else if f.toList.all Char.isDigit then
    let places := Binary64.digitsValue f.toList
    if places ≤ maxPlaces then .ok (.decimal (.exactly places))
    else .error (.unknownNumberFormat f)
  else
    match Currency.ofCode? f with
    | some c => .ok (.currency (.named c))
    | none =>
      if f = "currency" then .ok (.currency .ofLocale)
      else if f = "percent" then .ok .percent
      else .error (.unknownNumberFormat f)

/-- A text that is no format is reported as it is. -/
theorem eq_of_ofText_eq_error {f : String} {e : PlaceholderError}
    (h : ofText (some f) = .error e) : e = .unknownNumberFormat f := by
  simp only [ofText, Option.getD_some] at h
  repeat' split at h
  all_goals cases h <;> rfl

def sign (x : Binary64) : String :=
  if x.isNegative then "-" else ""

/-- A sign that ends in a letter never touches the digits. -/
def endsInLetter (s : String) : Bool :=
  match s.toList.getLast? with
  | some c => c.isAlpha
  | none => false

def format (f : NumberFormat) (data : LocaleData m) (settings : CurrencySettings) (l : Locale)
    (x : Binary64) : m String :=
  let placement := SignPlacement.ofLanguage l.id.language
  match f with
  | decimal places => formatDecimal data l x places
  | percent => do
    let body ← formatDecimal data l (x * .ofInt 100).abs .standard
    pure (sign x ++ body ++ placement.percent)
  | currency choice => do
    let code := match choice with
      | .named c => c
      | .ofLocale => settings.currency l
    let body ← formatDecimal data l x.abs .money
    let gap := if endsInLetter code.symbol then "\u00a0" else placement.gap
    pure <| if placement.afterAmount then sign x ++ body ++ gap ++ code.symbol
      else sign x ++ code.symbol ++ gap ++ body

end NumberFormat
end Phrasebook
