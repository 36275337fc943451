import Phrasebook.Decimal
import Phrasebook.Locale.Lookup

/-! The digits and signs that a locale writes numbers with. -/
namespace Phrasebook

structure NumberSymbols where
  /-- The digit zero; the other digits follow it in code order. -/
  zero : Char := '0'
  decimalSign : String := "."
  groupingSign : String := ","
  /-- The number of digits in the group before the point. -/
  primary : Nat := 3
  /-- The number of digits in the other groups. -/
  secondary : Nat := 3
  /-- How many digits there must be before the first group. -/
  minimumGrouping : Nat := 1
  minusSign : String := "-"
deriving DecidableEq, Repr

namespace NumberSymbols

def digit (s : NumberSymbols) (d : Char) : Char :=
  .ofNat (s.zero.toNat + (d.toNat - '0'.toNat))

/-- The text of some digits, without grouping. -/
def digits (s : NumberSymbols) (ds : List Char) : String :=
  .ofList (ds.map s.digit)

/-- A grouping sign goes before the digit that starts a group, this many digits from the end. -/
def startsGroup (s : NumberSymbols) (fromEnd : Nat) : Bool :=
  fromEnd = s.primary || (s.primary < fromEnd && (fromEnd - s.primary) % s.secondary = 0)

/-- The digits after the first one, with a grouping sign in front of each group. -/
def grouped (s : NumberSymbols) : List Char → String
  | [] => ""
  | d :: ds =>
    (if s.startsGroup (ds.length + 1) then s.groupingSign else "") ++ s.digits [d] ++ s.grouped ds

/-- The digits of a whole number, grouped if there are enough of them. -/
def whole (s : NumberSymbols) (ds : List Char) : String :=
  if ds.length < s.primary + s.minimumGrouping then s.digits ds
  else s.digits (ds.take 1) ++ s.grouped (ds.drop 1)

/-- A number as the locale writes it. -/
def format (s : NumberSymbols) (x : Decimal) : String :=
  (if x.negative then s.minusSign else "") ++ s.whole x.integerDigits ++
    if x.places = 0 then "" else s.decimalSign ++ s.digits x.fractionDigits

/-- A whole number without grouping and with zeros in front up to a width. -/
def plain (s : NumberSymbols) (width n : Nat) : String :=
  s.digits (Decimal.digits width n)

/-- Decimal comma and points between groups. -/
def comma : NumberSymbols :=
  { decimalSign := ",", groupingSign := "." }

/-- Decimal comma and no-break spaces between groups. -/
def spaced : NumberSymbols :=
  { decimalSign := ",", groupingSign := "\u00a0" }

/-- Groups of three digits and then of two. -/
def indian : NumberSymbols :=
  { secondary := 2 }

/-- The signs of the languages that are covered. A language that is not here, such as Persian,
Marathi or Bulgarian, is given the signs of the root locale in place of its own. -/
def table : List (String × NumberSymbols) :=
  Locale.shared [
    (["de", "pt", "ro", "da", "el", "is", "nl", "tr", "vi", "id"], comma),
    (["fr"], { decimalSign := ",", groupingSign := "\u202f" }),
    (["es", "it"], { comma with minimumGrouping := 2 }),
    (["es-MX"], {}),
    (["pt-PT", "pl", "hu", "lv"], { spaced with minimumGrouping := 2 }),
    (["ru", "uk", "cs", "sk", "de-AT", "en-ZA", "fr-CA"], spaced),
    (["sl"], { comma with minimumGrouping := 2, minusSign := "\u2212" }),
    (["hr", "eu"], { comma with minusSign := "\u2212" }),
    (["fi", "sv", "nb", "nn", "no", "lt"], { spaced with minusSign := "\u2212" }),
    (["et"], { spaced with minimumGrouping := 2, minusSign := "\u2212" }),
    (["ar", "he"], { minusSign := "\u200e-" }),
    (["ar-EG"],
      { zero := '\u0660', decimalSign := "\u066b", groupingSign := "\u066c",
        minusSign := "\u061c-" }),
    (["hi", "en-IN"], indian),
    (["bn"], { indian with zero := '\u09e6' }),
    (["de-CH"], { groupingSign := "'" }),
    (["fr-CH"], { decimalSign := ",", groupingSign := "'" })]

/-- The digit zero of the numbering systems that are covered, for which a locale may ask. -/
def numberingSystems : List (String × Char) :=
  [("latn", '0'), ("arab", '\u0660'), ("arabext", '\u06f0'), ("beng", '\u09e6'),
    ("deva", '\u0966'), ("gujr", '\u0ae6'), ("guru", '\u0a66'), ("knda", '\u0ce6'),
    ("khmr", '\u17e0'), ("laoo", '\u0ed0'), ("mlym", '\u0d66'), ("mymr", '\u1040'),
    ("orya", '\u0b66'), ("taml", '\u0be6'), ("telu", '\u0c66'), ("thai", '\u0e50'),
    ("tibt", '\u0f20'), ("fullwide", '\uff10')]

/-- The signs of the locale, with the digits of the numbering system that it asks for. A system that
is not known is ignored. -/
def ofLocale (l : Locale) : NumberSymbols :=
  let symbols := l.lookup table {}
  match l.keyword? "nu" with
  | some [system] =>
    match numberingSystems.lookup system with
    | some zero => { symbols with zero }
    | none => symbols
  | _ => symbols

end NumberSymbols
end Phrasebook
