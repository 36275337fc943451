import Phrasebook.Dictionary
import Phrasebook.Locale.Lookup

/-! Currencies: their codes and signs, and which one a locale uses. -/
namespace Phrasebook

/-- The supported currencies, by ISO 4217. -/
inductive Currency where
  | aed | ars | aud | brl | cad | chf | clp | cny | cop | czk | dkk | egp | eur | gbp | hkd | huf
  | idr | ils | inr | isk | jpy | kes | krw | mxn | myr | ngn | nok | nzd | pen | php | pkr | pln
  | qar | ron | rub | sar | sek | sgd | thb | tryLira | twd | uah | usd | vnd | zar
deriving DecidableEq, Repr

namespace Currency

def all : List Currency := [
  aed, ars, aud, brl, cad, chf, clp, cny, cop, czk, dkk, egp, eur, gbp, hkd, huf, idr, ils, inr,
  isk, jpy, kes, krw, mxn, myr, ngn, nok, nzd, pen, php, pkr, pln, qar, ron, rub, sar, sek, sgd,
  thb, tryLira, twd, uah, usd, vnd, zar]

theorem mem_all (c : Currency) : c ∈ all := by
  cases c <;> decide

/-- The code and the sign. -/
def spelling : Currency → String × String
  | aed => ("AED", "AED")
  | ars => ("ARS", "ARS")
  | aud => ("AUD", "A$")
  | brl => ("BRL", "R$")
  | cad => ("CAD", "CA$")
  | chf => ("CHF", "CHF")
  | clp => ("CLP", "CLP")
  | cny => ("CNY", "CN¥")
  | cop => ("COP", "COP")
  | czk => ("CZK", "CZK")
  | dkk => ("DKK", "DKK")
  | egp => ("EGP", "EGP")
  | eur => ("EUR", "€")
  | gbp => ("GBP", "£")
  | hkd => ("HKD", "HK$")
  | huf => ("HUF", "HUF")
  | idr => ("IDR", "IDR")
  | ils => ("ILS", "₪")
  | inr => ("INR", "₹")
  | isk => ("ISK", "ISK")
  | jpy => ("JPY", "¥")
  | kes => ("KES", "KES")
  | krw => ("KRW", "₩")
  | mxn => ("MXN", "MX$")
  | myr => ("MYR", "MYR")
  | ngn => ("NGN", "NGN")
  | nok => ("NOK", "NOK")
  | nzd => ("NZD", "NZ$")
  | pen => ("PEN", "PEN")
  | php => ("PHP", "₱")
  | pkr => ("PKR", "PKR")
  | pln => ("PLN", "PLN")
  | qar => ("QAR", "QAR")
  | ron => ("RON", "RON")
  | rub => ("RUB", "RUB")
  | sar => ("SAR", "SAR")
  | sek => ("SEK", "SEK")
  | sgd => ("SGD", "SGD")
  | thb => ("THB", "THB")
  | tryLira => ("TRY", "TRY")
  | twd => ("TWD", "NT$")
  | uah => ("UAH", "UAH")
  | usd => ("USD", "$")
  | vnd => ("VND", "₫")
  | zar => ("ZAR", "ZAR")

def code (c : Currency) : String :=
  c.spelling.1

def symbol (c : Currency) : String :=
  c.spelling.2

/-- The currency with this code, in upper or lower case. -/
def ofCode? (s : String) : Option Currency :=
  all.find? (·.code == s.toUpper)

/-- The currencies of regions. -/
def byRegion : List (String × Currency) := Locale.shared [
  (["US", "EC", "SV", "PR"], usd),
  (["AT", "BE", "CY", "DE", "EE", "ES", "FI", "FR", "GR", "HR", "IE", "IT", "LT", "LU",
    "LV", "MT", "NL", "PT", "SI", "SK"], eur), (["AE"], aed), (["AR"], ars), (["AU"], aud),
  (["BR"], brl), (["CA"], cad), (["CH", "LI"], chf), (["CL"], clp), (["CN"], cny), (["CO"], cop),
  (["CZ"], czk), (["DK"], dkk), (["EG"], egp), (["GB"], gbp), (["HK"], hkd), (["HU"], huf),
  (["ID"], idr), (["IL"], ils), (["IN"], inr), (["IS"], isk), (["JP"], jpy), (["KE"], kes),
  (["KR"], krw), (["MX"], mxn), (["MY"], myr), (["NG"], ngn), (["NO"], nok), (["NZ"], nzd),
  (["PE"], pen), (["PH"], php), (["PK"], pkr), (["PL"], pln), (["QA"], qar), (["RO"], ron),
  (["RU"], rub), (["SA"], sar), (["SE"], sek), (["SG"], sgd), (["TH"], thb), (["TR"], tryLira),
  (["TW"], twd), (["UA"], uah), (["VN"], vnd), (["ZA"], zar)]

/-- The currencies of languages, for locales without a region that has one. -/
def byLanguage : List (String × Currency) := Locale.shared [
  (["en"], usd),
  (["de", "fr", "es", "it", "nl", "pt", "fi", "el", "et", "sk", "sl", "ga", "eu", "hr",
    "lt", "lv", "mt"], eur), (["cy"], gbp), (["cs"], czk), (["da"], dkk), (["fil"], php),
  (["he"], ils), (["hi"], inr), (["hu"], huf), (["id"], idr), (["is"], isk), (["ja"], jpy),
  (["ko"], krw), (["ms"], myr), (["nb", "nn", "no"], nok), (["pl"], pln), (["ro"], ron),
  (["ru"], rub), (["sv"], sek), (["th"], thb), (["tr"], tryLira), (["uk"], uah), (["vi"], vnd),
  (["zh"], cny)]

/-- The currency of a locale: its region's if there is one, else its language's. -/
def ofLocale? (l : Locale) : Option Currency :=
  (l.id.region.bind fun region => byRegion.lookup region) <|> byLanguage.lookup l.id.language

end Currency

/-- Which currencies are shown where a format leaves the choice to the locale. -/
structure CurrencySettings where
  /-- The currency of locales that have none. -/
  default : Currency := .usd
  /-- Currencies by locale tag or language, in place of the usual ones. -/
  overrides : Dictionary Currency := ∅
deriving DecidableEq, Repr

/-- The currency for a locale: set for its tag, set for its language, usual, or the default. -/
def CurrencySettings.currency (s : CurrencySettings) (l : Locale) : Currency :=
  let chosen := s.overrides.get? l.text <|> s.overrides.get? l.id.language <|>
    Currency.ofLocale? l
  chosen.getD s.default

/-- Where a language puts the signs of currencies and percentages. -/
structure SignPlacement where
  afterAmount : Bool := false
  /-- What stands between an amount and a sign. -/
  gap : String := ""
  percent : String := "%"
deriving DecidableEq, Repr

namespace SignPlacement

/-- Languages that write the sign of a currency after the amount. -/
def afterLanguages : List String :=
  ["de", "fr", "es", "it", "pt", "ru", "uk", "pl", "cs", "sk", "sl", "hr", "hu", "ro", "fi", "sv",
    "nb", "nn", "no", "da", "et", "lt", "lv", "el", "is"]

def ofLanguage (language : String) : SignPlacement :=
  if language ∈ afterLanguages then
    { afterAmount := true
      gap := "\u00a0"
      percent := if language = "it" || language = "pt" then "%" else "\u00a0%" }
  else if language = "nl" then { gap := "\u00a0" }
  else {}

end SignPlacement
end Phrasebook
