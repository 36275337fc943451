import Phrasebook.Renderer

/-! Saying phrases in the active locale. -/
namespace Phrasebook

/-- The templates of one locale by the keys of the phrases. -/
abbrev Phrases := Dictionary String

structure Speaker where
  /-- The tag of the active locale. -/
  locale : String := "en"
  /-- The tag that formats fall back on if that of the active locale is not well formed. -/
  fallback : String := "en"
  renderer : Renderer := {}
  /-- What is loaded, by locale tag. -/
  books : Dictionary Phrases := ∅
deriving DecidableEq, Repr

namespace Speaker

def forgetMessages (s : Speaker) : Speaker :=
  { s with renderer := s.renderer.forgetMessages }

/-- Forgets the locale data. -/
def forgetLocales (s : Speaker) : Speaker :=
  { s with renderer := s.renderer.forgetLocales }

/-- Makes a locale active. The same key has another template in another locale, so a change forgets
the messages. -/
def speakIn (locale : String) (s : Speaker) : Speaker :=
  if locale = s.locale then s else { s with locale }.forgetMessages

def fallBackOn (locale : String) (s : Speaker) : Speaker :=
  { s with fallback := locale }

/-- Replaces all phrases of a locale. Those of the active one are then read anew. -/
def load (locale : String) (phrases : Phrases) (s : Speaker) : Speaker :=
  let loaded := { s with books := s.books.insert locale phrases }
  if locale = s.locale then loaded.forgetMessages else loaded

def isLoaded (s : Speaker) (locale : String) : Bool :=
  s.books.contains locale

/-- The template of a key in the active locale. -/
def template? (s : Speaker) (key : String) : Option String :=
  (s.books.get? s.locale).bind (·.get? key)

/-- The text of a key in the active locale, or nothing if it has no such key. -/
def say (key : String) (values : Option Values) (s : Speaker) :
    Except PhraseError (Option String) × Speaker :=
  match s.books.get? s.locale with
  | none => (.error (.notLoaded s.locale), s)
  | some phrases =>
    match phrases.get? key with
    | none => (.ok none, s)
    | some template =>
      let (said, renderer) := s.renderer.fill key template values [s.locale, s.fallback]
      (said.map some, { s with renderer })

end Speaker
end Phrasebook
