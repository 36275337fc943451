import Phrasebook.Message

/-! Rendering with memory: the template of a key is read once, and not again until the messages are
forgotten. -/
namespace Phrasebook

/-- How often the message of a key was remembered, and how often not. -/
structure MemoryCounts where
  hits : Nat := 0
  misses : Nat := 0
deriving DecidableEq, Repr

structure Renderer where
  settings : CurrencySettings := {}
  caches : FormatCaches := {}
  /-- The messages by key, or nothing for a key with a plain template. -/
  messages : Dictionary (Option Message) := ∅
  counts : MemoryCounts := {}
deriving DecidableEq, Repr

namespace Renderer

/-- The message of a key, from the given template if none is remembered. An error is not. -/
def message (key template : String) (r : Renderer) :
    Except PlaceholderError (Option Message) × Renderer :=
  match r.messages.get? key with
  | some t => (.ok t, { r with counts.hits := r.counts.hits + 1 })
  | none =>
    let r := { r with counts.misses := r.counts.misses + 1 }
    match Message.ofText? template with
    | .error e => (.error e, r)
    | .ok t => (.ok t, { r with messages := r.messages.insert key t })

/-- The text of the message of a key. Without values, and for a plain template, it is the given
template. -/
def fill (key template : String) (values : Option Values) (locales : List String)
    (r : Renderer) : Except PhraseError String × Renderer :=
  match r.message key template, values with
  | (.error e, r), _ => (.error (.placeholder e), r)
  | (.ok (some t), r), some values =>
    let (rendered, caches) := t.render .cached r.settings locales values r.caches
    (rendered.mapError .value, { r with caches })
  | (.ok _, r), _ => (.ok template, r)

def forgetMessages (r : Renderer) : Renderer :=
  { r with messages := ∅ }

/-- Forgets the locale data. -/
def forgetLocales (r : Renderer) : Renderer :=
  { r with caches := {} }

end Renderer
end Phrasebook
