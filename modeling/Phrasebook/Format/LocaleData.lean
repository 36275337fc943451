import Phrasebook.Format.DateFields
import Phrasebook.Plural.Languages

/-! Where formats get the data of locales from: directly from the tables, or from caches of what was
read before. -/
namespace Phrasebook

/-- Access to locale data, with the effect `m` of asking for it. -/
structure LocaleData (m : Type → Type) where
  symbols : Locale → m NumberSymbols
  rules : Locale → RuleKind → m PluralRules
  layout : Locale → DateFields → m DateLayout

/-- The data of the tables. -/
def LocaleData.direct : LocaleData Id where
  symbols l := NumberSymbols.ofLocale l
  rules l kind := PluralRules.ofLocale l kind
  layout l fields := fields.layout l

/-- What was loaded before, by its key. It never holds anything but what loading a key gives. -/
structure Cache {κ δ : Type} (load : κ → δ) where
  entries : List (κ × δ)
  loaded : ∀ e ∈ entries, e.2 = load e.1
deriving DecidableEq, Repr

namespace Cache
variable {κ δ : Type} [BEq κ] [LawfulBEq κ] {load : κ → δ}

instance : EmptyCollection (Cache load) := ⟨⟨[], List.forall_mem_nil _⟩⟩

def size (c : Cache load) : Nat :=
  c.entries.length

/-- The entry of a key, which is loaded if there is none. -/
def fetch (key : κ) (c : Cache load) : δ × Cache load :=
  match c.entries.lookup key with
  | some data => (data, c)
  | none =>
    let data := load key
    (data, ⟨(key, data) :: c.entries, List.forall_mem_cons.2 ⟨rfl, c.loaded⟩⟩)

/-- Whether a key was loaded before makes no difference to what is fetched. -/
@[simp] theorem fetch_fst (key : κ) (c : Cache load) : (c.fetch key).1 = load key := by
  simp only [fetch]
  cases h : c.entries.lookup key with
  | none => rfl
  | some data =>
    obtain ⟨before, after, he, -⟩ := List.lookup_eq_some_iff.mp h
    exact c.loaded (key, data) (by simp [he])

end Cache

structure FormatCaches where
  symbols : Cache NumberSymbols.ofLocale := ∅
  rules : Cache fun key : Locale × RuleKind => PluralRules.ofLocale key.1 key.2 := ∅
  layouts : Cache fun key : Locale × DateFields => key.2.layout key.1 := ∅
deriving DecidableEq, Repr

/-- The data of the caches, which are filled on demand. -/
def LocaleData.cached : LocaleData (StateM FormatCaches) where
  symbols l caches :=
    let (data, symbols) := caches.symbols.fetch l
    (data, { caches with symbols })
  rules l kind caches :=
    let (data, rules) := caches.rules.fetch (l, kind)
    (data, { caches with rules })
  layout l fields caches :=
    let (data, layouts) := caches.layouts.fetch (l, fields)
    (data, { caches with layouts })

end Phrasebook
