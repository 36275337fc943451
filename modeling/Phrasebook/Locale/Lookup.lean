import Phrasebook.Locale.Tag

/-! Looking locale data up: a locale without an entry of its own uses that of a more general one. -/
namespace Phrasebook.Locale

/-- The identifiers that stand for a locale in tables, the most particular first; `und` ends them. -/
def fallbacks (l : Locale) : List String :=
  let script := l.id.script.toList
  let region := l.id.region.toList
  let join (parts : List String) := "-".intercalate (l.id.language :: parts)
  [join (script ++ region), join region, join script, join [], "und"]

/-- The first entry that a table has for a locale. -/
def lookup? {α : Type} (table : List (String × α)) (l : Locale) : Option α :=
  l.fallbacks.findSome? fun id => table.lookup id

/-- The entry that a table has for a locale, or a default. -/
def lookup {α : Type} (table : List (String × α)) (default : α) (l : Locale) : α :=
  (l.lookup? table).getD default

/-- A table in which several identifiers share an entry. -/
def shared {α : Type} (rows : List (List String × α)) : List (String × α) :=
  rows.flatMap fun (ids, entry) => ids.map (·, entry)

end Phrasebook.Locale
