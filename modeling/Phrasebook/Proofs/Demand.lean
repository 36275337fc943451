import Mathlib.Data.Finset.Card
import Phrasebook.Proofs.Effects
import Phrasebook.Proofs.Tags
import Phrasebook.Renderer

/-! What formats ask locale data for. After any uses the caches hold what was asked for since they
were last forgotten, and nothing else. -/
namespace Phrasebook

namespace Cache
variable {κ δ : Type} {load : κ → δ} {c : Cache load} {asked : List κ}

/-- There is one entry for each of the keys that were asked for, and no other. -/
structure Holds (c : Cache load) (asked : List κ) : Prop where
  nodup : (c.entries.map Prod.fst).Nodup
  mem_iff : ∀ key, key ∈ c.entries.map Prod.fst ↔ key ∈ asked

theorem holds_empty : (∅ : Cache load).Holds [] where
  nodup := List.nodup_nil
  mem_iff _ := Iff.rfl

/-- The size is the number of different keys. -/
theorem Holds.size_eq [DecidableEq κ] (h : c.Holds asked) : c.size = asked.toFinset.card := by
  have hkeys : (c.entries.map Prod.fst).toFinset = asked.toFinset := by
    ext key
    rw [List.mem_toFinset, List.mem_toFinset, h.mem_iff]
  rw [← hkeys, List.toFinset_card_of_nodup h.nodup, List.length_map, size]

variable [BEq κ] [LawfulBEq κ]

/-- The entry of a key is fetched, if there is a key. -/
def ask (key? : Option κ) (c : Cache load) : Cache load :=
  match key? with
  | none => c
  | some key => (c.fetch key).2

theorem Holds.fetch (h : c.Holds asked) (key : κ) : (c.fetch key).2.Holds (key :: asked) := by
  simp only [Cache.fetch]
  cases hl : c.entries.lookup key with
  | some data =>
    have hkey : key ∈ asked := by
      obtain ⟨before, after, he, -⟩ := List.lookup_eq_some_iff.mp hl
      rw [← h.mem_iff, he]
      simp
    refine ⟨h.nodup, ?_⟩
    intro key'
    rw [h.mem_iff, List.mem_cons]
    exact ⟨Or.inr, fun hk => hk.elim (fun he => he ▸ hkey) id⟩
  | none =>
    have hkey : key ∉ c.entries.map Prod.fst := by
      intro hm
      obtain ⟨e, he, rfl⟩ := List.mem_map.mp hm
      simpa using List.lookup_eq_none_iff.mp hl e he
    refine ⟨List.nodup_cons.mpr ⟨hkey, h.nodup⟩, ?_⟩
    intro key'
    rw [List.map_cons, List.mem_cons, List.mem_cons, h.mem_iff]

theorem Holds.ask {β : Type} {key? : β → Option κ} {past : List β}
    (h : c.Holds (past.filterMap key?)) (b : β) :
    (c.ask (key? b)).Holds ((b :: past).filterMap key?) := by
  rw [List.filterMap_cons]
  cases key? b with
  | none => exact h
  | some key => exact h.fetch key

end Cache

/-- What one rendering asks for: at most one entry of each kind. -/
structure Demand where
  symbols : Option Locale := none
  rules : Option (Locale × RuleKind) := none
  layout : Option (Locale × DateFields) := none

def FormatCaches.ask (d : Demand) (caches : FormatCaches) : FormatCaches where
  symbols := caches.symbols.ask d.symbols
  rules := caches.rules.ask d.rules
  layouts := caches.layouts.ask d.layout

/-! Each format with what it asks for. -/

variable {settings : CurrencySettings} {locales : List String} {l : Locale} {x : Binary64}
  {caches : FormatCaches}

namespace Binary64

theorem isSome_shortest? (tie : Tie) (x : Binary64) : (x.shortest? tie).isSome = x.isFinite := by
  cases x <;> rfl

theorem isFinite_abs (x : Binary64) : x.abs.isFinite = x.isFinite := by
  cases x <;> rfl

theorem isFinite_of_toInt64? {n : Int64} (h : x.toInt64? = some n) : x.isFinite = true := by
  cases x with
  | nan | infinite => cases h
  | finite => rfl

end Binary64

/-- The signs of a locale, for a number that is finite. -/
def decimalDemand (l : Locale) (x : Binary64) : Demand where
  symbols := if x.isFinite then some l else none

theorem formatDecimal_cached (places : Places) :
    (formatDecimal .cached l x places caches).2 = caches.ask (decimalDemand l x) := by
  have hfinite := x.isSome_shortest? .even
  simp only [formatDecimal, decimalDemand, ← hfinite]
  cases x.shortest? .even <;> rfl

namespace NumberFormat

/-- The number that is printed. -/
def printed (f : NumberFormat) (x : Binary64) : Binary64 :=
  match f with
  | decimal _ => x
  | percent => (x * .ofInt 100).abs
  | currency _ => x.abs

theorem format_cached (f : NumberFormat) :
    (f.format .cached settings l x caches).2 = caches.ask (decimalDemand l (f.printed x)) := by
  cases f with
  | decimal places => exact formatDecimal_cached places
  | percent => exact formatDecimal_cached .standard
  | currency choice => exact formatDecimal_cached .money

end NumberFormat

/-- The rules of a locale, for a count that is finite. -/
theorem pluralCategory_cached (kind : RuleKind) :
    (pluralCategory .cached l kind x caches).2 =
      caches.ask { rules := if x.isFinite then some (l, kind) else none } := by
  simp only [pluralCategory]
  cases hn : x.toInt64? with
  | some n =>
    rw [if_pos (Binary64.isFinite_of_toInt64? hn)]
    rfl
  | none =>
    have hfinite := x.abs.isSome_shortest? .even
    simp only [← x.isFinite_abs, ← hfinite]
    cases x.abs.shortest? .even <;> rfl

namespace PluralFormat

/-- To choose a clause takes the rules, unless the count is not finite or has a clause of its own. -/
def clauseDemand (f : PluralFormat) (l : Locale) (x : Binary64) : Demand where
  rules :=
    if x.isFinite ∧ f.clauses.get? (exactSelector x) = none then some (l, f.kind) else none

/-- A finite count that is put into the chosen clause takes the signs too. -/
def demand (f : PluralFormat) (l : Locale) (x : Binary64) : Demand :=
  { f.clauseDemand l x with
    symbols :=
      if x.isFinite ∧ (f.clause? (m := Id) .direct l x).any (·.contains '#') then some l else none }

theorem clause?_cached (f : PluralFormat) :
    (f.clause? .cached l x caches).2 = caches.ask (f.clauseDemand l x) := by
  simp only [clause?, clauseDemand]
  cases f.clauses.get? (exactSelector x) with
  | some text =>
    rw [if_neg (by simp)]
    rfl
  | none =>
    simp only [and_true]
    exact pluralCategory_cached f.kind

theorem format_cached (f : PluralFormat) :
    (f.format .cached l x caches).2 = caches.ask (f.demand l x) := by
  have hclause : f.clause? .cached l x caches =
      (f.clause? (m := Id) .direct l x, caches.ask (f.clauseDemand l x)) :=
    Prod.ext (Correspondence.rel_clause access_cached_direct f caches) f.clause?_cached
  simp only [format, bind, StateT.bind, hclause, demand]
  cases f.clause? (m := Id) .direct l x with
  | none =>
    rw [if_neg (by simp)]
    rfl
  | some text =>
    simp only [Option.any_some]
    by_cases hash : text.contains '#' = true
    · simp only [hash, and_true]
      exact formatDecimal_cached .standard
    · rw [if_neg hash, if_neg (fun h => hash h.2)]
      rfl

end PluralFormat

namespace DateFields

/-- The layout of the fields, unless the year on the clock has more than four digits. -/
def demand (f : DateFields) (l : Locale) (date : Calendar.Moment) : Demand where
  layout :=
    if -9999 ≤ date.clock.date.year ∧ date.clock.date.year ≤ 9999 then some (l, f) else none

theorem format_cached (f : DateFields) (date : Calendar.Moment) :
    (f.format .cached l date caches).2 = caches.ask (f.demand l date) := by
  unfold format
  by_cases h : -9999 ≤ date.clock.date.year ∧ date.clock.date.year ≤ 9999
  · rw [clock_of_isOnCalendar (date.isOnCalendar_of_year h), if_pos h, demand, if_pos h]
    rfl
  · rw [demand, if_neg h]
    by_cases hcalendar : date.IsOnCalendar
    · rw [clock_of_isOnCalendar hcalendar, if_neg h]
      rfl
    · rw [clock_of_not_isOnCalendar hcalendar]
      rfl

end DateFields

namespace Formatter

/-- What a rendering asks for. A date with a fixed format asks for nothing, and so does a value that
is not of the expected kind. -/
def demand (f : Formatter) (locales : List String) (v : Value) : Demand :=
  let l := Locale.resolve locales
  match f with
  | plainText | select _ => {}
  | date f =>
    match f, v.moment with
    | .fields f, .ok d => f.demand l d
    | _, _ => {}
  | time f =>
    match v.moment with
    | .ok d => f.fields.demand l d
    | .error _ => {}
  | number f =>
    match v.number with
    | .ok x => decimalDemand l (f.printed x)
    | .error _ => {}
  | plural f =>
    match v.number with
    | .ok x => f.demand l x
    | .error _ => {}

/-- One case for each formatter. -/
theorem format_cached (f : Formatter) (v : Value) :
    (f.format .cached settings locales v caches).2 = caches.ask (f.demand locales v) := by
  cases f with
  | plainText | select => rfl
  | date f =>
    simp only [format, demand]
    cases v.moment with
    | error e => cases f <;> rfl
    | ok d =>
      cases f with
      | fields f => exact f.format_cached d
      | iso8601 | rfc1123 | timestamp => rfl
  | time f =>
    simp only [format, demand]
    cases v.moment with
    | error e => rfl
    | ok d => exact f.fields.format_cached d
  | number f =>
    simp only [format, demand]
    cases v.number with
    | error e => rfl
    | ok x => exact f.format_cached
  | plural f =>
    simp only [format, demand]
    cases v.number with
    | error e => rfl
    | ok x => exact f.format_cached

end Formatter

/-- A use of caches: a rendering, or to forget what was loaded. -/
inductive Use where
  | format (f : Formatter) (locales : List String) (v : Value)
  | forget

namespace FormatCaches

def use (settings : CurrencySettings) (caches : FormatCaches) : Use → FormatCaches
  | .format f locales v => (f.format .cached settings locales v caches).2
  | .forget => (Renderer.forgetLocales { settings, caches }).caches

/-- New caches after uses, of which the latest stands first. -/
def after (settings : CurrencySettings) : List Use → FormatCaches
  | [] => {}
  | u :: past => (after settings past).use settings u

/-- What was asked for since the caches were last forgotten. -/
def demands : List Use → List Demand
  | [] => []
  | .forget :: _ => []
  | .format f locales v :: past => f.demand locales v :: demands past

/-- The caches hold what was asked for. -/
structure Holds (caches : FormatCaches) (asked : List Demand) : Prop where
  symbols : caches.symbols.Holds (asked.filterMap Demand.symbols)
  rules : caches.rules.Holds (asked.filterMap Demand.rules)
  layouts : caches.layouts.Holds (asked.filterMap Demand.layout)

theorem holds_empty : ({} : FormatCaches).Holds [] :=
  ⟨Cache.holds_empty, Cache.holds_empty, Cache.holds_empty⟩

theorem Holds.ask {asked : List Demand} (h : caches.Holds asked) (d : Demand) :
    (caches.ask d).Holds (d :: asked) where
  symbols := h.symbols.ask d
  rules := h.rules.ask d
  layouts := h.layouts.ask d

theorem Holds.use {past : List Use} (h : caches.Holds (demands past)) (u : Use) :
    (caches.use settings u).Holds (demands (u :: past)) := by
  cases u with
  | forget => exact holds_empty
  | format f locales v =>
    rw [FormatCaches.use, f.format_cached]
    exact h.ask _

theorem holds_after (settings : CurrencySettings) (past : List Use) :
    (after settings past).Holds (demands past) := by
  induction past with
  | nil => exact holds_empty
  | cons u past ih => exact ih.use u

/-- Whatever caches were used for, a rendering gives what it gives with new ones, and the caches
have as many entries as different keys were asked for since they were last forgotten. To tell
locales apart by their texts would not change these numbers. -/
theorem format_after_and_sizes (settings : CurrencySettings) (past : List Use) :
    (∀ (f : Formatter) locales v, (f.format .cached settings locales v (after settings past)).1 =
      (f.format .cached settings locales v {}).1) ∧
      (after settings past).rules.size =
        ((demands past).filterMap Demand.rules).toFinset.card ∧
      (after settings past).symbols.size =
        ((demands past).filterMap Demand.symbols).toFinset.card ∧
      (after settings past).layouts.size =
        ((demands past).filterMap Demand.layout).toFinset.card ∧
      ∀ locales locales', (Locale.resolve locales).text = (Locale.resolve locales').text ↔
        Locale.resolve locales = Locale.resolve locales' := by
  have h : (after settings past).Holds (demands past) := holds_after settings past
  have htext : ∀ locales locales', (Locale.resolve locales).text = (Locale.resolve locales').text ↔
      Locale.resolve locales = Locale.resolve locales' := fun _ _ =>
    ⟨Locale.resolve_eq_of_text_eq, congrArg Locale.text⟩
  refine ⟨?_, h.rules.size_eq, h.symbols.size_eq, h.layouts.size_eq, htext⟩
  intro f locales v
  have hafter : (f.format .cached settings locales v (after settings past)).1 = _ :=
    Correspondence.rel_formatter access_cached_direct f v (after settings past)
  have hnew : (f.format .cached settings locales v {}).1 = _ :=
    Correspondence.rel_formatter access_cached_direct f v {}
  rw [hafter, hnew]

end FormatCaches
end Phrasebook
