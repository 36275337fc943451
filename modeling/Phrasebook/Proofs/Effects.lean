import Phrasebook.Message

/-! Formats with two kinds of access to locale data. What a format makes of a value corresponds if
the data that it asks for does; with caches it is what the tables alone would give. -/
namespace Phrasebook
variable {m n : Type → Type} [Monad m] [Monad n] {α β : Type}

/-- A relation between programs with two effects, which holds between programs that do nothing but
return the same value and is kept when programs follow one another. -/
structure Correspondence (m n : Type → Type) [Monad m] [Monad n] where
  Rel : {α : Type} → m α → n α → Prop
  rel_pure : ∀ {α : Type} (a : α), Rel (pure a) (pure a)
  rel_bind : ∀ {α β : Type} {x : m α} {y : n α} {f : α → m β} {g : α → n β},
    Rel x y → (∀ a, Rel (f a) (g a)) → Rel (x >>= f) (y >>= g)

namespace Correspondence

/-- Both kinds of access answer each request with what corresponds. -/
structure Access (C : Correspondence m n) (d : LocaleData m) (e : LocaleData n) : Prop where
  symbols : ∀ l, C.Rel (d.symbols l) (e.symbols l)
  rules : ∀ l kind, C.Rel (d.rules l kind) (e.rules l kind)
  layout : ∀ l fields, C.Rel (d.layout l fields) (e.layout l fields)

variable {C : Correspondence m n} {d : LocaleData m} {e : LocaleData n}
  {settings : CurrencySettings} {locales : List String} {l : Locale} {x : Binary64}

theorem rel_formatDecimal (h : C.Access d e) (places : Places) :
    C.Rel (formatDecimal d l x places) (formatDecimal e l x places) := by
  simp only [formatDecimal]
  cases x.shortest? .even with
  | none => exact C.rel_pure _
  | some digits => exact C.rel_bind (h.symbols l) fun _ => C.rel_pure _

theorem rel_number (h : C.Access d e) (f : NumberFormat) :
    C.Rel (f.format d settings l x) (f.format e settings l x) := by
  cases f with
  | decimal places => exact rel_formatDecimal h places
  | percent => exact C.rel_bind (rel_formatDecimal h _) fun _ => C.rel_pure _
  | currency choice => exact C.rel_bind (rel_formatDecimal h _) fun _ => C.rel_pure _

theorem rel_category (h : C.Access d e) (kind : RuleKind) :
    C.Rel (pluralCategory d l kind x) (pluralCategory e l kind x) := by
  simp only [pluralCategory]
  cases x.toInt64? with
  | some count => exact C.rel_bind (h.rules l kind) fun _ => C.rel_pure _
  | none =>
    cases x.abs.shortest? .even with
    | none => exact C.rel_pure _
    | some digits => exact C.rel_bind (h.rules l kind) fun _ => C.rel_pure _

theorem rel_clause (h : C.Access d e) (f : PluralFormat) :
    C.Rel (f.clause? d l x) (f.clause? e l x) := by
  simp only [PluralFormat.clause?]
  cases f.clauses.get? (PluralFormat.exactSelector x) with
  | some text => exact C.rel_pure _
  | none => exact C.rel_bind (rel_category h f.kind) fun _ => C.rel_pure _

theorem rel_plural (h : C.Access d e) (f : PluralFormat) :
    C.Rel (f.format d l x) (f.format e l x) := by
  simp only [PluralFormat.format]
  apply C.rel_bind (rel_clause h f)
  intro clause
  cases clause with
  | none => exact C.rel_pure _
  | some text =>
    dsimp only
    split
    · exact C.rel_bind (rel_formatDecimal h .standard) fun _ => C.rel_pure _
    · exact C.rel_pure _

theorem rel_fields (h : C.Access d e) (f : DateFields) (date : Calendar.Moment) :
    C.Rel (f.format d l date) (f.format e l date) := by
  unfold DateFields.format
  cases DateFields.clock date with
  | error reason => exact C.rel_pure _
  | ok clock => exact C.rel_bind (h.layout l f) fun _ => C.rel_pure _

theorem rel_date (h : C.Access d e) (f : DateFormat) (date : Calendar.Moment) :
    C.Rel (f.format d l date) (f.format e l date) := by
  cases f with
  | fields f => exact rel_fields h f date
  | iso8601 | rfc1123 | timestamp => exact C.rel_pure _

section
variable [LawfulMonad m] [LawfulMonad n]

theorem rel_map {x : m α} {y : n α} (f : α → β) (h : C.Rel x y) : C.Rel (f <$> x) (f <$> y) := by
  rw [map_eq_pure_bind, map_eq_pure_bind]
  exact C.rel_bind h fun a => C.rel_pure (f a)

/-- One case for each formatter. -/
theorem rel_formatter (h : C.Access d e) (f : Formatter) (v : Value) :
    C.Rel (f.format d settings locales v) (f.format e settings locales v) := by
  cases f with
  | plainText | select => exact C.rel_pure _
  | date f =>
    simp only [Formatter.format]
    cases v.moment with
    | error e => exact C.rel_pure _
    | ok date => exact rel_date h f date
  | time f =>
    simp only [Formatter.format]
    cases v.moment with
    | error e => exact C.rel_pure _
    | ok date => exact rel_fields h f.fields date
  | number f =>
    simp only [Formatter.format]
    cases v.number with
    | error e => exact C.rel_pure _
    | ok x => exact rel_map _ (rel_number h f)
  | plural f =>
    simp only [Formatter.format]
    cases v.number with
    | error e => exact C.rel_pure _
    | ok x => exact rel_map _ (rel_plural h f)

theorem rel_part (h : C.Access d e) (values : Values) (p : Part) :
    C.Rel (p.render d settings locales values) (p.render e settings locales values) := by
  cases p with
  | text s => exact C.rel_pure _
  | placeholder source name formatter =>
    simp only [Part.render]
    cases values.get? name with
    | none => exact C.rel_pure _
    | some v => exact rel_formatter h formatter v

theorem rel_renderParts (h : C.Access d e) (values : Values) (parts : List Part) :
    C.Rel (Message.renderParts d settings locales values parts)
      (Message.renderParts e settings locales values parts) := by
  induction parts with
  | nil => exact C.rel_pure _
  | cons p ps ih =>
    apply C.rel_bind (rel_part h values p)
    intro front
    cases front with
    | error e => exact C.rel_pure _
    | ok s =>
      apply C.rel_bind ih
      intro rest
      cases rest <;> exact C.rel_pure _

end
end Correspondence

/-- What caches are asked for and what the tables hold: the same, whatever the caches hold. -/
def cachesAndTables : Correspondence (StateM FormatCaches) Id where
  Rel x y := ∀ caches, (x caches).1 = y
  rel_pure _ _ := rfl
  rel_bind := by
    intro α β x y f g h hf caches
    have hx := h caches
    rw [← hx]
    exact hf _ _

theorem access_cached_direct : cachesAndTables.Access .cached .direct where
  symbols l caches := caches.symbols.fetch_fst l
  rules l kind caches := caches.rules.fetch_fst (l, kind)
  layout l fields caches := caches.layouts.fetch_fst (l, fields)

/-- What was loaded before makes no difference to the text of a message. -/
theorem render_cached (t : Message) (settings : CurrencySettings) (locales : List String)
    (values : Values) (caches : FormatCaches) :
    (t.render .cached settings locales values caches).1 =
      t.render .direct settings locales values :=
  Correspondence.rel_renderParts access_cached_direct values t.parts caches

end Phrasebook
