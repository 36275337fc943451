import Phrasebook.CommandLine
import Phrasebook.Proofs.CalendarEnds
import Phrasebook.Proofs.Demand
import Phrasebook.Proofs.Entries
import Phrasebook.Proofs.FloatLiterals
import Phrasebook.Proofs.Integers
import Phrasebook.Proofs.Meaning

/-! The values that a formatter cannot show. It fails with exactly these, and says what it expected
and what it was given. A date off the calendar stops the program instead, unless it is shown in
UTC. -/
namespace Phrasebook
open Calendar

namespace Value
variable {v : Value} {e : Failure} {expected : String}

/-- Milliseconds in the supported range. -/
def IsSupported (ms : ℤ) : Prop :=
  Moment.firstMillis ≤ ms ∧ ms ≤ Moment.lastMillis

/-- Values that stand for numbers. -/
def IsNumeric : Value → Prop
  | integer _ | float _ => True
  | text s => Binary64.IsLiteral (Text.trim s).toList
  | date _ => False

/-- Values that stand for dates. The integer part of a number is moved into the range of 64-bit
integers first. -/
def IsDated : Value → Prop
  | integer n => IsSupported n.toInt
  | float x => ∃ negative m, x = .finite negative m ∧
    IsSupported (max (-2 ^ 63) (min (Binary64.truncated negative m) (2 ^ 63 - 1)))
  | text s => ∃ w : Written, w.text = (Text.trim s).toList
  | date _ => True

theorem written_of_isOffCalendar (h : v.IsOffCalendar) : v.written = .error .offCalendar := by
  cases v with
  | integer n | float x | text s => exact h.elim
  | date m => exact if_neg h

theorem written_of_not_isOffCalendar (h : ¬ v.IsOffCalendar) : v.written = .ok v.plainText := by
  cases v with
  | integer n | float x | text s => rfl
  | date m => exact if_pos (not_not.mp h)

theorem mismatch_of_isOffCalendar (h : v.IsOffCalendar) : v.mismatch expected = .offCalendar := by
  rw [mismatch, written_of_isOffCalendar h]

theorem mismatch_of_not_isOffCalendar (h : ¬ v.IsOffCalendar) :
    v.mismatch expected = .mismatch ⟨expected, v.plainText⟩ := by
  rw [mismatch, written_of_not_isOffCalendar h]

theorem number_eq_error_iff :
    v.number = .error e ↔ ¬ v.IsNumeric ∧ e = v.mismatch "number" := by
  cases v with
  | integer n => simp [number, IsNumeric]
  | float x => simp [number, IsNumeric]
  | date m => simp [number, IsNumeric, eq_comm]
  | text s =>
    rw [IsNumeric, ← Binary64.isSome_ofText?_iff, number]
    cases Binary64.ofText? (Text.trim s) with
    | none => simp [eq_comm]
    | some x => simp

theorem isSome_ofMillis?_iff {ms : ℤ} : (Moment.ofMillis? ms).isSome ↔ IsSupported ms := by
  simp only [Moment.ofMillis?, IsSupported]
  split <;> simp_all

theorem isSome_moment?_iff : v.moment?.isSome ↔ v.IsDated := by
  cases v with
  | integer n => exact isSome_ofMillis?_iff
  | float x =>
    cases x with
    | nan => simp [moment?, IsDated, Binary64.isFinite]
    | infinite negative => simp [moment?, IsDated, Binary64.isFinite]
    | finite negative m =>
      simp [moment?, IsDated, Binary64.isFinite, isSome_ofMillis?_iff, Binary64.toInt_toInt64]
  | text s =>
    rw [Option.isSome_iff_exists, IsDated, moment?, Moment.ofText?]
    simp only [moment?_eq_some_iff]
    constructor
    · rintro ⟨_, w, hw, -⟩
      exact ⟨w, hw⟩
    · rintro ⟨w, hw⟩
      exact ⟨_, w, hw, rfl⟩
  | date m => exact iff_of_true rfl trivial

theorem moment_eq_error_iff :
    v.moment = .error e ↔ ¬ v.IsDated ∧ e = v.mismatch "date" := by
  rw [← isSome_moment?_iff, moment]
  cases v.moment? with
  | none => simp [eq_comm]
  | some m => simp

theorem isOnCalendar_of_moment {d : Moment} (hv : ¬ v.IsOffCalendar) (h : v.moment = .ok d) :
    d.IsOnCalendar := by
  rw [moment] at h
  cases hd : v.moment? with
  | none =>
    rw [hd] at h
    cases h
  | some m =>
    rw [hd] at h
    cases h
    exact isOnCalendar_of_moment? hv hd

end Value

namespace DateFields
variable {d : Moment} {e : Failure}

theorem clock_eq_error_iff (h : d.IsOnCalendar) : clock d = .error e ↔
    ¬ (-9999 ≤ d.clock.date.year ∧ d.clock.date.year ≤ 9999) ∧
      e = .mismatch ⟨"date in the supported range", d.textInSeconds⟩ := by
  rw [clock_of_isOnCalendar h]
  split
  · rename_i hyear
    exact iff_of_false nofun fun h => h.1 hyear
  · rename_i hyear
    rw [and_iff_right hyear, Except.error.injEq, eq_comm]

theorem format_direct_eq_error_iff (g : DateFields) (l : Locale) (d : Moment) :
    g.format .direct l d = .error e ↔ clock d = .error e := by
  unfold format
  cases clock d with
  | error e' =>
    change Except.error e' = Except.error e ↔ _
    rw [Except.error.injEq, Except.error.injEq]
  | ok c => exact iff_of_false nofun nofun

end DateFields

namespace Formatter
variable {f : Formatter} {v : Value} {e : Failure} {settings : CurrencySettings}
  {locales : List String}

/-- Formatters of numbers, and of counts. -/
def ShowsNumber : Formatter → Prop
  | number _ | plural _ => True
  | _ => False

def ShowsDate : Formatter → Prop
  | date _ | time _ => True
  | _ => False

/-- Formatters of dates that show the fields of the calendar. -/
def ShowsFields : Formatter → Prop
  | date (.fields _) | time _ => True
  | _ => False

/-- Formatters of dates that show them in UTC. -/
def ShowsUtc : Formatter → Prop
  | date .iso8601 | date .rfc1123 | date .timestamp => True
  | _ => False

/-- What a formatter cannot show, and what it says then. The year is that of the date in its own
offset. -/
inductive Refuses (f : Formatter) (v : Value) : Mismatch → Prop where
  | notNumeric (hf : f.ShowsNumber) (hv : ¬ v.IsNumeric) : f.Refuses v ⟨"number", v.plainText⟩
  | notDated (hf : f.ShowsDate) (hv : ¬ v.IsDated) : f.Refuses v ⟨"date", v.plainText⟩
  | outOfRange {d : Moment} (hf : f.ShowsFields) (hv : v.moment = .ok d)
    (hyear : ¬ (-9999 ≤ d.clock.date.year ∧ d.clock.date.year ≤ 9999)) :
    f.Refuses v ⟨"date in the supported range", d.textInSeconds⟩

/-- On the calendar a value is refused where it is taken for what is shown. -/
theorem exists_refuses_iff (h : ¬ v.IsOffCalendar) : (∃ m, f.Refuses v m ∧ e = .mismatch m) ↔
    f.ShowsNumber ∧ v.number = .error e ∨ f.ShowsDate ∧ v.moment = .error e ∨
      f.ShowsFields ∧ ∃ d, v.moment = .ok d ∧ DateFields.clock d = .error e := by
  simp only [Value.number_eq_error_iff, Value.moment_eq_error_iff,
    Value.mismatch_of_not_isOffCalendar h]
  constructor
  · rintro ⟨m, hm, rfl⟩
    cases hm with
    | notNumeric hf hv => exact Or.inl ⟨hf, hv, rfl⟩
    | notDated hf hv => exact Or.inr (Or.inl ⟨hf, hv, rfl⟩)
    | outOfRange hf hv hyear =>
      have hcalendar := Value.isOnCalendar_of_moment h hv
      have hclock := (DateFields.clock_eq_error_iff hcalendar).mpr ⟨hyear, rfl⟩
      exact Or.inr (Or.inr ⟨hf, _, hv, hclock⟩)
  · rintro (⟨hf, hv, rfl⟩ | ⟨hf, hv, rfl⟩ | ⟨hf, d, hv, hclock⟩)
    · exact ⟨_, .notNumeric hf hv, rfl⟩
    · exact ⟨_, .notDated hf hv, rfl⟩
    · rw [DateFields.clock_eq_error_iff (Value.isOnCalendar_of_moment h hv)] at hclock
      exact ⟨_, .outOfRange hf hv hclock.1, hclock.2⟩

/-- One case for each formatter. -/
theorem direct_eq_error_iff (h : ¬ v.IsOffCalendar) : f.format .direct settings locales v =
    .error e ↔ ∃ m, f.Refuses v m ∧ e = .mismatch m := by
  rw [exists_refuses_iff h]
  cases f with
  | plainText | select g =>
    simp [ShowsNumber, ShowsDate, ShowsFields, format, Value.written_of_not_isOffCalendar h]
  | number g | plural g =>
    simp only [ShowsNumber, ShowsDate, ShowsFields, format]
    cases v.number with
    | error e' =>
      change Except.error e' = Except.error e ↔ _
      simp
    | ok x => simp
  | time g =>
    simp only [ShowsNumber, ShowsDate, ShowsFields, format]
    cases v.moment with
    | error e' =>
      change Except.error e' = Except.error e ↔ _
      simp
    | ok d => simp [TimeFormat.format, DateFields.format_direct_eq_error_iff]
  | date g =>
    simp only [ShowsNumber, ShowsDate, format]
    cases v.moment with
    | error e' =>
      change Except.error e' = Except.error e ↔ _
      simp
    | ok d =>
      cases g with
      | fields g => simp [ShowsFields, DateFormat.format, DateFields.format_direct_eq_error_iff]
      | iso8601 | rfc1123 | timestamp => simp [ShowsFields, DateFormat.format]

/-- A date off the calendar has neither a text nor fields. -/
theorem direct_of_isOffCalendar (hv : v.IsOffCalendar) (hf : ¬ f.ShowsUtc) :
    f.format .direct settings locales v = .error .offCalendar := by
  cases v with
  | integer n | float x | text s => exact hv.elim
  | date d =>
    have hwritten : (Value.date d).written = .error .offCalendar :=
      Value.written_of_isOffCalendar hv
    have hnumber : (Value.date d).number = .error .offCalendar :=
      congrArg Except.error (Value.mismatch_of_isOffCalendar hv)
    have hfields : ∀ g : DateFields,
        g.format .direct (Locale.resolve locales) d = .error .offCalendar := fun g =>
      (g.format_direct_eq_error_iff _ d).mpr (DateFields.clock_of_not_isOnCalendar hv)
    cases f with
    | plainText => exact hwritten
    | select g =>
      simp only [format, hwritten]
      rfl
    | number g | plural g =>
      simp only [format, hnumber]
      rfl
    | time g => exact hfields g.fields
    | date g =>
      cases g with
      | fields g => exact hfields g
      | iso8601 | rfc1123 | timestamp => exact (hf trivial).elim

/-- In UTC every date is shown. -/
theorem exists_direct_of_showsUtc (hf : f.ShowsUtc) (d : Moment) :
    ∃ text, f.format .direct settings locales (.date d) = .ok text := by
  cases f with
  | plainText | number | plural | time | select => exact hf.elim
  | date g =>
    cases g with
    | fields g => exact hf.elim
    | iso8601 | rfc1123 | timestamp => exact ⟨_, rfl⟩

theorem direct_eq_error_iff_of_isOffCalendar (hv : v.IsOffCalendar) :
    f.format .direct settings locales v = .error e ↔ ¬ f.ShowsUtc ∧ e = .offCalendar := by
  by_cases hf : f.ShowsUtc
  · cases v with
    | integer n | float x | text s => exact hv.elim
    | date d =>
      have hshown : ∃ text, f.format .direct settings locales (.date d) = .ok text :=
        exists_direct_of_showsUtc hf d
      obtain ⟨text, htext⟩ := hshown
      rw [htext]
      exact iff_of_false nofun fun h => h.1 hf
  · rw [direct_of_isOffCalendar hv hf, and_iff_right hf]
    exact ⟨fun h => (Except.error.inj h).symm, fun h => congrArg Except.error h.symm⟩

/-- A formatter fails with what it says of a value that it refuses, and with nothing else, whatever
the caches hold. Plain text and choices by text refuse nothing. Only a date off the calendar is not
told: the program stops at it, unless it is shown in UTC. -/
theorem format_eq_error_iff (f : Formatter) (settings : CurrencySettings) (locales : List String)
    (v : Value) (caches : FormatCaches) :
    (∀ e, (f.format .cached settings locales v caches).1 = .error (.mismatch e) ↔
      f.Refuses v e ∧ ¬ v.IsOffCalendar) ∧
    ((f.format .cached settings locales v caches).1 = .error .offCalendar ↔
      v.IsOffCalendar ∧ ¬ f.ShowsUtc) ∧
    (¬ v.IsOffCalendar →
      (∃ text, (plainText.format .cached settings locales v caches).1 = .ok text) ∧
        ∀ g, ∃ text, ((select g).format .cached settings locales v caches).1 = .ok text) := by
  have hdirect : ∀ g : Formatter, (g.format .cached settings locales v caches).1 =
      g.format .direct settings locales v := fun g =>
    Correspondence.rel_formatter access_cached_direct g v caches
  simp only [hdirect]
  by_cases hv : v.IsOffCalendar
  · simp only [direct_eq_error_iff_of_isOffCalendar hv, hv]
    simp
  · simp only [direct_eq_error_iff hv, hv]
    refine ⟨by simp, by simp, fun _ => ⟨⟨v.plainText, ?_⟩, fun g => ⟨g.format v.plainText, ?_⟩⟩⟩
    · exact Value.written_of_not_isOffCalendar hv
    · simp only [format, Value.written_of_not_isOffCalendar hv]
      rfl

/-- The last half hour of the year 9999 in UTC is already in the year 10000 an hour to the east. The
fields of such a date cannot be shown, but the date in UTC can. -/
theorem format_eq_error_iff_local_year : ∃ d : Moment, d.inUtc.clock.date = ⟨9999, 12, 31⟩ ∧
    ((time .short).format .cached {} [] (.date d) {}).1 =
      .error (.mismatch ⟨"date in the supported range", "+10000-01-01T00:30:00+01:00"⟩) ∧
    ∀ e, ((date .iso8601).format .cached {} [] (.date d) {}).1 ≠ .error e := by
  let d : Moment := ⟨253402299000, 0, ⟨3600, by decide⟩⟩
  have htext : d.textInSeconds = "+10000-01-01T00:30:00+01:00" := by decide
  have hcalendar : ¬ (Value.date d).IsOffCalendar := not_not.mpr (by decide)
  refine ⟨d, by decide, ?_, ?_⟩
  · rw [← htext]
    exact ((format_eq_error_iff (time .short) {} [] (.date d) {}).1 _).mpr
      ⟨.outOfRange trivial rfl (by decide), hcalendar⟩
  · have hfails := format_eq_error_iff (date .iso8601) {} [] (.date d) {}
    rintro (e | _) h
    · cases ((hfails.1 e).mp h).1 with
      | notNumeric hf => exact hf
      | notDated hf hv => exact hv trivial
      | outOfRange hf => exact hf
    · exact hcalendar (hfails.2.1.mp h).1

/-- The calendar begins in UTC with the year -262143, which an hour to the west is still the year
before. That year is not among those that can be shown, but instead of an error for that the program
stops. -/
theorem format_before_first_year : ∃ d : Moment, d.inUtc = .ofMillis Moment.firstMillis ∧
    d.clock.date = ⟨-262144, 12, 31⟩ ∧
    (time .short).Refuses (.date d)
      ⟨"date in the supported range", "-262144-12-31T23:00:00-01:00"⟩ ∧
    ((time .short).format .cached {} ["en"] (.date d) {}).1 = .error .offCalendar := by
  let d : Moment := ⟨-8334601228800, 0, ⟨-3600, by decide⟩⟩
  have htext : d.textInSeconds = "-262144-12-31T23:00:00-01:00" := by decide
  refine ⟨d, by decide, by decide, ?_, by decide⟩
  rw [← htext]
  exact .outOfRange trivial rfl (by decide)

end Formatter

/-! What stops the program. -/

section OffCalendar
variable {settings : CurrencySettings} {locales : List String} {values : Values}

/-- Values on the calendar do not stop the program. -/
theorem Placeholder.failure?_ne_offCalendar (p : Placeholder)
    (h : ∀ v, values.get? p.name = some v → ¬ v.IsOffCalendar) :
    p.failure? settings locales values ≠ some .offCalendar := by
  simp only [failure?, outcome?]
  cases p.formatter with
  | error reason => simp
  | ok f =>
    cases hv : values.get? p.name with
    | none => simp
    | some v =>
      dsimp only
      cases hresult : f.format (m := Id) .direct settings locales v with
      | ok text => simp
      | error e =>
        obtain ⟨m, -, rfl⟩ := (Formatter.direct_eq_error_iff (h v hv)).mp hresult
        simp

theorem Template.meaning_ne_offCalendar (t : Template)
    (h : ∀ name v, values.get? name = some v → ¬ v.IsOffCalendar) :
    t.meaning settings (some values) locales ≠ .error (.value .offCalendar) := by
  simp only [meaning]
  cases t.placeholders.findSome? Placeholder.fault? with
  | some reason => simp
  | none =>
    dsimp only [shown]
    cases hfailure : t.placeholders.findSome? (Placeholder.failure? settings locales values) with
    | none => simp [Except.mapError]
    | some e =>
      rintro ⟨⟩
      obtain ⟨p, -, hp⟩ := List.exists_of_findSome?_eq_some hfailure
      exact p.failure?_ne_offCalendar (h p.name) hp

/-- The values of the command line are read from texts, so none is a date off the calendar. -/
theorem EvalCommand.result_ne_offCalendar (c : EvalCommand) :
    c.result ≠ .error (.value .offCalendar) := by
  have hvalues : ∀ name v, (Dictionary.ofList (c.params.map fun p =>
      (p.1, Value.ofText p.2))).get? name = some v → ¬ v.IsOffCalendar := by
    intro name v hv
    rw [Dictionary.get?_ofList, List.lookup_eq_some_iff] at hv
    obtain ⟨front, back, heq, -⟩ := hv
    have hmem : (name, v) ∈ c.params.map fun p => (p.1, Value.ofText p.2) := by
      rw [← List.mem_reverse, heq]
      exact List.mem_append_right front List.mem_cons_self
    obtain ⟨p, -, hentry⟩ := List.mem_map.mp hmem
    cases hentry
    exact Value.not_isOffCalendar_ofText p.2
  rw [result, Template.fillTemplate_eq_meaning]
  exact Template.meaning_ne_offCalendar _ hvalues

end OffCalendar
end Phrasebook
