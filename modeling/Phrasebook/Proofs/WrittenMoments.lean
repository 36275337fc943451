import Phrasebook.Calendar.Text
import Phrasebook.Proofs.DecimalText

/-! The ways to write a moment in RFC 3339. A text is read exactly if it is one of them, and as the
moment that it is a way to write. -/
namespace Phrasebook.Calendar
variable {cs rest : List Char} {count n nanos : ℕ} {o : Offset} {m : Moment}

theorem ofDigitChars_lt (h : ∀ c ∈ cs, c.isDigit) : Nat.ofDigitChars 10 cs 0 < 10 ^ cs.length := by
  induction cs with
  | nil => decide
  | cons c cs ih =>
    obtain ⟨hc, hcs⟩ := List.forall_mem_cons.mp h
    have hrange : 48 ≤ c.toNat ∧ c.toNat ≤ 57 := Char.isDigit_iff_toNat.mp hc
    have hdigit : 10 * 0 + (c.toNat - 48) ≤ 9 := by omega
    have hle := Nat.mul_le_mul_left (10 ^ cs.length) hdigit
    have hrest := ih hcs
    rw [Nat.ofDigitChars_cons, Nat.ofDigitChars_eq_ofDigitChars_zero, List.length_cons, pow_succ]
    change 10 ^ cs.length * (10 * 0 + (c.toNat - 48)) + _ < _
    omega

/-- A number that is written with `count` digits. -/
structure Field (count : ℕ) where
  chars : List Char
  isDigit_chars : ∀ c ∈ chars, c.isDigit
  length_chars : chars.length = count

namespace Field

def value (f : Field count) : ℕ :=
  Nat.ofDigitChars 10 f.chars 0

theorem value_lt (f : Field count) : f.value < 10 ^ count := by
  have h := ofDigitChars_lt f.isDigit_chars
  rwa [f.length_chars] at h

/-- The field with this value. -/
def ofNat (n : ℕ) (hn : n < 10 ^ count) (hc : count ≠ 0) : Field count where
  chars := Decimal.digits count n
  isDigit_chars := fun _ hc => Decimal.isDigit_of_mem_digits hc
  length_chars := Decimal.length_digits hn hc

@[simp] theorem value_ofNat (hn : n < 10 ^ count) (hc : count ≠ 0) : (ofNat n hn hc).value = n :=
  Decimal.ofDigitChars_digits_nil count n

end Field

theorem fixedDigits?_eq_some_iff : fixedDigits? count cs = some (n, rest) ↔
    ∃ f : Field count, f.value = n ∧ cs = f.chars ++ rest := by
  constructor
  · intro h
    simp only [fixedDigits?] at h
    split at h
    · rename_i hds
      obtain ⟨hlength, hdigits⟩ : (cs.take count).length = count ∧
        ∀ c ∈ cs.take count, c.isDigit := by simpa using hds
      cases h
      exact ⟨⟨cs.take count, hdigits, hlength⟩, rfl, (List.take_append_drop count cs).symm⟩
    · cases h
  · rintro ⟨f, rfl, rfl⟩
    have hdigits : f.chars.all Char.isDigit := List.all_eq_true.mpr f.isDigit_chars
    rw [fixedDigits?, List.take_left' f.length_chars, List.drop_left' f.length_chars]
    simp [f.length_chars, hdigits, Field.value, Binary64.digitsValue_eq]

theorem after?_eq_some_iff {c : Char} : after? c cs = some rest ↔ cs = c :: rest := by
  cases cs with
  | nil => simp [after?]
  | cons c' cs => simp [after?, eq_comm]

section Sequence
variable {α : Type} {a : α}

/-- Reading goes on after a field. -/
theorem bind_fixedDigits?_eq_some_iff {next : ℕ × List Char → Option α} :
    (fixedDigits? count cs).bind next = some a ↔
      ∃ (f : Field count) (rest : List Char), cs = f.chars ++ rest ∧
        next (f.value, rest) = some a := by
  constructor
  · intro h
    obtain ⟨⟨n, rest⟩, hread, h⟩ := Option.bind_eq_some_iff.mp h
    obtain ⟨f, rfl, hcs⟩ := fixedDigits?_eq_some_iff.mp hread
    exact ⟨f, rest, hcs, h⟩
  · rintro ⟨f, rest, hcs, h⟩
    exact Option.bind_eq_some_iff.mpr ⟨_, fixedDigits?_eq_some_iff.mpr ⟨f, rfl, hcs⟩, h⟩

theorem bind_after?_eq_some_iff {c : Char} {next : List Char → Option α} :
    (after? c cs).bind next = some a ↔ ∃ rest, cs = c :: rest ∧ next rest = some a := by
  simp only [Option.bind_eq_some_iff, after?_eq_some_iff]

end Sequence

/-! Fractions of a second. -/

/-- Digits after a point, or nothing without digits. -/
def fractionText : List Char → List Char
  | [] => []
  | ds => '.' :: ds

/-- The nanoseconds of a fraction: the first nine digits count. -/
def fractionNanos (ds : List Char) : ℕ :=
  Nat.ofDigitChars 10 (ds.take 9) 0 * 10 ^ (9 - (ds.take 9).length)

theorem fractionNanos_lt (h : ∀ c ∈ cs, c.isDigit) : fractionNanos cs < 1000000000 := by
  have hlength : (cs.take 9).length ≤ 9 := List.length_take_le 9 cs
  have hlt : Nat.ofDigitChars 10 (cs.take 9) 0 < 10 ^ (cs.take 9).length :=
    ofDigitChars_lt fun c hc => h c (List.mem_of_mem_take hc)
  calc fractionNanos cs
      < 10 ^ (cs.take 9).length * 10 ^ (9 - (cs.take 9).length) :=
        Nat.mul_lt_mul_of_pos_right hlt (Nat.pow_pos (by decide))
    _ = 10 ^ 9 := by rw [← pow_add, Nat.add_sub_cancel' hlength]

theorem exists_of_fraction? (h : fraction? cs = some (nanos, rest)) :
    ∃ ds, (∀ c ∈ ds, c.isDigit) ∧ fractionNanos ds = nanos ∧ cs = fractionText ds ++ rest := by
  simp only [fraction?] at h
  split at h
  · rename_i cs
    split at h
    · cases h
    · rename_i hds
      cases h
      refine ⟨cs.takeWhile Char.isDigit, fun c hc => List.mem_takeWhile_imp hc, rfl, ?_⟩
      cases hdigits : cs.takeWhile Char.isDigit with
      | nil => simp [hdigits] at hds
      | cons d ds =>
        rw [fractionText, ← hdigits, List.cons_append, List.takeWhile_append_dropWhile]
        exact nofun
  · cases h
    exact ⟨[], List.forall_mem_nil _, rfl, rfl⟩

/-- A fraction is read to its end. -/
theorem fraction?_fractionText (hcs : ∀ c ∈ cs, c.isDigit)
    (hrest : ∀ c ∈ rest.head?, c.isDigit = false ∧ c ≠ '.') :
    fraction? (fractionText cs ++ rest) = some (fractionNanos cs, rest) := by
  cases cs with
  | nil =>
    cases rest with
    | nil => rfl
    | cons c rest =>
      have hc : c ≠ '.' := (hrest c rfl).2
      rw [fractionText, List.nil_append, fraction?]
      · rfl
      · rintro _ ⟨⟩
        exact hc rfl
  | cons d ds =>
    obtain ⟨htake, hdrop⟩ := Text.takeWhile_append_of_head? hcs fun c hc => (hrest c hc).1
    have hne : (d :: ds).isEmpty = false := rfl
    rw [fractionText, List.cons_append, fraction?, htake, hdrop, hne]
    · rfl
    · exact nofun

/-! Offsets. -/

theorem Offset.ofSeconds?_eq_some_iff {seconds : ℤ} :
    ofSeconds? seconds = some o ↔ o.seconds = seconds := by
  constructor
  · intro h
    rw [ofSeconds?] at h
    split at h
    · cases h
      rfl
    · cases h
  · rintro rfl
    rw [ofSeconds?, dif_pos o.lt_day]

/-- The ways to write an offset. -/
inductive Zone where
  | utc (letter : Char) (isZ_letter : letter = 'Z' ∨ letter = 'z')
  | hoursMinutes (sign : Char) (isSign_sign : sign = '+' ∨ sign = '-' ∨ sign = '\u2212')
    (hours : Field 2) (hours_le : hours.value ≤ 23) (minutes : Field 2)
    (minutes_le : minutes.value ≤ 59)

namespace Zone

def text : Zone → List Char
  | utc letter _ => [letter]
  | hoursMinutes sign _ hours _ minutes _ => sign :: (hours.chars ++ ':' :: minutes.chars)

def minutes : Zone → ℤ
  | utc .. => 0
  | hoursMinutes sign _ hours _ minutes _ =>
    if sign = '+' then hours.value * 60 + minutes.value else -(hours.value * 60 + minutes.value)

def offset (z : Zone) : Offset where
  seconds := z.minutes * 60
  lt_day := by
    cases z with
    | utc => exact Nat.zero_lt_succ _
    | hoursMinutes sign _ hours hhours minutes hminutes =>
      simp only [Zone.minutes]
      split <;> omega

/-- An offset follows a fraction without being taken for a part of it. -/
theorem head?_text (z : Zone) : ∀ c ∈ z.text.head?, c.isDigit = false ∧ c ≠ '.' := by
  intro c hc
  cases z with
  | utc letter hletter =>
    obtain rfl : letter = c := Option.some.inj hc
    rcases hletter with rfl | rfl <;> decide
  | hoursMinutes sign hsign hours hhours minutes hminutes =>
    obtain rfl : sign = c := Option.some.inj hc
    rcases hsign with rfl | rfl | rfl <;> decide

theorem offset?_text (z : Zone) : offset? z.text = some z.offset := by
  cases z with
  | utc letter hletter => rcases hletter with rfl | rfl <;> rfl
  | hoursMinutes sign hsign hours hhours minutes hminutes =>
    have hread : fixedDigits? 2 (hours.chars ++ ':' :: minutes.chars) =
        some (hours.value, ':' :: minutes.chars) := fixedDigits?_eq_some_iff.mpr ⟨hours, rfl, rfl⟩
    have hread' : fixedDigits? 2 minutes.chars = some (minutes.value, []) :=
      fixedDigits?_eq_some_iff.mpr ⟨minutes, rfl, (List.append_nil _).symm⟩
    rcases hsign with rfl | rfl | rfl
    all_goals
      simp [offset?, text, hread, hread', hhours, hminutes, after?,
        Offset.ofSeconds?_eq_some_iff, offset, Zone.minutes]
      omega

end Zone

theorem exists_of_offset? (h : offset? cs = some o) : ∃ z : Zone, z.text = cs ∧ z.offset = o := by
  unfold offset? at h
  split at h
  · cases h
    exact ⟨.utc 'Z' (Or.inl rfl), rfl, rfl⟩
  · cases h
    exact ⟨.utc 'z' (Or.inr rfl), rfl, rfl⟩
  · rename_i sign cs _ _
    extract_lets afterSign at h
    obtain ⟨negative, hsign, h⟩ : ∃ negative : Bool, (sign = '+' ∧ negative = false ∨
        (sign = '-' ∨ sign = '\u2212') ∧ negative = true) ∧ afterSign negative = some o := by
      split at h
      · rename_i hsign
        exact ⟨false, Or.inl ⟨hsign, rfl⟩, h⟩
      · split at h
        · rename_i hsign
          exact ⟨true, Or.inr ⟨by simpa using hsign, rfl⟩, h⟩
        · cases h
    obtain ⟨hours, afterHours, hcs, h⟩ := bind_fixedDigits?_eq_some_iff.mp h
    obtain ⟨afterColon, hcolon, h⟩ := bind_after?_eq_some_iff.mp h
    obtain ⟨minutes, rest, hminutes, h⟩ := bind_fixedDigits?_eq_some_iff.mp h
    dsimp only at h
    split at h
    · rename_i hrange
      obtain ⟨⟨hrest, hhours_le⟩, hminutes_le⟩ :
        (rest = [] ∧ hours.value ≤ 23) ∧ minutes.value ≤ 59 := by simpa using hrange
      have hsign' : sign = '+' ∨ sign = '-' ∨ sign = '\u2212' := hsign.imp And.left And.left
      refine ⟨.hoursMinutes sign hsign' hours hhours_le minutes hminutes_le, ?_, ?_⟩
      · rw [Zone.text, hcs, hcolon, hminutes, hrest, List.append_nil]
      · have hseconds := Offset.ofSeconds?_eq_some_iff.mp h
        obtain ⟨seconds, hlt⟩ := o
        rcases hsign with ⟨rfl, rfl⟩ | ⟨rfl | rfl, rfl⟩
        all_goals
          simp [Zone.offset, Zone.minutes] at hseconds ⊢
          omega
    · cases h
  · cases h

theorem offset?_eq_some_iff : offset? cs = some o ↔ ∃ z : Zone, z.text = cs ∧ z.offset = o := by
  constructor
  · exact exists_of_offset?
  · rintro ⟨z, rfl, rfl⟩
    exact z.offset?_text

/-! Moments. -/

/-- The ways to write a moment. -/
structure Written where
  year : Field 4
  month : Field 2
  day : Field 2
  isValid_date : Day.isValid ⟨year.value, month.value, day.value⟩
  separator : Char
  isSeparator_separator : separator = 'T' ∨ separator = 't' ∨ separator = ' '
  hour : Field 2
  hour_le : hour.value ≤ 23
  minute : Field 2
  minute_le : minute.value ≤ 59
  second : Field 2
  second_le : second.value ≤ 60
  fraction : List Char
  isDigit_fraction : ∀ c ∈ fraction, c.isDigit
  zone : Zone

namespace Written

def text (w : Written) : List Char :=
  w.year.chars ++ '-' :: (w.month.chars ++ '-' :: (w.day.chars ++ w.separator ::
    (w.hour.chars ++ ':' :: (w.minute.chars ++ ':' :: (w.second.chars ++
      (fractionText w.fraction ++ w.zone.text))))))

def clock (w : Written) : Clock :=
  ⟨⟨w.year.value, w.month.value, w.day.value⟩, w.hour.value, w.minute.value, w.second.value⟩

def moment (w : Written) : Moment :=
  .ofClock w.clock (fractionNanos w.fraction) w.zone.offset

theorem moment?_text (w : Written) : moment? w.text = some w.moment := by
  have hseparator : w.separator = 'T' || w.separator = 't' || w.separator = ' ' := by
    simp [w.isSeparator_separator, or_assoc]
  have hrange : (Day.isValid ⟨w.year.value, w.month.value, w.day.value⟩ &&
      decide (w.hour.value ≤ 23) && decide (w.minute.value ≤ 59) &&
      decide (w.second.value ≤ 60)) = true := by
    simp [w.isValid_date, w.hour_le, w.minute_le, w.second_le]
  have hfraction := fraction?_fractionText w.isDigit_fraction w.zone.head?_text
  -- Field by field, each with the character in front of it.
  refine bind_fixedDigits?_eq_some_iff.mpr ⟨w.year, _, rfl, ?_⟩
  refine bind_after?_eq_some_iff.mpr ⟨_, rfl, ?_⟩
  refine bind_fixedDigits?_eq_some_iff.mpr ⟨w.month, _, rfl, ?_⟩
  refine bind_after?_eq_some_iff.mpr ⟨_, rfl, ?_⟩
  refine bind_fixedDigits?_eq_some_iff.mpr ⟨w.day, _, rfl, ?_⟩
  refine (if_pos hseparator).trans (Option.bind_eq_some_iff.mpr ⟨_, rfl, ?_⟩)
  refine bind_fixedDigits?_eq_some_iff.mpr ⟨w.hour, _, rfl, ?_⟩
  refine bind_after?_eq_some_iff.mpr ⟨_, rfl, ?_⟩
  refine bind_fixedDigits?_eq_some_iff.mpr ⟨w.minute, _, rfl, ?_⟩
  refine bind_after?_eq_some_iff.mpr ⟨_, rfl, ?_⟩
  refine bind_fixedDigits?_eq_some_iff.mpr ⟨w.second, _, rfl, ?_⟩
  refine Option.bind_eq_some_iff.mpr ⟨_, hfraction, ?_⟩
  refine Option.bind_eq_some_iff.mpr ⟨_, offset?_eq_some_iff.mpr ⟨w.zone, rfl, rfl⟩, ?_⟩
  exact if_pos hrange

end Written

theorem exists_of_moment? (h : moment? cs = some m) :
    ∃ w : Written, w.text = cs ∧ w.moment = m := by
  obtain ⟨year, _, hyear, h⟩ := bind_fixedDigits?_eq_some_iff.mp h
  obtain ⟨_, hdash, h⟩ := bind_after?_eq_some_iff.mp h
  obtain ⟨month, _, hmonth, h⟩ := bind_fixedDigits?_eq_some_iff.mp h
  obtain ⟨_, hdash', h⟩ := bind_after?_eq_some_iff.mp h
  obtain ⟨day, afterDay, hday, h⟩ := bind_fixedDigits?_eq_some_iff.mp h
  cases afterDay with
  | nil => cases h
  | cons separator cs =>
    dsimp only at h
    split at h
    · rename_i hseparator
      obtain ⟨_, ⟨⟩, h⟩ := Option.bind_eq_some_iff.mp h
      obtain ⟨hour, _, hhour, h⟩ := bind_fixedDigits?_eq_some_iff.mp h
      obtain ⟨_, hcolon, h⟩ := bind_after?_eq_some_iff.mp h
      obtain ⟨minute, _, hminute, h⟩ := bind_fixedDigits?_eq_some_iff.mp h
      obtain ⟨_, hcolon', h⟩ := bind_after?_eq_some_iff.mp h
      obtain ⟨second, _, hsecond, h⟩ := bind_fixedDigits?_eq_some_iff.mp h
      obtain ⟨⟨nanos, _⟩, hfraction, h⟩ := Option.bind_eq_some_iff.mp h
      obtain ⟨offset, hoffset, h⟩ := Option.bind_eq_some_iff.mp h
      dsimp only at h
      split at h
      · rename_i hrange
        cases h
        subst hyear hdash hmonth hdash' hday hhour hcolon hminute hcolon' hsecond
        obtain ⟨fraction, hdigits, rfl, rfl⟩ := exists_of_fraction? hfraction
        obtain ⟨zone, rfl, rfl⟩ := offset?_eq_some_iff.mp hoffset
        obtain ⟨⟨⟨hdate, hhour⟩, hminute⟩, hsecond⟩ : ((Day.isValid ⟨year.value, month.value,
          day.value⟩ ∧ hour.value ≤ 23) ∧ minute.value ≤ 59) ∧ second.value ≤ 60 := by
            simpa using hrange
        have hseparator' : separator = 'T' ∨ separator = 't' ∨ separator = ' ' := by
          simpa [or_assoc] using hseparator
        exact ⟨⟨year, month, day, hdate, separator, hseparator', hour, hhour, minute, hminute,
          second, hsecond, fraction, hdigits, zone⟩, rfl, rfl⟩
      · cases h
    · cases h

/-- What is read is what there is a way to write. -/
theorem moment?_eq_some_iff :
    moment? cs = some m ↔ ∃ w : Written, w.text = cs ∧ w.moment = m := by
  constructor
  · exact exists_of_moment?
  · rintro ⟨w, rfl, rfl⟩
    exact w.moment?_text

end Phrasebook.Calendar
