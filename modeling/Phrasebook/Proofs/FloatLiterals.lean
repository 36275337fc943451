import Mathlib.Data.List.Basic
import Phrasebook.Binary64.Text
import Phrasebook.Proofs.Words

/-! The ways to write a floating-point number. A text is read as a number exactly if it is one of
them. -/
namespace Phrasebook.Binary64
variable {cs front rest : List Char} {s : String}

/-- At most one sign. -/
def IsSign (cs : List Char) : Prop :=
  cs = [] ∨ cs = ['+'] ∨ cs = ['-']

/-- Digits with at most one point, and a digit on some side of it. -/
inductive IsCoefficient : List Char → Prop where
  | whole {ds : List Char} (hds : ∀ c ∈ ds, c.isDigit) (hne : ds ≠ []) : IsCoefficient ds
  | pointed {whole fraction : List Char} (hw : ∀ c ∈ whole, c.isDigit)
    (hf : ∀ c ∈ fraction, c.isDigit) (hne : whole ++ fraction ≠ []) :
    IsCoefficient (whole ++ '.' :: fraction)

/-- Nothing, or an `e` in either case with digits after it. -/
inductive IsExponent : List Char → Prop where
  | none : IsExponent []
  | some {e : Char} {front ds : List Char} (he : e = 'e' ∨ e = 'E') (hs : IsSign front)
    (hds : ∀ c ∈ ds, c.isDigit) (hne : ds ≠ []) : IsExponent (e :: (front ++ ds))

/-- A number in decimal, or the name of one that is not finite, in any case. -/
inductive IsLiteral : List Char → Prop where
  | number {front coefficient exponent : List Char} (hs : IsSign front)
    (hc : IsCoefficient coefficient) (he : IsExponent exponent) :
    IsLiteral (front ++ (coefficient ++ exponent))
  | name {front name : List Char} (hs : IsSign front)
    (hn : (String.ofList name).toLower ∈ ["inf", "infinity", "nan"]) : IsLiteral (front ++ name)

/-! Signs. -/

theorem exists_isSign (cs : List Char) : ∃ front, IsSign front ∧ cs = front ++ (sign cs).2 := by
  rw [sign.eq_def]
  split
  · exact ⟨['-'], Or.inr (Or.inr rfl), rfl⟩
  · exact ⟨['+'], Or.inr (Or.inl rfl), rfl⟩
  · exact ⟨[], Or.inl rfl, rfl⟩

theorem sign_append_snd (hs : IsSign front) (hcs : ∀ c ∈ cs.head?, c ≠ '+' ∧ c ≠ '-') :
    (sign (front ++ cs)).2 = cs := by
  rcases hs with rfl | rfl | rfl
  · rw [List.nil_append, sign]
    · rintro cs rfl
      exact (hcs '-' rfl).2 rfl
    · rintro cs rfl
      exact (hcs '+' rfl).1 rfl
  · rfl
  · rfl

theorem ne_sign_of_isDigit {c : Char} (h : c.isDigit) : c ≠ '+' ∧ c ≠ '-' := by
  constructor <;> rintro rfl <;> cases h

/-! Exponents. -/

theorem isSome_exponent?_iff : (exponent? cs).isSome ↔ IsExponent cs := by
  constructor
  · intro h
    cases cs with
    | nil => exact .none
    | cons e cs =>
      simp only [exponent?] at h
      split at h
      · rename_i he
        obtain ⟨front, hfront, hcs⟩ := exists_isSign cs
        split at h
        · rename_i ds hread
          obtain ⟨hne, hds, -, hrest⟩ := Text.run?_eq_some_iff.mp hread
          rw [hcs, hrest, List.append_nil]
          exact .some (by simpa using he) hfront hds hne
        · cases h
      · cases h
  · intro h
    cases h with
    | none => rfl
    | @some e front ds he hs hds hne =>
      have hhead : ∀ c ∈ ds.head?, c ≠ '+' ∧ c ≠ '-' :=
        fun c hc => ne_sign_of_isDigit (hds c (List.mem_of_mem_head? hc))
      have hend : Text.StartsOutside Char.isDigit [] := by simp [Text.StartsOutside]
      have hread : Text.digits? ds = some (ds, []) :=
        Text.run?_eq_some_iff.mpr ⟨hne, hds, hend, (List.append_nil ds).symm⟩
      simp [exponent?, he, sign_append_snd hs hhead, hread]

/-- An exponent follows a coefficient without being taken for a part of it. -/
theorem IsExponent.head? (h : IsExponent cs) : ∀ c ∈ cs.head?, c.isDigit = false ∧ c ≠ '.' := by
  intro c hc
  cases h with
  | none => cases hc
  | some he =>
    obtain rfl := Option.some.inj hc
    rcases he with rfl | rfl <;> decide

/-! Coefficients. -/

/-- The digits on both sides of the point at the front, as far as there is one. -/
theorem exists_isCoefficient
    (h : cs.takeWhile Char.isDigit ++ (fraction (cs.dropWhile Char.isDigit)).1 ≠ []) :
    ∃ coefficient, IsCoefficient coefficient ∧
      cs = coefficient ++ (fraction (cs.dropWhile Char.isDigit)).2 := by
  have hwhole : ∀ c ∈ cs.takeWhile Char.isDigit, c.isDigit := fun c hc => List.mem_takeWhile_imp hc
  have hcs : cs.takeWhile Char.isDigit ++ cs.dropWhile Char.isDigit = cs :=
    List.takeWhile_append_dropWhile
  generalize cs.takeWhile Char.isDigit = whole at *
  generalize cs.dropWhile Char.isDigit = tail at *
  subst hcs
  rw [fraction.eq_def] at h ⊢
  split at h
  · rename_i tail
    refine ⟨whole ++ '.' :: tail.takeWhile Char.isDigit,
      .pointed hwhole (fun c hc => List.mem_takeWhile_imp hc) h, ?_⟩
    simp
  · exact ⟨whole, .whole hwhole (by simpa using h), rfl⟩

/-- A coefficient is read to its end. -/
theorem IsCoefficient.read (h : IsCoefficient cs)
    (hrest : ∀ c ∈ rest.head?, c.isDigit = false ∧ c ≠ '.') :
    (cs ++ rest).takeWhile Char.isDigit ++ (fraction ((cs ++ rest).dropWhile Char.isDigit)).1 ≠ [] ∧
      (fraction ((cs ++ rest).dropWhile Char.isDigit)).2 = rest := by
  cases h with
  | whole hds hne =>
    obtain ⟨htake, hdrop⟩ := Text.takeWhile_append_of_head? hds fun c hc => (hrest c hc).1
    rw [htake, hdrop, fraction]
    · exact ⟨List.append_ne_nil_of_left_ne_nil hne _, rfl⟩
    · rintro cs rfl
      exact (hrest '.' rfl).2 rfl
  | @pointed whole fraction hw hf hne =>
    have hpoint : ∀ c ∈ ('.' :: (fraction ++ rest)).head?, c.isDigit = false := by
      intro c hc
      obtain rfl := Option.some.inj hc
      rfl
    obtain ⟨htake, hdrop⟩ := Text.takeWhile_append_of_head? hw hpoint
    obtain ⟨htake', hdrop'⟩ := Text.takeWhile_append_of_head? hf fun c hc => (hrest c hc).1
    rw [List.append_assoc, List.cons_append, htake, hdrop, Binary64.fraction, htake', hdrop']
    exact ⟨hne, rfl⟩

theorem IsCoefficient.head?_append (h : IsCoefficient cs) (rest : List Char) :
    ∀ c ∈ (cs ++ rest).head?, c ≠ '+' ∧ c ≠ '-' := by
  intro c hc
  cases h with
  | whole hds hne =>
    rw [List.head?_append_of_ne_nil _ hne] at hc
    exact ne_sign_of_isDigit (hds c (List.mem_of_mem_head? hc))
  | @pointed whole fraction hw hf hne =>
    cases whole with
    | nil =>
      obtain rfl := Option.some.inj hc
      decide
    | cons d ds =>
      obtain rfl := Option.some.inj hc
      exact ne_sign_of_isDigit (hw d List.mem_cons_self)

/-! Numbers. -/

theorem isSome_written?_iff : (written? cs).isSome ↔ ∃ front coefficient exponent,
    IsSign front ∧ IsCoefficient coefficient ∧ IsExponent exponent ∧
      cs = front ++ (coefficient ++ exponent) := by
  constructor
  · intro h
    obtain ⟨front, hfront, hcs⟩ := exists_isSign cs
    simp only [written?] at h
    split at h
    · cases h
    · rename_i hne
      obtain ⟨coefficient, hcoefficient, htail⟩ :=
        @exists_isCoefficient (sign cs).2 (by simpa using hne)
      rw [Option.isSome_map, isSome_exponent?_iff] at h
      exact ⟨front, coefficient, _, hfront, hcoefficient, h, htail ▸ hcs⟩
  · rintro ⟨front, coefficient, exponent, hfront, hcoefficient, hexponent, rfl⟩
    have hsign := sign_append_snd hfront (hcoefficient.head?_append exponent)
    obtain ⟨hne, hrest⟩ := hcoefficient.read hexponent.head?
    simp only [written?, hsign, hrest]
    rw [if_neg (by simpa using hne), Option.isSome_map, isSome_exponent?_iff]
    exact hexponent

theorem isSome_named?_iff : (named? cs).isSome ↔
    (String.ofList (sign cs).2).toLower ∈ ["inf", "infinity", "nan"] := by
  simp only [named?]
  split <;> simp_all

/-- The names start with letters. -/
theorem head?_of_toLower_mem (h : (String.ofList cs).toLower ∈ ["inf", "infinity", "nan"]) :
    ∀ c ∈ cs.head?, c ≠ '+' ∧ c ≠ '-' := by
  intro c hc
  have hlower : (String.ofList cs).toLower.toList.head? = some c.toLower := by
    have hmap : (String.ofList cs).toLower.toList = (String.ofList cs).toList.map Char.toLower :=
      String.toList_map
    rw [hmap, String.toList_ofList, List.head?_map, hc, Option.map_some]
  have hletter : c.toLower = 'i' ∨ c.toLower = 'n' := by
    simp only [List.mem_cons, List.not_mem_nil, or_false] at h
    rcases h with h | h | h <;> simp [h] at hlower <;> simp [← hlower]
  constructor
  all_goals
    rintro rfl
    exact absurd hletter (by decide)

theorem isSome_ofText?_iff : (ofText? s).isSome ↔ IsLiteral s.toList := by
  have heither : (ofText? s).isSome ↔ (written? s.toList).isSome ∨ (named? s.toList).isSome := by
    rw [ofText?]
    cases written? s.toList <;> simp
  rw [heither, isSome_written?_iff, isSome_named?_iff]
  constructor
  · rintro (⟨front, coefficient, exponent, hs, hc, he, hcs⟩ | hn)
    · rw [hcs]
      exact .number hs hc he
    · obtain ⟨front, hs, hcs⟩ := exists_isSign s.toList
      rw [hcs]
      exact .name hs hn
  · intro h
    generalize s.toList = cs at h
    cases h with
    | number hs hc he => exact Or.inl ⟨_, _, _, hs, hc, he, rfl⟩
    | name hs hn =>
      right
      rwa [sign_append_snd hs (head?_of_toLower_mem hn)]

end Phrasebook.Binary64
