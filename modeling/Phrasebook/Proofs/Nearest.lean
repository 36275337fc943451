import Mathlib.Algebra.Order.Floor.Semifield
import Mathlib.Tactic.Ring
import Phrasebook.Binary64.Text
import Phrasebook.Proofs.Rounding

/-! Which quotients are read as a magnitude: those between the half-way points to its neighbours. -/
namespace Phrasebook.Binary64
variable {n d i j a k : ℕ} {q r t : ℚ} {m : Magnitude} {negative : Bool}

theorem exists_one_eq : ∃ u, one = 2 ^ u :=
  ⟨1074, by decide +kernel⟩

theorem one_pos : 0 < one := by
  obtain ⟨u, hone⟩ := exists_one_eq
  rw [hone]
  exact Nat.two_pow_pos u

/-- The spacing by the range that a number is in. -/
theorem spacing_eq_iff : spacing n = 2 ^ j ↔ n < 2 ^ 53 * 2 ^ j ∧ (j = 0 ∨ 2 ^ 52 * 2 ^ j ≤ n) := by
  have hspacing : spacing n = 2 ^ j ↔ n.log2 - 52 = j := Nat.pow_right_inj (by decide)
  rw [hspacing, ← Nat.pow_add, ← Nat.pow_add]
  by_cases hn : n = 0
  · subst hn
    simp
    omega
  · rw [← Nat.log2_lt hn, ← Nat.le_log2 hn]
    omega

/-- A magnitude as a number of steps of its spacing. They take 53 binary digits, and fewer only with
the least spacing. -/
structure Magnitude.Steps (m : Magnitude) (a j : ℕ) : Prop where
  units : m.units = a * 2 ^ j
  spacing : spacing m.units = 2 ^ j
  lt : a < 2 ^ 53
  le : j = 0 ∨ 2 ^ 52 ≤ a

namespace Magnitude

theorem steps_of_units (hu : m.units = a * 2 ^ j) (hlt : a < 2 ^ 53) (hle : j = 0 ∨ 2 ^ 52 ≤ a) :
    m.Steps a j where
  units := hu
  spacing := by
    rw [hu]
    exact spacing_eq_iff.mpr ⟨Nat.mul_lt_mul_of_pos_right hlt (Nat.two_pow_pos j),
      hle.imp_right (Nat.mul_le_mul_right _)⟩
  lt := hlt
  le := hle

theorem exists_steps (m : Magnitude) : ∃ a j, m.Steps a j := by
  obtain ⟨j, hj⟩ : ∃ j, Binary64.spacing m.units = 2 ^ j := ⟨_, rfl⟩
  obtain ⟨a, ha⟩ := hj ▸ m.spacing_dvd
  obtain ⟨hlt, hle⟩ := spacing_eq_iff.mp hj
  rw [mul_comm] at ha
  rw [ha] at hlt hle
  exact ⟨a, j, steps_of_units ha (Nat.lt_of_mul_lt_mul_right hlt)
    (hle.imp_right fun h => Nat.le_of_mul_le_mul_right h (Nat.two_pow_pos j))⟩

/-- The half-way point to the next smaller magnitude. -/
def low (m : Magnitude) : ℚ :=
  m.units - m.reach.1 / 4

/-- The half-way point to the next greater one. -/
def high (m : Magnitude) : ℚ :=
  m.units + m.reach.2 / 4

/-- The numbers of units that are read as a magnitude. The half-way points are if it is an even
number of steps. -/
def Reads (m : Magnitude) (q : ℚ) : Prop :=
  m.low ≤ q ∧ q ≤ m.high ∧ (¬Even (m.units / spacing m.units) → q ≠ m.low ∧ q ≠ m.high)

/-- At a power of two the next smaller magnitude is only half a step away. -/
theorem Steps.reach_eq (h : m.Steps a j) :
    m.reach = (if a = 2 ^ 52 ∧ j ≠ 0 then 2 ^ j else 2 * 2 ^ j, 2 * 2 ^ j) := by
  have hunits : m.units = Nat.pow 2 52 * 2 ^ j ↔ a = 2 ^ 52 := by
    rw [h.units, Nat.pow_eq, Nat.mul_left_inj (Nat.two_pow_pos j).ne']
  have hj : 2 ^ j ≠ 1 ↔ j ≠ 0 := by simp
  simp only [reach, h.spacing, Bool.and_eq_true, decide_eq_true_eq, bne_iff_ne, hunits, hj]

theorem Steps.low_eq (h : m.Steps a j) :
    m.low = (a - if a = 2 ^ 52 ∧ j ≠ 0 then 1 / 4 else 1 / 2) * 2 ^ j := by
  rw [low, h.reach_eq, h.units]
  split <;> push_cast <;> ring

theorem Steps.high_eq (h : m.Steps a j) : m.high = (a + 1 / 2) * 2 ^ j := by
  rw [high, h.reach_eq, h.units]
  push_cast
  ring

theorem Steps.low_le_iff (h : m.Steps a j) :
    m.low ≤ q ↔ a - (if a = 2 ^ 52 ∧ j ≠ 0 then 1 / 4 else 1 / 2) ≤ q / 2 ^ j := by
  rw [h.low_eq, le_div_iff₀ (by positivity)]

theorem Steps.le_high_iff (h : m.Steps a j) : q ≤ m.high ↔ q / 2 ^ j ≤ a + 1 / 2 := by
  rw [h.high_eq, div_le_iff₀ (by positivity)]

theorem Steps.reads_iff (h : m.Steps a j) : m.Reads q ↔ m.low ≤ q ∧ q ≤ m.high ∧
    (¬Even a → q / 2 ^ j ≠ a - 1 / 2 ∧ q / 2 ^ j ≠ a + 1 / 2) := by
  have hpos : (2 ^ j : ℚ) ≠ 0 := by positivity
  rw [Reads, h.spacing, h.units, Nat.mul_div_cancel _ (Nat.two_pow_pos j)]
  refine and_congr_right' (and_congr_right' (forall_congr' fun hodd => ?_))
  have ha : a ≠ 2 ^ 52 := by
    rintro rfl
    exact hodd (by decide)
  rw [h.low_eq, h.high_eq, if_neg fun hp => ha hp.1, ne_eq, ne_eq, ← div_eq_iff hpos,
    ← div_eq_iff hpos]

/-- What is read as a magnitude is nearest to it on the grid of its spacing. -/
theorem Steps.isNearestEven (h : m.Steps a j) (hq : m.Reads q) : IsNearestEven (q / 2 ^ j) a := by
  obtain ⟨hlow, hhigh, hodd⟩ := h.reads_iff.mp hq
  rw [h.low_le_iff] at hlow
  rw [h.le_high_iff] at hhigh
  have hhalf : (a : ℚ) - 1 / 2 ≤ q / 2 ^ j := by
    split at hlow <;> linarith
  refine ⟨abs_le.mpr ⟨by linarith, by linarith⟩, ?_⟩
  intro htie
  by_contra ha
  rcases eq_or_eq_neg_of_abs_eq htie with he | he
  · exact (hodd ha).2 (by linarith)
  · exact (hodd ha).1 (by linarith)

/-- Below a power of two the grid is finer, so what is nearest there need not be read as it. -/
theorem Steps.reads_of_isNearestEven (h : m.Steps a j) (hq : IsNearestEven (q / 2 ^ j) a)
    (hle : a = 2 ^ 52 → j ≠ 0 → 2 ^ 52 ≤ q / 2 ^ j) : m.Reads q := by
  obtain ⟨hlow, hhigh⟩ := abs_le.mp hq.1
  refine h.reads_iff.mpr ⟨?_, h.le_high_iff.mpr (by linarith), ?_⟩
  · rw [h.low_le_iff]
    split
    · rename_i hp
      have hx := hle hp.1 hp.2
      rw [hp.1]
      push_cast
      linarith
    · linarith
  · intro ha
    refine ⟨fun he => ha (hq.2 ?_), fun he => ha (hq.2 ?_)⟩
    · rw [he, sub_sub_cancel_left, abs_neg]
      norm_num
    · rw [he, add_sub_cancel_left]
      norm_num

theorem low_lt (m : Magnitude) : m.low < m.units := by
  obtain ⟨a, j, h⟩ := m.exists_steps
  have hpos : (0 : ℚ) < 2 ^ j := by positivity
  rw [h.low_eq, h.units]
  push_cast
  apply mul_lt_mul_of_pos_right _ hpos
  split <;> linarith

theorem lt_high (m : Magnitude) : m.units < m.high := by
  obtain ⟨a, j, h⟩ := m.exists_steps
  have hpos : (0 : ℚ) < 2 ^ j := by positivity
  rw [h.high_eq, h.units]
  push_cast
  apply mul_lt_mul_of_pos_right _ hpos
  linarith

theorem reads_units (m : Magnitude) : m.Reads m.units :=
  ⟨m.low_lt.le, m.lt_high.le, fun _ => ⟨m.low_lt.ne', m.lt_high.ne⟩⟩

/-- What lies between two numbers that are read as a magnitude is read as it. -/
theorem Reads.between (hq : m.Reads q) (ht : m.Reads t) (hqr : q ≤ r) (hrt : r ≤ t) :
    m.Reads r := by
  refine ⟨hq.1.trans hqr, hrt.trans ht.2.1, ?_⟩
  intro hodd
  have hlow : m.low < q := lt_of_le_of_ne hq.1 (hq.2.2 hodd).1.symm
  have hhigh : t < m.high := lt_of_le_of_ne ht.2.1 (ht.2.2 hodd).2
  exact ⟨(hlow.trans_le hqr).ne', (hrt.trans_lt hhigh).ne⟩

theorem reach_le (h : m.units ≠ 0) : m.reach.1 ≤ 4 * m.units := by
  obtain ⟨a, j, hs⟩ := m.exists_steps
  have ha : 1 ≤ a := by
    rw [hs.units] at h
    exact Nat.pos_of_ne_zero (left_ne_zero_of_mul h)
  have hle : 1 * 2 ^ j ≤ a * 2 ^ j := Nat.mul_le_mul_right _ ha
  rw [hs.reach_eq, hs.units]
  dsimp only
  split <;> omega

theorem quarter_le_iff (hd : 0 < d) : (k / 4 : ℚ) ≤ n / d ↔ k * d ≤ 4 * n := by
  have hd' : (0 : ℚ) < d := by exact_mod_cast hd
  rw [div_le_div_iff₀ four_pos hd', mul_comm (n : ℚ)]
  exact_mod_cast Iff.rfl

theorem le_quarter_iff (hd : 0 < d) : (n / d : ℚ) ≤ k / 4 ↔ 4 * n ≤ k * d := by
  have hd' : (0 : ℚ) < d := by exact_mod_cast hd
  rw [div_le_div_iff₀ hd' four_pos, mul_comm (n : ℚ)]
  exact_mod_cast Iff.rfl

theorem readsFrom_iff (hd : 0 < d) : m.readsFrom n d = true ↔ m.Reads (n / d) := by
  have hhigh : m.high = (4 * m.units + m.reach.2 : ℕ) / 4 := by
    rw [high]
    push_cast
    ring
  have hlow : m.units ≠ 0 → m.low = (4 * m.units - m.reach.1 : ℕ) / 4 := by
    intro hu
    rw [low, Nat.cast_sub (reach_le hu)]
    push_cast
    ring
  simp only [Reads, readsFrom, Nat.even_iff]
  by_cases heven : m.units / spacing m.units % 2 = 0
  · simp only [heven, if_true, not_true, false_implies, and_true, Bool.and_eq_true,
      decide_eq_true_eq, hhigh, le_quarter_iff hd]
    by_cases hu : m.units = 0
    · have hle : m.low ≤ m.units := m.low_lt.le
      have hquotient : (0 : ℚ) ≤ n / d := by positivity
      rw [hu, Nat.cast_zero] at hle
      simp [hle.trans hquotient, hu]
    · rw [hlow hu, quarter_le_iff hd]
  · have hu : m.units ≠ 0 := by
      intro hu
      simp [hu] at heven
    simp only [heven, if_false, not_false_iff, forall_const, Bool.and_eq_true, decide_eq_true_eq,
      hhigh, hlow hu]
    rw [← not_le, ← not_le, ← le_quarter_iff hd, ← quarter_le_iff hd, not_le, not_le,
      lt_iff_le_and_ne, lt_iff_le_and_ne, ne_comm]
    tauto

end Magnitude

/-- Rounding takes place on the grid of the range that the quotient is in. -/
theorem nearest_of_range (hd : 0 < d) (hlt : (n / d : ℚ) < 2 ^ 53 * 2 ^ i)
    (hle : i = 0 ∨ (2 ^ 52 * 2 ^ i : ℚ) ≤ n / d) :
    ∃ k, nearest n d = k * 2 ^ i ∧ IsNearestEven (n / d / 2 ^ i) k := by
  have hnonneg : (0 : ℚ) ≤ n / d := by positivity
  have hspacing : spacing (n / d) = 2 ^ i := by
    rw [spacing_eq_iff, ← Nat.floor_div_eq_div (K := ℚ)]
    refine ⟨?_, hle.imp_right fun h => ?_⟩
    · rw [Nat.floor_lt hnonneg]
      exact_mod_cast hlt
    · rw [Nat.le_floor_iff hnonneg]
      exact_mod_cast h
  have hround : IsNearestEven (n / (d * 2 ^ i : ℕ) : ℚ) (roundQuotient .even n (d * 2 ^ i)) :=
    isNearestEven_roundQuotient (Nat.mul_pos hd (Nat.two_pow_pos i))
  refine ⟨_, by rw [nearest, hspacing], ?_⟩
  rw [div_div]
  exact_mod_cast hround

theorem exists_range (hd : 0 < d) :
    ∃ i : ℕ, (n / d : ℚ) < 2 ^ 53 * 2 ^ i ∧ (i = 0 ∨ (2 ^ 52 * 2 ^ i : ℚ) ≤ n / d) := by
  obtain ⟨i, hi⟩ : ∃ i, spacing (n / d) = 2 ^ i := ⟨_, rfl⟩
  obtain ⟨hlt, hle⟩ := spacing_eq_iff.mp hi
  have hnonneg : (0 : ℚ) ≤ n / d := by positivity
  rw [← Nat.floor_div_eq_div (K := ℚ)] at hlt hle
  refine ⟨i, ?_, hle.imp_right fun h => ?_⟩
  · exact_mod_cast (Nat.floor_lt hnonneg).mp hlt
  · exact_mod_cast (Nat.le_floor_iff hnonneg).mp h

theorem reads_of_nearest (hd : 0 < d) (h : nearest n d = m.units) : m.Reads (n / d) := by
  obtain ⟨i, hlt, hle⟩ := exists_range (n := n) hd
  have hpos : (0 : ℚ) < 2 ^ i := by positivity
  obtain ⟨k, hk, hround⟩ := nearest_of_range hd hlt hle
  obtain ⟨hlow, hhigh⟩ := abs_le.mp hround.1
  have hx : (n / d / 2 ^ i : ℚ) < 2 ^ 53 := (div_lt_iff₀ hpos).mpr hlt
  have hx' : i = 0 ∨ (2 ^ 52 : ℚ) ≤ n / d / 2 ^ i := hle.imp_right (le_div_iff₀ hpos).mpr
  rw [h] at hk
  rcases lt_or_ge k (2 ^ 53) with hk53 | hk53
  · have hk52 : i = 0 ∨ 2 ^ 52 ≤ k := by
      refine hx'.imp_right fun hx' => ?_
      have hlt : ((2 ^ 52 : ℕ) : ℚ) < k + 1 := by push_cast; linarith
      exact Nat.lt_succ_iff.mp (by exact_mod_cast hlt)
    have hsteps : m.Steps k i := Magnitude.steps_of_units hk hk53 hk52
    exact hsteps.reads_of_isNearestEven hround fun _ hi => hx'.resolve_left hi
  · have hk53' : k = 2 ^ 53 := by
      have hlt : (k : ℚ) < (2 ^ 53 : ℕ) + 1 := by push_cast; linarith
      have hlt' : k < 2 ^ 53 + 1 := by exact_mod_cast hlt
      omega
    subst hk53'
    have hsteps : m.Steps (2 ^ 52) (i + 1) :=
      Magnitude.steps_of_units (by rw [hk]; ring) (by decide) (Or.inr le_rfl)
    have hhalf : (n / d / 2 ^ (i + 1) : ℚ) = n / d / 2 ^ i / 2 := by
      rw [pow_succ, div_mul_eq_div_div]
    push_cast at hlow
    refine hsteps.reads_iff.mpr ⟨?_, ?_, fun hodd => absurd (by decide) hodd⟩
    · rw [hsteps.low_le_iff, if_pos ⟨rfl, Nat.succ_ne_zero i⟩, hhalf]
      push_cast
      linarith
    · rw [hsteps.le_high_iff, hhalf]
      push_cast
      linarith

theorem nearest_of_reads (hd : 0 < d) (h : m.Reads (n / d)) : nearest n d = m.units := by
  obtain ⟨a, j, hs⟩ := m.exists_steps
  have hpos : (0 : ℚ) < 2 ^ j := by positivity
  have hround := hs.isNearestEven h
  obtain ⟨hlow, hhigh⟩ := abs_le.mp hround.1
  have ha : (a : ℚ) + 1 ≤ 2 ^ 53 := by exact_mod_cast hs.lt
  have hlt : (n / d : ℚ) < 2 ^ 53 * 2 ^ j := by
    rw [← div_lt_iff₀ hpos]
    linarith
  by_cases hrange : j = 0 ∨ (2 ^ 52 * 2 ^ j : ℚ) ≤ n / d
  · obtain ⟨k, hk, hround'⟩ := nearest_of_range hd hlt hrange
    rw [hk, hround'.unique hround, hs.units]
  · -- The quotient is in the finer range just below a power of two.
    obtain ⟨hj, hq⟩ := not_or.mp hrange
    obtain ⟨i, rfl⟩ := Nat.exists_eq_add_one_of_ne_zero hj
    rw [← le_div_iff₀ hpos, not_le] at hq
    have ha52 : a = 2 ^ 52 := by
      have hlt : (a : ℚ) < (2 ^ 52 : ℕ) + 1 := by push_cast; linarith
      have hlt' : a < 2 ^ 52 + 1 := by exact_mod_cast hlt
      have hle := hs.le.resolve_left hj
      omega
    subst ha52
    have hpos' : (0 : ℚ) < 2 ^ i := by positivity
    have htwice : (n / d / 2 ^ i : ℚ) = n / d / 2 ^ (i + 1) * 2 := by
      rw [pow_succ, div_mul_eq_div_div, div_mul_cancel₀ _ two_ne_zero]
    have hle := hs.low_le_iff.mp h.1
    rw [if_pos ⟨rfl, hj⟩] at hle
    push_cast at hle
    have hlow' : (2 ^ 53 - 1 / 2 : ℚ) ≤ n / d / 2 ^ i := by rw [htwice]; linarith
    have hhigh' : (n / d / 2 ^ i : ℚ) < 2 ^ 53 := by rw [htwice]; linarith
    have hround' : IsNearestEven (n / d / 2 ^ i) (2 ^ 53) := by
      refine ⟨abs_le.mpr ?_, fun _ => by decide⟩
      push_cast
      constructor <;> linarith
    obtain ⟨k, hk, hround''⟩ := nearest_of_range hd ((div_lt_iff₀ hpos').mp hhigh')
      (Or.inr ((le_div_iff₀ hpos').mp (by linarith)))
    rw [hk, hround''.unique hround', hs.units]
    ring

theorem nearest_eq_iff (hd : 0 < d) : nearest n d = m.units ↔ m.Reads (n / d) :=
  ⟨reads_of_nearest hd, nearest_of_reads hd⟩

theorem Magnitude.eq_of_units {m' : Magnitude} (h : m.units = m'.units) : m = m' := by
  cases m
  cases m'
  simpa using h

theorem ofUnits_eq_finite_iff {s t : Bool} (hd : 0 < d) :
    ofUnits s n d = .finite t m ↔ s = t ∧ m.Reads (n / d) := by
  rw [← nearest_eq_iff hd, ofUnits]
  split
  · rw [Binary64.finite.injEq]
    exact and_congr_right' ⟨fun h => congrArg Magnitude.units h, fun h => Magnitude.eq_of_units h⟩
  · rename_i hlimit
    simp only [reduceCtorEq, false_iff, not_and]
    intro _ h
    exact hlimit (h ▸ m.lt_limit)

theorem ofRatio_eq_finite_iff {s t : Bool} (hd : 0 < d) :
    ofRatio s n d = .finite t m ↔ s = t ∧ m.Reads (n / d * one) := by
  rw [ofRatio, ofUnits_eq_finite_iff hd, Nat.cast_mul, mul_div_right_comm]

/-! Reading a decimal is rounding its value, also where the exponent alone settles it. -/

theorem Magnitude.high_lt (m : Magnitude) : m.high < 2 * limit := by
  obtain ⟨a, j, h⟩ := m.exists_steps
  have hlimit : (m.units : ℚ) + 1 ≤ limit := by exact_mod_cast m.lt_limit
  have hunits : (m.units : ℚ) = a * 2 ^ j := by rw [h.units]; push_cast; rfl
  rcases Nat.eq_zero_or_pos a with rfl | ha
  · have hj : j = 0 := h.le.resolve_right (by decide)
    rw [h.high_eq, hj]
    push_cast at hunits ⊢
    linarith
  · have hstep : (1 : ℚ) * 2 ^ j ≤ a * 2 ^ j :=
      mul_le_mul_of_nonneg_right (by exact_mod_cast ha) (by positivity)
    rw [h.high_eq, add_mul]
    linarith

theorem Magnitude.reads_iff_of_lt_half (h₀ : 0 ≤ q) (h : q < 1 / 2) :
    m.Reads q ↔ m.units = 0 := by
  obtain ⟨a, j, hs⟩ := m.exists_steps
  have hpos : (1 : ℚ) ≤ 2 ^ j := one_le_pow₀ one_le_two
  constructor
  · intro hq
    by_contra hu
    have ha : 1 ≤ a := by
      rw [hs.units] at hu
      exact Nat.pos_of_ne_zero (left_ne_zero_of_mul hu)
    have ha' : (1 : ℚ) ≤ a := by exact_mod_cast ha
    have hlow : (1 / 2 : ℚ) ≤ m.low := by
      rw [hs.low_eq]
      split <;> nlinarith
    linarith [hq.1]
  · intro hu
    have ha : a = 0 := by
      rw [hs.units] at hu
      exact (Nat.mul_eq_zero.mp hu).resolve_right (Nat.two_pow_pos j).ne'
    subst ha
    have hj : j = 0 := hs.le.resolve_right (by decide)
    subst hj
    refine hs.reads_of_isNearestEven ⟨?_, fun _ => Even.zero⟩ (fun ha => absurd ha (by decide))
    rw [abs_of_nonneg (by simpa using h₀)]
    simpa using h.le

theorem ten_zpow_eq (e : ℤ) : (10 : ℚ) ^ e = 10 ^ e.toNat / 10 ^ (-e).toNat := by
  cases e with
  | ofNat e => simp
  | negSucc e => simp [zpow_negSucc]

theorem lt_pow_length_toDigits (n : ℕ) : n < 10 ^ (Nat.toDigits 10 n).length :=
  (Nat.length_toDigits_le_iff (by decide) Nat.length_toDigits_pos).mp le_rfl

theorem pow_le_of_lt_length_toDigits (hn : n ≠ 0) (hk : k < (Nat.toDigits 10 n).length) :
    10 ^ k ≤ n := by
  rcases Nat.eq_zero_or_pos k with rfl | hpos
  · exact Nat.one_le_iff_ne_zero.mpr hn
  · by_contra hlt
    exact absurd ((Nat.length_toDigits_le_iff (by decide) hpos).mpr (not_le.mp hlt)) (not_le.mpr hk)

namespace Written
variable {w : Written}

/-- The absolute value of what is written. -/
def magnitude (w : Written) : ℚ :=
  w.coefficient * 10 ^ w.exponent

/-- The exponent of the least power of ten that the digits of the coefficient stay below. -/
def top (w : Written) : ℤ :=
  w.exponent + (Nat.toDigits 10 w.coefficient).length

theorem magnitude_nonneg (w : Written) : 0 ≤ w.magnitude :=
  mul_nonneg (Nat.cast_nonneg _) (zpow_nonneg (by norm_num) _)

theorem magnitude_lt (w : Written) : w.magnitude < 10 ^ w.top := by
  have hlt : (w.coefficient : ℚ) < 10 ^ (Nat.toDigits 10 w.coefficient).length := by
    exact_mod_cast lt_pow_length_toDigits w.coefficient
  rw [magnitude, top, add_comm, zpow_add₀ (by norm_num), zpow_natCast]
  exact mul_lt_mul_of_pos_right hlt (zpow_pos (by norm_num) _)

theorem le_magnitude (h : w.coefficient ≠ 0) : 10 ^ (w.top - 1) ≤ w.magnitude := by
  obtain ⟨k, hk⟩ := Nat.exists_eq_add_one_of_ne_zero
    (Nat.length_toDigits_pos (b := 10) (n := w.coefficient)).ne'
  have hle : (10 ^ k : ℚ) ≤ w.coefficient := by
    exact_mod_cast pow_le_of_lt_length_toDigits h (by omega)
  have htop : w.top - 1 = k + w.exponent := by
    rw [top, hk]
    push_cast
    ring
  rw [magnitude, htop, zpow_add₀ (by norm_num), zpow_natCast]
  exact mul_le_mul_of_nonneg_right hle (zpow_nonneg (by norm_num) _)

theorem magnitude_mul_one_lt (h : w.coefficient = 0 ∨ w.top < -330) :
    w.magnitude * one < 1 / 2 := by
  rcases h with h | h
  · rw [magnitude, h, Nat.cast_zero, zero_mul, zero_mul]
    exact one_half_pos
  · have hsmall : (10 ^ (-330 : ℤ) * one : ℚ) < 1 / 2 := by
      have hlt : one * 2 < 10 ^ 330 := by decide +kernel
      have hlt' : (one * 2 : ℚ) < 1 * 10 ^ (330 : ℤ) := by rw [one_mul]; exact_mod_cast hlt
      rwa [zpow_neg, inv_mul_eq_div, div_lt_div_iff₀ (zpow_pos (by norm_num) _) two_pos]
    have hone : (0 : ℚ) ≤ one := Nat.cast_nonneg _
    have hle : (10 : ℚ) ^ w.top ≤ 10 ^ (-330 : ℤ) := zpow_le_zpow_right₀ (by norm_num) h.le
    exact (mul_le_mul_of_nonneg_right (w.magnitude_lt.le.trans hle) hone).trans_lt hsmall

theorem lt_magnitude_mul_one (h : w.coefficient ≠ 0) (ht : 330 < w.top) :
    (2 * limit : ℚ) < w.magnitude * one := by
  have hlarge : 2 * limit < 10 ^ 330 * one := by decide +kernel
  have hlarge' : (2 * limit : ℚ) < 10 ^ (330 : ℤ) * one := by exact_mod_cast hlarge
  have hle : (10 : ℚ) ^ (330 : ℤ) ≤ 10 ^ (w.top - 1) := zpow_le_zpow_right₀ (by norm_num) (by omega)
  exact hlarge'.trans_le
    (mul_le_mul_of_nonneg_right (hle.trans (le_magnitude h)) (Nat.cast_nonneg _))

end Written

theorem ofWritten_eq_finite_iff {w : Written} {t : Bool} :
    ofWritten w = .finite t m ↔ w.negative = t ∧ m.Reads (w.magnitude * one) := by
  have hone : (0 : ℚ) < one := by exact_mod_cast one_pos
  have hnonneg : 0 ≤ w.magnitude * one := mul_nonneg w.magnitude_nonneg hone.le
  have htop : w.exponent + (Nat.toDigits 10 w.coefficient).length = w.top := rfl
  simp only [ofWritten, Bool.or_eq_true, decide_eq_true_eq, htop]
  split
  · rename_i hsmall
    have hzero : ((0 : ℕ) / (1 : ℕ) * one : ℚ) = 0 := by rw [Nat.cast_zero, zero_div, zero_mul]
    rw [ofRatio_eq_finite_iff Nat.one_pos, hzero,
      Magnitude.reads_iff_of_lt_half hnonneg (Written.magnitude_mul_one_lt hsmall),
      Magnitude.reads_iff_of_lt_half le_rfl one_half_pos]
  · rename_i hsmall
    obtain ⟨hcoefficient, -⟩ := not_or.mp hsmall
    split
    · rename_i hlarge
      have hlt := Written.lt_magnitude_mul_one hcoefficient hlarge
      simp only [reduceCtorEq, false_iff, not_and]
      intro _ hreads
      linarith [hreads.2.1, m.high_lt]
    · have hdown : 0 < Nat.pow 10 (-w.exponent).toNat := Nat.pow_pos (by decide)
      rw [ofRatio_eq_finite_iff hdown, Written.magnitude, ten_zpow_eq, ← mul_div_assoc]
      simp only [Nat.pow_eq]
      push_cast
      rfl

end Phrasebook.Binary64
