import Mathlib.Data.List.Induction
import Phrasebook.Text.Braces

/-! Where balanced text ends: `balanced` takes the longest prefix whose braces pair up. -/
namespace Phrasebook.Text
open balancedLength?
variable {cs xs ys body rest : List Char} {c : Char} {depth inner n : Nat} {r : Option Nat}

theorem depthAfter_nil : depthAfter depth [] = some depth := by
  cases depth <;> rfl

theorem depthAfter_open : depthAfter depth ('{' :: cs) = depthAfter (depth + 1) cs := by
  cases depth <;> rfl

theorem depthAfter_close_zero : depthAfter 0 ('}' :: cs) = none := rfl

theorem depthAfter_close_succ : depthAfter (depth + 1) ('}' :: cs) = depthAfter depth cs := rfl

theorem depthAfter_other (ho : c ≠ '{') (hc : c ≠ '}') :
    depthAfter depth (c :: cs) = depthAfter depth cs := by
  cases depth <;> simp [depthAfter, hc]

/-- A character opens a group, closes one, or does neither. -/
@[elab_as_elim]
theorem brace_cases {motive : Char → Prop} (opening : motive '{') (closing : motive '}')
    (other : ∀ c, c ≠ '{' → c ≠ '}' → motive c) (c : Char) : motive c := by
  by_cases ho : c = '{'
  · subst c
    exact opening
  · by_cases hc : c = '}'
    · subst c
      exact closing
    · exact other c ho hc

theorem depthAfter_append :
    depthAfter depth (xs ++ ys) = (depthAfter depth xs).bind (depthAfter · ys) := by
  induction xs generalizing depth with
  | nil => cases depth <;> rfl
  | cons c xs ih =>
    rw [List.cons_append]
    cases c using brace_cases with
    | opening => rw [depthAfter_open, depthAfter_open, ih]
    | closing =>
      cases depth with
      | zero => rfl
      | succ depth => rw [depthAfter_close_succ, depthAfter_close_succ, ih]
    | other c ho hc => rw [depthAfter_other ho hc, depthAfter_other ho hc, ih]

/-- The first `n` characters of a text close exactly the `depth` groups that are open before it. -/
def ClosesAt (depth n : Nat) (cs : List Char) : Prop :=
  n ≤ cs.length ∧ depthAfter depth (cs.take n) = some 0

theorem closesAt_zero : ClosesAt depth 0 cs ↔ depth = 0 := by
  cases depth <;> simp [ClosesAt, depthAfter]

theorem closesAt_open : ClosesAt depth (n + 1) ('{' :: cs) ↔ ClosesAt (depth + 1) n cs := by
  simp [ClosesAt, depthAfter_open]

theorem closesAt_close : ClosesAt (depth + 1) (n + 1) ('}' :: cs) ↔ ClosesAt depth n cs := by
  simp [ClosesAt, depthAfter_close_succ]

theorem not_closesAt_close : ¬ ClosesAt 0 (n + 1) ('}' :: cs) := by
  simp [ClosesAt, depthAfter_close_zero]

theorem closesAt_other (ho : c ≠ '{') (hc : c ≠ '}') :
    ClosesAt depth (n + 1) (c :: cs) ↔ ClosesAt depth n cs := by
  simp [ClosesAt, depthAfter_other ho hc]

/-- Nothing of the text closes the open groups, or the longest prefix that does has the given
length. -/
def IsLongest (depth : Nat) (cs : List Char) : Option Nat → Prop
  | none => ∀ n, ¬ ClosesAt depth n cs
  | some n => ClosesAt depth n cs ∧ ∀ k, ClosesAt depth k cs → k ≤ n

/-- One more character in front. If it closes nothing itself, taking none is what is left. -/
theorem isLongest_orStop (h : ∀ n, ClosesAt depth (n + 1) (c :: cs) ↔ ClosesAt inner n cs)
    (hr : IsLongest inner cs r) : IsLongest depth (c :: cs) (orStop depth r) := by
  cases r with
  | some n =>
    obtain ⟨hn, hmax⟩ := hr
    have hs : orStop depth (some n) = some (n + 1) := by cases depth <;> rfl
    rw [hs]
    refine ⟨(h n).mpr hn, ?_⟩
    intro k hk
    cases k with
    | zero => exact Nat.zero_le _
    | succ k => exact Nat.succ_le_succ (hmax k ((h k).mp hk))
  | none =>
    have hzero : ∀ k, ClosesAt depth k (c :: cs) → k = 0 := by
      intro k hk
      cases k with
      | zero => rfl
      | succ k => exact (hr k ((h k).mp hk)).elim
    cases depth with
    | zero =>
      refine ⟨closesAt_zero.mpr rfl, ?_⟩
      intro k hk
      exact Nat.le_of_eq (hzero k hk)
    | succ depth =>
      intro k hk
      have h0 := hzero k hk
      subst k
      exact absurd (closesAt_zero.mp hk) (by omega)

theorem isLongest_close (hr : IsLongest depth cs r) :
    IsLongest (depth + 1) ('}' :: cs) (r.map (· + 1)) := by
  cases r with
  | some n =>
    refine ⟨closesAt_close.mpr hr.1, ?_⟩
    intro k hk
    cases k with
    | zero => exact Nat.zero_le _
    | succ k => exact Nat.succ_le_succ (hr.2 k (closesAt_close.mp hk))
  | none =>
    intro k hk
    cases k with
    | zero => exact absurd (closesAt_zero.mp hk) (by omega)
    | succ k => exact hr k (closesAt_close.mp hk)

theorem isLongest_balancedLength? : IsLongest depth cs (balancedLength? depth cs) := by
  fun_induction balancedLength? depth cs with
  | case1 =>
    refine ⟨closesAt_zero.mpr rfl, ?_⟩
    rintro k ⟨hk, -⟩
    exact hk
  | case2 =>
    rintro k ⟨hk, hd⟩
    simp [depthAfter] at hd
  | case3 depth cs ih => exact isLongest_orStop (fun _ => closesAt_open) ih
  | case4 =>
    refine ⟨closesAt_zero.mpr rfl, ?_⟩
    intro k hk
    cases k with
    | zero => exact Nat.le_refl 0
    | succ k => exact (not_closesAt_close hk).elim
  | case5 depth cs ih => exact isLongest_close ih
  | case6 depth c cs ho hzero hsucc ih =>
    have hc : c ≠ '}' := by
      cases depth with
      | zero => exact hzero rfl
      | succ depth => exact hsucc depth rfl
    exact isLongest_orStop (fun _ => closesAt_other ho hc) ih

/-- Taking nothing is always balanced, so there is a longest balanced prefix. -/
theorem exists_balancedLength? (cs : List Char) : ∃ n, balancedLength? 0 cs = some n := by
  have h : IsLongest 0 cs (balancedLength? 0 cs) := isLongest_balancedLength?
  cases hr : balancedLength? 0 cs with
  | some n => exact ⟨n, rfl⟩
  | none =>
    rw [hr] at h
    exact (h 0 (closesAt_zero.mpr rfl)).elim

theorem isBalanced_balanced (cs : List Char) : IsBalanced (balanced cs).1 := by
  obtain ⟨n, hn⟩ := exists_balancedLength? cs
  have h : IsLongest 0 cs (balancedLength? 0 cs) := isLongest_balancedLength?
  rw [hn] at h
  simpa [IsBalanced, balanced, hn, List.splitAt_eq] using h.1.2

/-- No longer prefix is balanced than the one that is taken. -/
theorem length_le_balanced (hb : IsBalanced xs) (hx : xs <+: cs) :
    xs.length ≤ (balanced cs).1.length := by
  obtain ⟨n, hn⟩ := exists_balancedLength? cs
  have h : IsLongest 0 cs (balancedLength? 0 cs) := isLongest_balancedLength?
  rw [hn] at h
  have hmax : xs.length ≤ n := by
    apply h.2
    refine ⟨hx.length_le, ?_⟩
    rwa [← List.prefix_iff_eq_take.mp hx]
  have hle := h.1.1
  simp only [balanced, hn, Option.getD_some, List.splitAt_eq, List.length_take]
  omega

/-- Text without braces opens and closes nothing. -/
theorem depthAfter_of_no_brace (h : ∀ c ∈ xs, c ≠ '{' ∧ c ≠ '}') :
    depthAfter depth xs = some depth := by
  induction xs with
  | nil => cases depth <;> rfl
  | cons c xs ih =>
    obtain ⟨ho, hc⟩ := h c List.mem_cons_self
    rw [depthAfter_other ho hc]
    exact ih fun d hd => h d (List.mem_cons_of_mem c hd)

theorem isBalanced_append_iff (hx : IsBalanced xs) : IsBalanced (xs ++ ys) ↔ IsBalanced ys := by
  simp only [IsBalanced] at hx ⊢
  rw [depthAfter_append, hx, Option.bind_some]

theorem isBalanced_append (hx : IsBalanced xs) (hy : IsBalanced ys) : IsBalanced (xs ++ ys) :=
  (isBalanced_append_iff hx).mpr hy

/-- More open groups around a text are still open after it. -/
theorem depthAfter_add (h : depthAfter depth cs = some inner) :
    depthAfter (depth + n) cs = some (inner + n) := by
  induction cs generalizing depth with
  | nil =>
    have hd : depth = inner := by simpa [depthAfter] using h
    rw [hd]
    cases inner + n <;> rfl
  | cons c cs ih =>
    cases c using brace_cases with
    | opening =>
      rw [depthAfter_open] at h ⊢
      rw [Nat.add_right_comm]
      exact ih h
    | closing =>
      cases depth with
      | zero => cases h
      | succ depth =>
        rw [Nat.add_right_comm, depthAfter_close_succ]
        exact ih h
    | other c ho hc =>
      rw [depthAfter_other ho hc] at h ⊢
      exact ih h

theorem isBalanced_group (h : IsBalanced body) : IsBalanced ('{' :: body ++ ['}']) := by
  have hinner : depthAfter (0 + 1) body = some (0 + 1) := depthAfter_add h
  rw [IsBalanced, List.cons_append, depthAfter_open, depthAfter_append, hinner]
  rfl

/-- The end of a balanced text opens no group that is left open, so one more brace closes too
many. -/
theorem depthAfter_suffix_close (h : IsBalanced xs) (hsuffix : ys <:+ xs) :
    depthAfter 0 (ys ++ ['}']) = none := by
  obtain ⟨front, rfl⟩ := hsuffix
  rw [depthAfter_append]
  cases hys : depthAfter 0 ys with
  | none => rfl
  | some n =>
    obtain ⟨depth, -, hdepth⟩ := Option.bind_eq_some_iff.mp (depthAfter_append.symm.trans h)
    have hadd : depthAfter (0 + depth) ys = some (n + depth) := depthAfter_add hys
    rw [Nat.zero_add, hdepth, Option.some.injEq] at hadd
    have hn : n = 0 := by omega
    rw [hn]
    rfl

/-- What goes on after the end of a balanced text with a closing brace closes too many. -/
theorem depthAfter_of_suffix_close {zs more : List Char} (h : IsBalanced xs) (hsuffix : ys <:+ xs)
    (heq : ys ++ '}' :: rest = zs ++ more) (hlt : ys.length < zs.length) :
    depthAfter 0 zs = none := by
  have hfront : ys ++ ['}'] <+: zs ++ more := ⟨rest, by rw [← heq]; simp⟩
  have hlength : (ys ++ ['}']).length ≤ zs.length := by
    rw [List.length_append, List.length_singleton]
    omega
  obtain ⟨tail, rfl⟩ := List.prefix_of_prefix_length_le hfront (List.prefix_append zs more) hlength
  rw [depthAfter_append, depthAfter_suffix_close h hsuffix]
  rfl

/-- A character that leaves a group open does so with one group fewer around it. -/
theorem depthAfter_singleton_of_succ (h : depthAfter (depth + 1) [c] = some (n + 1)) :
    depthAfter depth [c] = some n := by
  cases c using brace_cases with
  | opening =>
    rw [depthAfter_open, depthAfter_nil, Option.some.injEq] at h ⊢
    omega
  | closing =>
    rw [depthAfter_close_succ, depthAfter_nil, Option.some.injEq] at h
    rw [h, depthAfter_close_succ, depthAfter_nil]
  | other c ho hc =>
    rw [depthAfter_other ho hc, depthAfter_nil, Option.some.injEq] at h ⊢
    omega

/-- Where a group is open, one of the braces before opened the outermost of the open groups. -/
theorem exists_open_brace (h : depthAfter 0 xs = some (n + 1)) :
    ∃ outer inner, xs = outer ++ '{' :: inner ∧ depthAfter 0 outer = some 0 ∧
      depthAfter 0 inner = some n := by
  induction xs using List.reverseRecOn generalizing n with
  | nil => cases h
  | append_singleton xs c ih =>
    rw [depthAfter_append] at h
    obtain ⟨depth, hdepth, hc⟩ := Option.bind_eq_some_iff.mp h
    -- A group that is open before the last character is still open, or that character opens one.
    cases depth with
    | zero =>
      obtain ⟨rfl, rfl⟩ : c = '{' ∧ n = 0 := by
        cases c using brace_cases with
        | opening => simpa [depthAfter] using hc.symm
        | closing => cases hc
        | other c ho hclose =>
          rw [depthAfter_other ho hclose] at hc
          cases hc
      exact ⟨xs, [], rfl, hdepth, rfl⟩
    | succ depth =>
      obtain ⟨outer, inner, rfl, houter, hinner⟩ := ih hdepth
      refine ⟨outer, inner ++ [c], by simp, houter, ?_⟩
      rw [depthAfter_append, hinner]
      exact depthAfter_singleton_of_succ hc

/-- Where all open groups are closed, one of the braces closes the outermost of them. -/
theorem exists_close_brace (h : depthAfter (depth + 1) xs = some 0) :
    ∃ body after, xs = body ++ '}' :: after ∧ depthAfter depth body = some 0 := by
  induction xs generalizing depth with
  | nil => cases h
  | cons c xs ih =>
    cases c using brace_cases with
    | opening =>
      obtain ⟨body, after, rfl, hbody⟩ := ih (depthAfter_open.symm.trans h)
      exact ⟨'{' :: body, after, rfl, depthAfter_open.trans hbody⟩
    | closing =>
      cases depth with
      | zero => exact ⟨[], xs, rfl, rfl⟩
      | succ depth =>
        obtain ⟨body, after, rfl, hbody⟩ := ih (depthAfter_close_succ.symm.trans h)
        exact ⟨'}' :: body, after, rfl, hbody⟩
    | other c ho hc =>
      obtain ⟨body, after, rfl, hbody⟩ := ih ((depthAfter_other ho hc).symm.trans h)
      exact ⟨c :: body, after, rfl, (depthAfter_other ho hc).trans hbody⟩

/-- A balanced prefix that no other exceeds is the one that is taken. -/
theorem balanced_append_of_longest (hb : IsBalanced xs)
    (hmax : ∀ zs, zs <+: xs ++ ys → IsBalanced zs → zs.length ≤ xs.length) :
    balanced (xs ++ ys) = (xs, ys) := by
  have hcut := balanced_append (xs ++ ys)
  have hle := length_le_balanced hb (List.prefix_append xs ys)
  have hge := hmax _ (Exists.intro _ hcut) (isBalanced_balanced (xs ++ ys))
  obtain ⟨hfront, hback⟩ := List.append_inj hcut (Nat.le_antisymm hge hle)
  exact Prod.ext hfront hback

/-- Balanced text in front is taken along with what is taken behind it. -/
theorem balanced_append_of_isBalanced (hb : IsBalanced xs) :
    balanced (xs ++ ys) = (xs ++ (balanced ys).1, (balanced ys).2) := by
  have htaken := isBalanced_append hb (isBalanced_balanced ys)
  have hmax : ∀ zs, zs <+: xs ++ ys → IsBalanced zs →
      zs.length ≤ (xs ++ (balanced ys).1).length := by
    intro zs hprefix hzs
    rw [List.length_append]
    by_cases hle : zs.length ≤ xs.length
    · omega
    · obtain ⟨more, rfl⟩ := List.prefix_of_prefix_length_le (List.prefix_append xs ys) hprefix
        (Nat.le_of_not_le hle)
      have hmore := length_le_balanced ((isBalanced_append_iff hb).mp hzs)
        ((List.prefix_append_right_inj xs).mp hprefix)
      rw [List.length_append]
      omega
  have hcut : xs ++ ys = xs ++ (balanced ys).1 ++ (balanced ys).2 := by
    rw [List.append_assoc, balanced_append]
  rw [hcut] at hmax ⊢
  exact balanced_append_of_longest htaken hmax

/-- A brace that closes nothing is not taken. -/
theorem balanced_close : balanced ('}' :: cs) = ([], '}' :: cs) :=
  rfl

/-- Balanced text that a closing brace follows is taken whole. -/
theorem balanced_append_close (hb : IsBalanced body) :
    balanced (body ++ '}' :: rest) = (body, '}' :: rest) := by
  rw [balanced_append_of_isBalanced hb, balanced_close, List.append_nil]

end Phrasebook.Text
