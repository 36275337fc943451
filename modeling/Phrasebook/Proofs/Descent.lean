import Phrasebook.Proofs.Balance

/-! Balanced text read by recursive descent. Reading one piece after another, each group in the same
way as the text around it, takes the longest prefix whose braces pair up. -/
namespace Phrasebook.Text

/-- Reads `cs` as `taken` and `rest`: other characters and whole groups are taken for as long as one
of the two comes next. What is between the braces of a group is read in the same way. If no closing
brace follows it, all of it is given back with the opening brace. -/
inductive Descent : (cs taken rest : List Char) → Prop
  | finish : Descent [] [] []
  | close (cs : List Char) : Descent ('}' :: cs) [] ('}' :: cs)
  | other {c : Char} {cs taken rest : List Char} (ho : c ≠ '{') (hc : c ≠ '}')
    (h : Descent cs taken rest) : Descent (c :: cs) (c :: taken) rest
  | group {inner body after taken rest : List Char} (hbody : Descent inner body ('}' :: after))
    (h : Descent after taken rest) : Descent ('{' :: inner) ('{' :: body ++ '}' :: taken) rest
  | giveBack {inner body rest : List Char} (hbody : Descent inner body rest)
    (hopen : rest.head? ≠ some '}') : Descent ('{' :: inner) [] ('{' :: inner)

variable {cs taken rest inner body after : List Char} {c : Char}

/-! What is taken, piece by piece. -/

theorem isBalanced_other (ho : c ≠ '{') (hc : c ≠ '}') : IsBalanced [c] :=
  (depthAfter_other ho hc).trans depthAfter_nil

theorem balanced_other (ho : c ≠ '{') (hc : c ≠ '}') :
    balanced (c :: cs) = (c :: (balanced cs).1, (balanced cs).2) :=
  balanced_append_of_isBalanced (isBalanced_other ho hc)

theorem balanced_group (hb : IsBalanced body) : balanced ('{' :: (body ++ '}' :: after)) =
    ('{' :: body ++ '}' :: (balanced after).1, (balanced after).2) := by
  have h : balanced ('{' :: body ++ ['}'] ++ after) = _ :=
    balanced_append_of_isBalanced (isBalanced_group hb)
  simpa using h

/-- Of a group that is never closed nothing is taken, however balanced its text is. -/
theorem balanced_unclosed (h : ∀ body after, IsBalanced body → inner ≠ body ++ '}' :: after) :
    balanced ('{' :: inner) = ([], '{' :: inner) := by
  have hnil : IsBalanced [] := depthAfter_nil
  apply balanced_append_of_longest hnil
  rintro zs ⟨back, hzs⟩ hbalanced
  cases zs with
  | nil => exact Nat.le_refl 0
  | cons c zs =>
    obtain ⟨rfl, rfl⟩ := List.cons.inj hzs
    obtain ⟨body, after, rfl, hbody⟩ := exists_close_brace (depthAfter_open.symm.trans hbalanced)
    exact (h body (after ++ back) hbody (by simp)).elim

/-- There is only one way to read a text. -/
theorem Descent.balanced_eq (h : Descent cs taken rest) : balanced cs = (taken, rest) := by
  induction h with
  | finish => rfl
  | close cs => exact balanced_close
  | other ho hc h ih => rw [balanced_other ho hc, ih]
  | @group inner body after taken rest hbody h ihbody ih =>
    have hinner := balanced_append inner
    have hbalanced := isBalanced_balanced inner
    rw [ihbody] at hinner hbalanced
    rw [← hinner, balanced_group hbalanced, ih]
  | @giveBack inner body rest hbody hopen ih =>
    apply balanced_unclosed
    rintro text after htext rfl
    rw [balanced_append_close htext] at ih
    cases ih
    exact hopen rfl

/-- Every text can be read, by induction on its length: what is between two braces is shorter than
the text, and so is what follows them. -/
theorem descent_balanced (cs : List Char) : Descent cs (balanced cs).1 (balanced cs).2 := by
  match cs with
  | [] => exact .finish
  | c :: cs =>
    have hcs := descent_balanced cs
    cases c using brace_cases with
    | opening =>
      by_cases hopen : (balanced cs).2.head? = some '}'
      · obtain ⟨after, hafter⟩ := List.head?_eq_some_iff.mp hopen
        have hcut := balanced_append cs
        rw [hafter] at hcs hcut
        have hlt : after.length < cs.length := by
          rw [← hcut, List.length_append, List.length_cons]
          omega
        have htail := descent_balanced after
        have hgroup : balanced ('{' :: ((balanced cs).1 ++ '}' :: after)) = _ :=
          balanced_group (isBalanced_balanced cs)
        rw [hcut] at hgroup
        rw [hgroup]
        exact .group hcs htail
      · have hgiven := Descent.giveBack hcs hopen
        rw [hgiven.balanced_eq]
        exact hgiven
    | closing => exact .close cs
    | other c ho hc =>
      rw [balanced_other ho hc]
      exact .other ho hc hcs
termination_by cs.length

theorem descent_iff : Descent cs taken rest ↔ balanced cs = (taken, rest) := by
  constructor
  · exact Descent.balanced_eq
  · intro h
    have hcs := descent_balanced cs
    rwa [h] at hcs

/-- What is left does not start with balanced text, which would have been taken. -/
theorem eq_nil_of_prefix_rest {xs : List Char} (hx : xs <+: (balanced cs).2)
    (hb : IsBalanced xs) : xs = [] := by
  have hprefix : (balanced cs).1 ++ xs <+: cs := by
    have h := (List.prefix_append_right_inj (balanced cs).1).mpr hx
    rwa [balanced_append] at h
  have hle := length_le_balanced (isBalanced_append (isBalanced_balanced cs) hb) hprefix
  rw [List.length_append] at hle
  exact List.eq_nil_of_length_eq_zero (by omega)

/-- What is left starts with a brace that closes nothing, or with one that nothing closes. -/
theorem balanced_stops (cs : List Char) : (balanced cs).2 = [] ∨
    (∃ after, (balanced cs).2 = '}' :: after ∧ depthAfter 0 ((balanced cs).1 ++ ['}']) = none) ∨
    ∃ after, (balanced cs).2 = '{' :: after ∧
      ∀ body, IsBalanced body → ¬ body ++ ['}'] <+: after := by
  have hmax : ∀ xs, xs <+: (balanced cs).2 → IsBalanced xs → xs = [] :=
    fun _ => eq_nil_of_prefix_rest
  cases hrest : (balanced cs).2 with
  | nil => exact Or.inl rfl
  | cons c after =>
    rw [hrest] at hmax
    cases c using brace_cases with
    | opening =>
      refine Or.inr (Or.inr ⟨after, rfl, ?_⟩)
      rintro body hbody ⟨back, rfl⟩
      cases hmax _ ⟨back, by simp⟩ (isBalanced_group hbody)
    | closing =>
      have hclose := depthAfter_suffix_close (isBalanced_balanced cs) List.suffix_rfl
      exact Or.inr (Or.inl ⟨after, rfl, hclose⟩)
    | other c ho hc => cases hmax [c] ⟨after, rfl⟩ (isBalanced_other ho hc)

/-- Every text is read in exactly one way. The longest prefix whose braces pair up is taken, and the
rest is left as it is. It is empty, or starts with a brace that closes nothing, or with the brace of a
group that is never closed. -/
theorem exists_longest_descent (cs : List Char) :
    ∃ taken rest, balanced cs = (taken, rest) ∧
      (∀ xs ys, Descent cs xs ys ↔ (xs, ys) = (taken, rest)) ∧
      taken ++ rest = cs ∧ IsBalanced taken ∧
      (∀ xs, xs <+: cs → IsBalanced xs → xs.length ≤ taken.length) ∧
      (rest = [] ∨
        (∃ after, rest = '}' :: after ∧ depthAfter 0 (taken ++ ['}']) = none) ∨
        ∃ after, rest = '{' :: after ∧ ∀ body, IsBalanced body → ¬ body ++ ['}'] <+: after) := by
  refine ⟨(balanced cs).1, (balanced cs).2, rfl, ?_, balanced_append cs, isBalanced_balanced cs, ?_,
    balanced_stops cs⟩
  · intro xs ys
    rw [descent_iff]
    exact eq_comm
  · intro xs hprefix hbalanced
    exact length_le_balanced hbalanced hprefix

example : balanced "a {b {c}} d {e} \x7bf {g}".toList =
    ("a {b {c}} d {e} ".toList, "\x7bf {g}".toList) := by
  decide

end Phrasebook.Text
