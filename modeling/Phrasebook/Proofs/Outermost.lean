import Mathlib.Data.List.Pairwise
import Phrasebook.Proofs.Occurrences

/-! Nested clauses. The clauses that are read from a text are those that are not inside the braces
of another one. They need not be outside of all braces: a group that is not the text of a clause
does not hide the clauses in it. -/
namespace Phrasebook
open Text

namespace Clause
variable {kind : SelectorKind} {body selector : List Char} {c : Char} {n : Nat}

/-! Clauses are nested or apart. -/

namespace Occurrence
variable (o : Occurrence kind body) {p : Occurrence kind body}

/-- What stands before the braces. -/
def head : List Char :=
  o.clause.selector ++ o.clause.gap

/-- Where the opening brace stands. -/
def brace : Nat :=
  o.start + o.head.length

theorem source_eq_head_append : o.clause.source = o.head ++ '{' :: (o.clause.text ++ ['}']) := by
  rw [o.source_eq, head, List.append_assoc]

theorem stop_eq : o.stop = o.brace + (o.clause.text.length + 2) := by
  rw [stop, brace, start, o.source_eq_head_append]
  simp [Nat.add_assoc]

theorem drop_brace : body.drop o.brace = '{' :: (o.clause.text ++ '}' :: o.back) := by
  rw [brace, ← List.drop_drop, o.drop_start, o.source_eq_head_append, List.append_assoc,
    List.drop_left]
  simp

/-- A clause that starts in the text of another ends before that does. -/
theorem stop_le_of_brace_lt (hbrace : o.brace < p.start) (hlt : p.start < o.stop) :
    p.stop ≤ o.stop := by
  obtain ⟨k, hk⟩ := Nat.exists_eq_add_of_lt hbrace
  rw [o.stop_eq] at hlt
  have hle : k ≤ o.clause.text.length := by omega
  have hdrop : o.clause.text.drop k ++ '}' :: o.back = p.clause.source ++ p.back := by
    rw [← p.drop_start, hk, Nat.add_assoc, ← List.drop_drop, o.drop_brace, List.drop_succ_cons,
      List.drop_append_of_le_length hle]
  by_contra hgt
  have hlength : (o.clause.text.drop k).length < p.clause.source.length := by
    rw [not_le, o.stop_eq, stop, ← start] at hgt
    rw [List.length_drop]
    omega
  have hnone := depthAfter_of_suffix_close o.clause.isBalanced_text (List.drop_suffix k _) hdrop
    hlength
  have hbalanced : depthAfter 0 p.clause.source = some 0 := isBalanced_source p.clause
  rw [hnone] at hbalanced
  cases hbalanced

/-- A clause that starts inside another starts with the character that stands there. -/
theorem head?_selector_of_start_eq (h : p.start = o.start + n) :
    p.clause.selector.head? = (o.clause.source ++ o.back)[n]? := by
  have hne := ne_nil_of_isSelector p.clause.isSelector_selector
  have hp := p.drop_start
  rw [h, ← List.drop_drop, o.drop_start, p.source_eq, List.append_assoc] at hp
  rw [← List.head?_drop, hp, List.head?_append_of_ne_nil _ hne]

end Occurrence

/-- A selector starts with a character of a word or with an equals sign. -/
theorem isWordChar_or_of_isSelector (h : IsSelector kind selector) (hc : c ∈ selector.head?) :
    isWordChar c ∨ c = '=' := by
  rcases isWord_or_number h with hw | ⟨-, number, rfl, -⟩
  · exact Or.inl ((isWord_iff.mp hw).2 c (List.mem_of_mem_head? hc))
  · exact Or.inr (Option.mem_some_iff.mp hc).symm

/-- No plural selector starts like the rest of a number. -/
theorem isNumeral_eq_false_of_mem_head? (h : IsSelector .plural selector)
    (hc : c ∈ selector.head?) : isNumeral c = false := by
  cases h with
  | category category =>
    have hname : category.name.toList.all fun c => !isNumeral c := by cases category <;> decide
    simpa using List.all_eq_true.mp hname c (List.mem_of_mem_head? hc)
  | exact | exactFraction =>
    rw [← Option.mem_some_iff.mp hc]
    rfl

namespace Occurrence
variable (o : Occurrence kind body) {p : Occurrence kind body}

/-- No clause starts inside the selector of another. -/
theorem le_start_of_start_lt (hlt : o.start < p.start) :
    o.start + o.clause.selector.length ≤ p.start := by
  rcases isWord_or_number o.clause.isSelector_selector with hword | ⟨rfl, number, hs, hnumber⟩
  · have hbody := o.body_eq
    rw [o.source_eq, List.append_assoc] at hbody
    exact p.le_start_of_word hbody (isWord_iff.mp hword).2 hlt
  · by_contra hge
    obtain ⟨k, hk⟩ := Nat.exists_eq_add_of_lt hlt
    obtain ⟨c, hc⟩ : ∃ c, o.clause.selector[k + 1]? = some c :=
      ⟨_, List.getElem?_eq_getElem (by omega)⟩
    have hhead : p.clause.selector.head? = some c := by
      rw [o.head?_selector_of_start_eq (hk.trans (Nat.add_assoc _ _ _)), o.source_eq,
        List.append_assoc, List.getElem?_append_left (by omega), hc]
    have hmem : c ∈ number := by
      rw [hs, List.getElem?_cons_succ] at hc
      exact List.mem_of_getElem? hc
    have hfalse := isNumeral_eq_false_of_mem_head? p.clause.isSelector_selector hhead
    rw [hnumber c hmem] at hfalse
    cases hfalse

/-- No clause starts in front of the braces of another. -/
theorem brace_lt_of_start_lt (hlt : o.start < p.start) : o.brace < p.start := by
  obtain ⟨k, hk⟩ := Nat.exists_eq_add_of_le (o.le_start_of_start_lt hlt)
  by_contra hge
  have hle : k ≤ o.clause.gap.length := by
    rw [brace, head, List.length_append] at hge
    omega
  obtain ⟨c, hc⟩ : ∃ c, (o.clause.gap ++ ['{'])[k]? = some c :=
    ⟨_, List.getElem?_eq_getElem (by simp; omega)⟩
  have hhead : p.clause.selector.head? = some c := by
    have hsource : o.clause.source ++ o.back = o.clause.selector ++
        (o.clause.gap ++ ['{'] ++ (o.clause.text ++ '}' :: o.back)) := by simp [o.source_eq]
    rw [o.head?_selector_of_start_eq (hk.trans (Nat.add_assoc _ _ _)), hsource,
      List.getElem?_append_right (Nat.le_add_right _ _), Nat.add_sub_cancel_left,
      List.getElem?_append_left (by simp; omega), hc]
  have hseparates : isWordChar c = false ∧ c ≠ '=' := by
    rcases List.mem_append.mp (List.mem_of_getElem? hc) with hgap | hbrace
    · have hseparator := isSeparator_of_isBlank o.clause.isBlank_gap c hgap
      exact ⟨hseparator.1, hseparator.2.1⟩
    · rw [List.mem_singleton.mp hbrace]
      decide
  rcases isWordChar_or_of_isSelector p.clause.isSelector_selector hhead with hword | hequals
  · rw [hseparates.1] at hword
    cases hword
  · exact hseparates.2 hequals

theorem stop_add_length_back : o.stop + o.back.length = body.length := by
  have h := congrArg List.length o.body_eq
  simp only [List.length_append] at h
  rw [stop]
  omega

/-- Of two clauses that share a place one is inside the other. -/
theorem stop_le_stop (hle : o.start ≤ p.start) (hlt : p.start < o.stop) : p.stop ≤ o.stop := by
  rcases hle.eq_or_lt with heq | hstart
  · have hread := o.read?_drop_start
    rw [heq, p.read?_drop_start, Option.some.injEq, Prod.mk.injEq] at hread
    have ho := o.stop_add_length_back
    have hp := p.stop_add_length_back
    rw [hread.2] at hp
    omega
  · exact o.stop_le_of_brace_lt (o.brace_lt_of_start_lt hstart) hlt

theorem start_le_brace : o.start ≤ o.brace :=
  Nat.le_add_right _ _

/-- The clause is not inside the braces of another one. -/
def IsOutermost : Prop :=
  ∀ p : Occurrence kind body, ¬ (p.brace < o.start ∧ o.start < p.stop)

/-- The clause is inside a group at depth 0 that is not the text of a clause. -/
def InBareGroup : Prop :=
  ∃ outer inner depth, o.front = outer ++ '{' :: inner ∧ depthAfter 0 outer = some 0 ∧
    depthAfter 0 inner = some depth ∧ ∀ p : Occurrence kind body, p.brace ≠ outer.length

variable {o}

/-- A group that is the text of a clause hides the clauses in it. -/
theorem IsOutermost.inBareGroup (h : o.IsOutermost) (hdepth : depthAfter 0 o.front = some (n + 1)) :
    o.InBareGroup := by
  obtain ⟨outer, inner, hfront, houter, hinner⟩ := exists_open_brace hdepth
  refine ⟨outer, inner, n, hfront, houter, hinner, fun p hp => ?_⟩
  have hstart : o.start = outer.length + (inner.length + 1) := by
    rw [start, hfront, List.length_append, List.length_cons]
  have hstop := p.stop_eq
  -- Else the group is closed in front of the clause.
  have hclosed : p.clause.text.length < inner.length := by
    by_contra hopen
    exact h p ⟨by omega, by omega⟩
  have hdrop : p.clause.text ++ '}' :: p.back = inner ++ (o.clause.source ++ o.back) := by
    have hbody := o.body_eq
    rw [hfront, List.append_assoc] at hbody
    have hafter : body.drop p.brace = '{' :: (inner ++ (o.clause.source ++ o.back)) :=
      hp ▸ (congrArg (List.drop outer.length) hbody).trans List.drop_left
    rw [p.drop_brace, List.cons.injEq] at hafter
    exact hafter.2
  have hnone := depthAfter_of_suffix_close p.clause.isBalanced_text List.suffix_rfl hdrop hclosed
  rw [hnone] at hinner
  cases hinner

end Occurrence

namespace Covers
variable {found : List (Occurrence kind body)} {o p : Occurrence kind body}

theorem eq_or_apart (h : Covers found n) (ho : o ∈ found) (hp : p ∈ found) :
    o = p ∨ o.stop ≤ p.start ∨ p.stop ≤ o.start := by
  let R (o p : Occurrence kind body) := o = p ∨ o.stop ≤ p.start ∨ p.stop ≤ o.start
  have hright : found.Pairwise R := h.apart.imp fun hle => Or.inr (Or.inl hle)
  have hleft : found.Pairwise (flip R) := h.apart.imp fun hle => Or.inr (Or.inr hle)
  exact List.Pairwise.forall_of_forall_of_flip (R := R) (fun _ _ => Or.inl rfl) hright hleft ho hp

/-- Nothing that is read is inside the braces of a clause. -/
theorem isOutermost (h : Covers found 0) (ho : o ∈ found) : o.IsOutermost := by
  rintro p ⟨hbrace, hstop⟩
  obtain ⟨q, hq, hle, hlt⟩ := h.covered p (Nat.zero_le _)
  have hnested := q.stop_le_stop hle hlt
  have hp := p.start_le_brace
  have ho' := o.start_lt_stop
  rcases h.eq_or_apart ho hq with rfl | hbefore | hafter <;> omega

/-- What is not inside the braces of a clause is read. -/
theorem exists_of_isOutermost (h : Covers found 0) (ho : o.IsOutermost) :
    ∃ p ∈ found, p.start = o.start := by
  obtain ⟨p, hp, hle, hlt⟩ := h.covered o (Nat.zero_le _)
  refine ⟨p, hp, hle.eq_or_lt.resolve_right fun hstart => ?_⟩
  exact ho p ⟨p.brace_lt_of_start_lt hstart, hlt⟩

end Covers
end Clause

namespace Clauses

/-- The clauses that are read are the outermost ones, and each selector has the text of its last
one. In a balanced text such a clause is outside of all braces, unless it is in a group that is not
the text of a clause. -/
theorem ofText_outermost (kind : SelectorKind) (body : String) :
    (∀ selector text, (selector, text) ∈ (ofText kind body).entries ↔
      ∃ o : Clause.Occurrence kind body.toList, o.IsOutermost ∧ o.clause.entry = (selector, text) ∧
        ∀ p : Clause.Occurrence kind body.toList,
          p.IsOutermost → p.clause.entry.1 = selector → p.start ≤ o.start) ∧
    (IsBalanced body.toList → ∀ o : Clause.Occurrence kind body.toList, o.IsOutermost →
      depthAfter 0 o.front = some 0 ∨ o.InBareGroup) := by
  obtain ⟨found, hcovers, hfound⟩ := exists_covers_zero kind body
  constructor
  · intro selector text
    rw [mem_entries_iff_of_covers hcovers hfound]
    constructor
    · rintro ⟨o, ho, hentry, hlast⟩
      refine ⟨o, hcovers.isOutermost ho, hentry, fun p hp hselector => ?_⟩
      obtain ⟨q, hq, hstart⟩ := hcovers.exists_of_isOutermost hp
      rw [← hstart]
      exact hlast q hq (by rw [q.entry_eq_of_start_eq hstart, hselector])
    · rintro ⟨o, ho, hentry, hlast⟩
      obtain ⟨q, hq, hstart⟩ := hcovers.exists_of_isOutermost ho
      refine ⟨q, hq, by rw [q.entry_eq_of_start_eq hstart, hentry], fun p hp hselector => ?_⟩
      rw [hstart]
      exact hlast p (hcovers.isOutermost hp) hselector
  · intro hbalanced o ho
    rw [IsBalanced, o.body_eq, depthAfter_append] at hbalanced
    obtain ⟨depth, hdepth, -⟩ := Option.bind_eq_some_iff.mp hbalanced
    cases depth with
    | zero => exact Or.inl hdepth
    | succ depth => exact Or.inr (ho.inBareGroup hdepth)

/-- A group after a word that is no plural selector. -/
def bareGroup : String :=
  "one {a} several {one {b}} other {c}"

theorem depthAfter_front_bareGroup (o : Clause.Occurrence .plural bareGroup.toList)
    (h : o.clause.entry = ("one", "b")) : depthAfter 0 o.front ≠ some 0 := by
  have hread : (Clause.read? .plural (bareGroup.toList.drop o.start)).map Prod.fst =
      some ("one", "b") := by rw [o.read?_drop_start, Option.map_some, h]
  have hlt : o.start < bareGroup.toList.length := o.start_lt_stop.trans_le o.stop_le_length
  have hall : ∀ n < bareGroup.toList.length,
      (Clause.read? .plural (bareGroup.toList.drop n)).map Prod.fst = some ("one", "b") →
        depthAfter 0 (bareGroup.toList.take n) ≠ some 0 := by decide
  rw [← o.take_start]
  exact hall o.start hlt hread

/-- A clause in such a group is read, and takes the place of one outside of all braces. -/
theorem ofText_bareGroup : IsBalanced bareGroup.toList ∧
    (ofText .plural bareGroup).entries = [("one", "b"), ("other", "c")] ∧
    ∀ o : Clause.Occurrence .plural bareGroup.toList, o.clause.entry = ("one", "b") →
      depthAfter 0 o.front ≠ some 0 :=
  ⟨by decide +kernel, by decide +kernel, depthAfter_front_bareGroup⟩

/-- The clause that is read last is the outermost one of its selector, though it is in braces. -/
theorem exists_outermost_bareGroup : IsBalanced bareGroup.toList ∧
    ∃ o : Clause.Occurrence .plural bareGroup.toList, o.IsOutermost ∧
      o.clause.entry = ("one", "b") ∧ o.InBareGroup := by
  have hbalanced : IsBalanced bareGroup.toList := by decide
  have hmem : ("one", "b") ∈ (ofText .plural bareGroup).entries := by decide +kernel
  obtain ⟨hentries, hdepth⟩ := ofText_outermost .plural bareGroup
  obtain ⟨o, ho, hentry, -⟩ := (hentries "one" "b").mp hmem
  have hbare := (hdepth hbalanced o ho).resolve_left (depthAfter_front_bareGroup o hentry)
  exact ⟨hbalanced, o, ho, hentry, hbare⟩

end Clauses
end Phrasebook
