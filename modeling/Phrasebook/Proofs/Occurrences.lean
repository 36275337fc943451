import Phrasebook.Proofs.WrittenClauses

/-! Clauses where they stand in a text. Those that are read stand apart, and every clause of the
text starts inside one of them. -/
namespace Phrasebook
open Text

namespace Clause
variable {kind : SelectorKind} {cs rest front word selector body : List Char} {c : Char}
  {clause : String × String} {n k : Nat}

/-! What is read is written. -/

theorem isDigits_of_digits? {digits : List Char} (h : digits? cs = some (digits, rest)) :
    IsDigits digits := by
  obtain ⟨hne, hdigits, -⟩ := run?_eq_some_iff.mp h
  exact ⟨hne, hdigits⟩

theorem sign_fst (cs : List Char) : (sign cs).1 = [] ∨ (sign cs).1 = ['-'] := by
  simp only [sign]
  split
  · exact Or.inr rfl
  · exact Or.inl rfl

theorem fraction_fst (cs : List Char) :
    (fraction cs).1 = [] ∨ ∃ decimals, IsDigits decimals ∧ (fraction cs).1 = '.' :: decimals := by
  simp only [fraction]
  split
  · split
    · rename_i hd
      exact Or.inr ⟨_, isDigits_of_digits? hd, rfl⟩
    · exact Or.inl rfl
  · exact Or.inl rfl

theorem isSelector_of_exactCount? {count : List Char}
    (h : exactCount? cs = some (count, rest)) : IsSelector .plural ('=' :: count) := by
  simp only [exactCount?] at h
  split at h
  · cases h
  · rename_i digits after hd
    obtain ⟨rfl, -⟩ := Prod.mk.inj (Option.some.inj h)
    have hwhole := isDigits_of_digits? hd
    rcases fraction_fst after with hf | ⟨decimals, hdecimals, hf⟩
    · rw [hf, List.append_nil]
      exact .exact (sign_fst cs) hwhole
    · rw [hf]
      exact .exactFraction (sign_fst cs) hwhole hdecimals

theorem isSelector_of_category? (h : category? cs = some (selector, rest)) :
    IsSelector .plural selector := by
  simp only [category?] at h
  split at h
  · cases h
  · rename_i w after hw
    split at h
    · rename_i hname
      obtain ⟨rfl, -⟩ := Prod.mk.inj (Option.some.inj h)
      obtain ⟨category, hcategory⟩ := Option.isSome_iff_exists.mp hname
      have heq : category.name = .ofList w := by simpa using List.find?_some hcategory
      have hlist : w = category.name.toList := by rw [heq, String.toList_ofList]
      exact hlist ▸ .category category
    · cases h

theorem isSelector_of_selector? (h : selector? kind cs = some (selector, rest)) :
    IsSelector kind selector := by
  cases kind with
  | select => exact .word (word?_eq_some_iff.mp h).1
  | plural =>
    simp only [selector?] at h
    split at h
    · split at h
      · cases h
      · rename_i hcount
        obtain ⟨rfl, -⟩ := Prod.mk.inj (Option.some.inj h)
        exact isSelector_of_exactCount? hcount
    · exact isSelector_of_category? h
    · rename_i hkind
      cases hkind

theorem isBalanced_of_group? {text : List Char} (h : group? cs = some (text, rest)) :
    IsBalanced text := by
  simp only [group?] at h
  split at h
  · rename_i cs
    split at h
    · rename_i hb
      obtain ⟨rfl, -⟩ := Prod.mk.inj (Option.some.inj h)
      have hbalanced := isBalanced_balanced cs
      rwa [hb] at hbalanced
    · cases h
  · cases h

/-- A clause that is read is a written one. -/
theorem exists_written_of_read? (h : read? kind cs = some (clause, rest)) :
    ∃ w : Written kind, w.before = [] ∧ w.entry = clause ∧ cs = w.source ++ rest := by
  simp only [read?] at h
  split at h
  · cases h
  · rename_i selector after hs
    split at h
    · cases h
    · rename_i text after' hg
      obtain ⟨rfl, rfl⟩ := Prod.mk.inj (Option.some.inj h)
      have hafter : after.takeWhile isBlank ++ '{' :: (text ++ '}' :: after') = after := by
        rw [← group?_eq_some hg, List.takeWhile_append_dropWhile]
      have hcs := append_of_selector? hs
      rw [← hafter] at hcs
      refine ⟨⟨[], List.forall_mem_nil _, selector, isSelector_of_selector? hs,
        after.takeWhile isBlank, fun c hc => List.mem_takeWhile_imp hc, text,
        isBalanced_of_group? hg⟩, rfl, rfl, ?_⟩
      simp [Written.source, ← hcs]

/-! A clause at its place in a text. -/

/-- A written clause in a text, between what stands in front of it and behind it. A word is a
selector only as a whole. -/
structure Occurrence (kind : SelectorKind) (body : List Char) where
  front : List Char
  clause : Written kind
  before_clause : clause.before = []
  back : List Char
  body_eq : body = front ++ (clause.source ++ back)
  isWhole : isWord clause.selector → ∀ c ∈ front.getLast?, isWordChar c = false

/-- No word goes on across the place between two texts. -/
def IsBoundary (front rest : List Char) : Prop :=
  StartsOutside isWordChar rest ∨ ∀ c ∈ front.getLast?, isWordChar c = false

theorem not_isBoundary_of_word {word' : List Char} (hword : ∀ c ∈ word, isWordChar c)
    (hword' : ∀ c ∈ word', isWordChar c) (hne : word ≠ []) (hne' : word' ≠ []) :
    ¬ IsBoundary (front ++ word) (word' ++ rest) := by
  rintro (h | h)
  · have hhead : word'.head hne' ∈ (word' ++ rest).head? := by
      rw [List.head?_append_of_ne_nil _ hne', List.head?_eq_some_head hne']
      rfl
    have hout := h _ hhead
    rw [hword' _ (List.head_mem hne')] at hout
    cases hout
  · have hlast : word.getLast hne ∈ (front ++ word).getLast? := by
      rw [List.getLast?_append_of_ne_nil _ hne, List.getLast?_eq_some_getLast hne]
      rfl
    have hout := h _ hlast
    rw [hword _ (List.getLast_mem hne)] at hout
    cases hout

theorem ne_nil_of_isSelector (h : IsSelector kind selector) : selector ≠ [] := by
  rcases isWord_or_number h with hw | ⟨-, number, rfl, -⟩
  · exact (isWord_iff.mp hw).1
  · exact List.cons_ne_nil _ _

/-- A selector that starts with a character of a word is a word. -/
theorem isWord_of_isSelector (h : IsSelector kind selector)
    (hhead : ¬ StartsOutside isWordChar selector) : isWord selector := by
  rcases isWord_or_number h with hw | ⟨-, number, rfl, -⟩
  · exact hw
  · exact absurd (startsOutside_cons (by decide)) hhead

namespace Occurrence
variable (o : Occurrence kind body) {p : Occurrence kind body}

/-- Where the clause starts. -/
def start : Nat :=
  o.front.length

/-- Where the clause has ended. -/
def stop : Nat :=
  o.front.length + o.clause.source.length

theorem take_start : body.take o.start = o.front :=
  (congrArg (List.take o.start) o.body_eq).trans List.take_left

theorem drop_start : body.drop o.start = o.clause.source ++ o.back :=
  (congrArg (List.drop o.start) o.body_eq).trans List.drop_left

theorem stop_le_length : o.stop ≤ body.length := by
  have h := congrArg List.length o.body_eq
  simp only [List.length_append] at h
  rw [stop]
  omega

theorem source_eq : o.clause.source =
    o.clause.selector ++ (o.clause.gap ++ '{' :: (o.clause.text ++ ['}'])) := by
  simp [Written.source, o.before_clause]

theorem start_lt_stop : o.start < o.stop := by
  rw [start, stop, o.source_eq]
  simp

/-- A clause is read where it stands. -/
theorem read?_drop_start : read? kind (body.drop o.start) = some (o.clause.entry, o.back) := by
  rw [o.drop_start, o.source_eq]
  simpa using read?_append o.clause o.back

/-- A clause starts where no word is cut. -/
theorem isBoundary_start : IsBoundary (body.take o.start) (body.drop o.start) := by
  have hne := ne_nil_of_isSelector o.clause.isSelector_selector
  rw [o.take_start, o.drop_start, o.source_eq]
  by_cases hout : StartsOutside isWordChar o.clause.selector
  · left
    rw [StartsOutside, List.append_assoc, List.head?_append_of_ne_nil _ hne]
    exact hout
  · exact Or.inr (o.isWhole (isWord_of_isSelector o.clause.isSelector_selector hout))

/-- There is at most one clause at a place. -/
theorem entry_eq_of_start_eq (h : o.start = p.start) : o.clause.entry = p.clause.entry := by
  have hread := o.read?_drop_start
  rw [h, p.read?_drop_start, Option.some.injEq, Prod.mk.injEq] at hread
  exact hread.1.symm

/-- No clause starts where none is read. -/
theorem lt_start_of_read?_eq_none (hbody : body = front ++ cs) (h : read? kind cs = none)
    (hle : front.length ≤ o.start) : front.length < o.start := by
  apply lt_of_le_of_ne hle
  intro heq
  have hrest : body.drop front.length = cs := by rw [hbody, List.drop_left]
  have hread := o.read?_drop_start
  rw [← heq, hrest, h] at hread
  cases hread

/-- No clause starts in the middle of a word. -/
theorem le_start_of_word (hbody : body = front ++ (word ++ rest))
    (hword : ∀ c ∈ word, isWordChar c) (hlt : front.length < o.start) :
    front.length + word.length ≤ o.start := by
  subst hbody
  by_contra hge
  obtain ⟨k, hk⟩ := Nat.exists_eq_add_of_lt hlt
  have hboundary := o.isBoundary_start
  rw [hk, Nat.add_assoc, List.take_length_add_append, List.drop_length_add_append,
    List.take_append_of_le_length (by omega), List.drop_append_of_le_length (by omega)] at hboundary
  refine not_isBoundary_of_word (fun c hc => hword c (List.mem_of_mem_take hc))
    (fun c hc => hword c (List.mem_of_mem_drop hc)) ?_ ?_ hboundary
  · exact List.ne_nil_of_length_pos (by rw [List.length_take]; omega)
  · exact List.ne_nil_of_length_pos (by rw [List.length_drop]; omega)

end Occurrence

/-! The clauses that are read, with their places. -/

/-- Clauses from a place of a text on: they stand apart, from left to right, and each clause of the
text from there on starts in one of them. -/
structure Covers (found : List (Occurrence kind body)) (n : Nat) : Prop where
  apart : found.Pairwise fun o p => o.stop ≤ p.start
  le_start : ∀ o ∈ found, n ≤ o.start
  covered : ∀ o : Occurrence kind body,
    n ≤ o.start → ∃ p ∈ found, p.start ≤ o.start ∧ o.start < p.stop

namespace Covers
variable {found : List (Occurrence kind body)}

theorem nil : Covers ([] : List (Occurrence kind body)) body.length where
  apart := .nil
  le_start := List.forall_mem_nil _
  covered o h := by
    have hlt := o.start_lt_stop
    have hle := o.stop_le_length
    omega

theorem cons (o : Occurrence kind body) (h : Covers found o.stop) :
    Covers (o :: found) o.start where
  apart := List.pairwise_cons.mpr ⟨h.le_start, h.apart⟩
  le_start := List.forall_mem_cons.mpr
    ⟨le_rfl, fun p hp => o.start_lt_stop.le.trans (h.le_start p hp)⟩
  covered p hp := by
    by_cases hlt : p.start < o.stop
    · exact ⟨o, List.mem_cons_self, hp, hlt⟩
    · obtain ⟨q, hq, hstart, hstop⟩ := h.covered p (not_lt.mp hlt)
      exact ⟨q, List.mem_cons_of_mem o hq, hstart, hstop⟩

/-- What no clause starts in can be skipped. -/
theorem skip (h : Covers found k) (hle : n ≤ k)
    (hnone : ∀ o : Occurrence kind body, n ≤ o.start → k ≤ o.start) : Covers found n where
  apart := h.apart
  le_start o ho := hle.trans (h.le_start o ho)
  covered o ho := h.covered o (hnone o ho)

theorem apart_start (h : Covers found n) : found.Pairwise fun o p => o.start < p.start :=
  h.apart.imp fun {o _} hle => o.start_lt_stop.trans_le hle

end Covers

theorem isBoundary_dropWhile : IsBoundary front (cs.dropWhile isWordChar) :=
  Or.inl startsOutside_dropWhile

theorem isBoundary_concat (h : isWordChar c = false) : IsBoundary (front ++ [c]) rest := by
  right
  simpa using h

/-- The clause at the front of what is left of a text. -/
theorem exists_occurrence_of_read? (hbody : body = front ++ cs) (hfront : IsBoundary front cs)
    (h : read? kind cs = some (clause, rest)) : ∃ o : Occurrence kind body,
      o.front = front ∧ o.clause.entry = clause ∧ o.back = rest := by
  obtain ⟨w, hbefore, hentry, rfl⟩ := exists_written_of_read? h
  refine ⟨⟨front, w, hbefore, rest, hbody, fun hword => ?_⟩, rfl, hentry, rfl⟩
  rcases hfront with hout | hlast
  · obtain ⟨hne, hchars⟩ := isWord_iff.mp hword
    have hhead : w.selector.head hne ∈ (w.source ++ rest).head? := by
      simp [Written.source, hbefore, List.head?_append_of_ne_nil _ hne, List.head?_eq_some_head hne]
    have hfalse := hout _ hhead
    rw [hchars _ (List.head_mem hne)] at hfalse
    cases hfalse
  · exact hlast

/-- From each place where no word is cut, the clauses are read that stand there. -/
theorem exists_covers (hbody : body = front ++ cs) (hfront : IsBoundary front cs) :
    ∃ found : List (Occurrence kind body),
      Covers found front.length ∧ found.map (fun o => o.clause.entry) = readAll kind cs := by
  fun_induction readAll kind cs generalizing front with
  | case1 =>
    refine ⟨[], ?_, rfl⟩
    have hlength : front.length = body.length := by simp [hbody]
    exact hlength ▸ .nil
  | case2 c cs clause rest hread _ ih =>
    obtain ⟨o, rfl, rfl, rfl⟩ := exists_occurrence_of_read? hbody hfront hread
    have hstop : (o.front ++ o.clause.source).length = o.stop := List.length_append
    have hboundary : IsBoundary (o.front ++ o.clause.source) o.back := by
      have hclose : o.front ++ o.clause.source = o.front ++ o.clause.selector ++ o.clause.gap ++
          '{' :: o.clause.text ++ ['}'] := by simp [o.source_eq]
      exact hclose ▸ isBoundary_concat (by decide)
    obtain ⟨found, hcovers, hentries⟩ := ih (by rw [List.append_assoc, ← o.body_eq]) hboundary
    exact ⟨o :: found, .cons o (hstop ▸ hcovers), congrArg _ hentries⟩
  | case3 c cs hread hc ih =>
    have hsplit : c :: cs = (c :: cs.takeWhile isWordChar) ++ cs.dropWhile isWordChar := by
      rw [List.cons_append, List.takeWhile_append_dropWhile]
    have hword : ∀ d ∈ c :: cs.takeWhile isWordChar, isWordChar d :=
      List.forall_mem_cons.mpr ⟨hc, fun d hd => List.mem_takeWhile_imp hd⟩
    have hnext : body = front ++ (c :: cs.takeWhile isWordChar) ++ cs.dropWhile isWordChar := by
      rw [hbody, hsplit, List.append_assoc]
    obtain ⟨found, hcovers, hentries⟩ := ih hnext isBoundary_dropWhile
    refine ⟨found, hcovers.skip (by simp) fun o ho => ?_, hentries⟩
    rw [List.length_append]
    exact o.le_start_of_word (hsplit ▸ hbody) hword (o.lt_start_of_read?_eq_none hbody hread ho)
  | case4 c cs hread hc ih =>
    have hnext : body = front ++ [c] ++ cs := by
      rw [hbody, List.append_assoc, List.singleton_append]
    obtain ⟨found, hcovers, hentries⟩ := ih hnext (isBoundary_concat (by simpa using hc))
    refine ⟨found, hcovers.skip (by simp) fun o ho => ?_, hentries⟩
    rw [List.length_append]
    exact o.lt_start_of_read?_eq_none hbody hread ho

end Clause

namespace Clauses
variable {kind : SelectorKind} {body : String}
  {found : List (Clause.Occurrence kind body.toList)}

theorem exists_covers_zero (kind : SelectorKind) (body : String) :
    ∃ found : List (Clause.Occurrence kind body.toList), Clause.Covers found 0 ∧
      found.map (fun o => o.clause.entry) = Clause.readAll kind body.toList :=
  Clause.exists_covers (List.nil_append _).symm (Or.inr nofun)

theorem mem_entries_iff_of_covers (h : Clause.Covers found 0)
    (hfound : found.map (fun o => o.clause.entry) = Clause.readAll kind body.toList)
    (selector text : String) : (selector, text) ∈ (ofText kind body).entries ↔
      ∃ o ∈ found, o.clause.entry = (selector, text) ∧
        ∀ p ∈ found, p.clause.entry.1 = selector → p.start ≤ o.start := by
  rw [← Dictionary.get?_eq_some_iff, ofText, Dictionary.get?_ofList, ← hfound]
  exact Dictionary.lookup_reverse_eq_some_iff h.apart_start

/-- Whatever the text, what is read from it are clauses that stand in it: they stand apart, no
clause of the text is passed over, and each selector has the text of its last clause. -/
theorem ofText_occurrences (kind : SelectorKind) (body : String) :
    ∃ found : List (Clause.Occurrence kind body.toList),
      found.Pairwise (fun o p => o.stop ≤ p.start) ∧
      (∀ o : Clause.Occurrence kind body.toList,
        ∃ p ∈ found, p.start ≤ o.start ∧ o.start < p.stop) ∧
      ∀ selector text, (selector, text) ∈ (ofText kind body).entries ↔
        ∃ o ∈ found, o.clause.entry = (selector, text) ∧
          ∀ p ∈ found, p.clause.entry.1 = selector → p.start ≤ o.start := by
  obtain ⟨found, hcovers, hfound⟩ := exists_covers_zero kind body
  exact ⟨found, hcovers.apart, fun o => hcovers.covered o (Nat.zero_le _),
    mem_entries_iff_of_covers hcovers hfound⟩

example : Clauses.ofText .plural "one {a =1} x=1.5 {b{}} 2one{c} =-0.{d} one {e} other \x7b" =
    .ofList [("=1.5", "b{}"), ("one", "e")] := by
  decide +kernel

end Clauses
end Phrasebook
