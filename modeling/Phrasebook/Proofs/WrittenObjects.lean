import Phrasebook.Json.Object
import Phrasebook.Proofs.Entries

/-! Objects of strings are read back from what they are written as: a character from its escape, a
string up to its closing quote, a member up to the comma or the brace behind it. -/
namespace Phrasebook.Json
variable {c : Char} {cs rest s : List Char} {es : List (String × String)}

/-! Strings. -/

theorem hexDigit?_digitChar {n : ℕ} (h : n < 16) : hexDigit? (Nat.digitChar n) = some n := by
  revert n
  decide

theorem hexValue?_control (h : c.toNat < 32) :
    hexValue? '0' '0' (Nat.digitChar (c.toNat / 16)) (Nat.digitChar (c.toNat % 16)) =
      some c.toNat := by
  have hzero : hexDigit? '0' = some 0 := rfl
  have hhigh := hexDigit?_digitChar (n := c.toNat / 16) (by omega)
  have hlow := hexDigit?_digitChar (n := c.toNat % 16) (by omega)
  have hvalue : c.toNat / 16 * 16 + c.toNat % 16 = c.toNat := by omega
  simp [hexValue?, hzero, hhigh, hlow, hvalue]

/-- The code of a control character is no half of a pair. -/
theorem readUnicode_control (h : c.toNat < 32) :
    readUnicode ('0' :: '0' :: Nat.digitChar (c.toNat / 16) :: Nat.digitChar (c.toNat % 16) :: cs) =
      .ok (c, cs) := by
  have hlow : ¬(0xDC00 ≤ c.toNat ∧ c.toNat ≤ 0xDFFF) := by omega
  have hhigh : ¬(0xD800 ≤ c.toNat ∧ c.toNat ≤ 0xDBFF) := by omega
  simp [readUnicode, readHex, hexValue?_control h, bind, Except.bind, pure, Except.pure, hlow, hhigh]

/-- A character is written as itself, or as an escape that is read as the character. -/
theorem escapeChar_cases (c : Char) :
    (escapeChar c = [c] ∧ c ≠ '"' ∧ c ≠ '\\' ∧ ¬c.toNat < 32) ∨
      ∃ escape, escapeChar c = '\\' :: escape ∧ ∀ cs, readEscape (escape ++ cs) = .ok (c, cs) := by
  by_cases hnamed : c ∈ ['"', '\\', '\x08', '\t', '\n', '\x0c', '\r']
  · right
    simp only [List.mem_cons, List.not_mem_nil, or_false] at hnamed
    rcases hnamed with rfl | rfl | rfl | rfl | rfl | rfl | rfl <;> exact ⟨_, rfl, fun _ => rfl⟩
  simp only [List.mem_cons, List.not_mem_nil, or_false, not_or] at hnamed
  obtain ⟨hquote, hslash, hback, htab, hline, hfeed, hreturn⟩ := hnamed
  have height : c.toNat ≠ 8 := fun h => hback (Char.toNat_inj.mp h)
  have htwelve : c.toNat ≠ 12 := fun h => hfeed (Char.toNat_inj.mp h)
  by_cases hcontrol : c.toNat < 32
  · right
    refine ⟨_, by simp [escapeChar, *]; rfl, ?_⟩
    intro cs
    exact readUnicode_control hcontrol
  · left
    exact ⟨by simp [escapeChar, *], hquote, hslash, hcontrol⟩

theorem readString_of_plain (hquote : c ≠ '"') (hslash : c ≠ '\\') (hcontrol : ¬c.toNat < 32)
    (h : readString cs = .ok (s, rest)) : readString (c :: cs) = .ok (c :: s, rest) := by
  rw [readString, if_neg hquote, if_neg hslash, if_neg hcontrol, h]

theorem readString_of_escape {escape : List Char} (hc : readEscape escape = .ok (c, cs))
    (h : readString cs = .ok (s, rest)) : readString ('\\' :: escape) = .ok (c :: s, rest) := by
  rw [readString, if_neg (by decide), if_pos rfl]
  split <;> simp_all

/-- What is written between quotes is read up to the closing one. -/
theorem readString_append (s rest : List Char) :
    readString (s.flatMap escapeChar ++ '"' :: rest) = .ok (s, rest) := by
  induction s with
  | nil => rw [List.flatMap_nil, List.nil_append, readString, if_pos rfl]
  | cons c s ih =>
    rw [List.flatMap_cons, List.append_assoc]
    rcases escapeChar_cases c with ⟨heq, hquote, hslash, hcontrol⟩ | ⟨escape, heq, hescape⟩
    · rw [heq]
      exact readString_of_plain hquote hslash hcontrol ih
    · rw [heq]
      exact readString_of_escape (hescape _) ih

/-! Members. -/

theorem skipSpace_cons (h : isSpace c = false) : skipSpace (c :: cs) = c :: cs := by
  rw [skipSpace, List.dropWhile_cons_of_neg (by simp [h])]

/-- A member after its opening quote. -/
def afterQuote (e : String × String) (rest : List Char) : List Char :=
  e.1.toList.flatMap escapeChar ++
    '"' :: ':' :: '"' :: (e.2.toList.flatMap escapeChar ++ '"' :: rest)

theorem member_append (e : String × String) (rest : List Char) :
    member e.1 e.2 ++ rest = '"' :: afterQuote e rest := by
  simp [member, quote, afterQuote]

theorem readMember_append (e : String × String) (rest : List Char) :
    readMember (afterQuote e rest) = .ok (e, rest) := by
  have htext : readText (':' :: '"' :: (e.2.toList.flatMap escapeChar ++ '"' :: rest)) =
      .ok (e.2.toList, rest) := by
    rw [readText, skipSpace_cons rfl]
    simp only [skipSpace_cons (c := '"') rfl]
    exact readString_append _ _
  simp only [readMember, afterQuote, readString_append, htext, String.ofList_toList]

theorem readMore_close (rest : List Char) : readMore ('\x7d' :: rest) = .ok ([], rest) := by
  have hskip : skipSpace ('\x7d' :: rest) = '\x7d' :: rest := skipSpace_cons rfl
  rw [readMore]
  split <;> simp_all

theorem readMore_comma (e : String × String) (h : readMore cs = .ok (es, rest)) :
    readMore (',' :: (member e.1 e.2 ++ cs)) = .ok (e :: es, rest) := by
  have hread := readMember_append e cs
  rw [member_append]
  generalize afterQuote e cs = front at hread ⊢
  have hcomma : skipSpace (',' :: '"' :: front) = ',' :: '"' :: front := skipSpace_cons rfl
  have hquote : skipSpace ('"' :: front) = '"' :: front := skipSpace_cons rfl
  rw [readMore]
  split
  · simp_all
  · rename_i after hafter
    obtain rfl : after = '"' :: front := by simp_all
    split
    · rename_i inside hinside
      obtain rfl : inside = front := by simp_all
      split
      · simp_all
      · rename_i e' rest' he'
        obtain ⟨rfl, rfl⟩ : e' = e ∧ rest' = cs := by simp_all
        rw [h]
    all_goals simp_all
  all_goals simp_all

/-- Members after the first one, each behind its comma. -/
theorem readMore_append (es : List (String × String)) (rest : List Char) :
    readMore (es.flatMap (fun e => ',' :: member e.1 e.2) ++ '\x7d' :: rest) = .ok (es, rest) := by
  induction es with
  | nil => exact readMore_close rest
  | cons e es ih =>
    rw [List.flatMap_cons, List.cons_append, List.cons_append, List.append_assoc]
    exact readMore_comma e ih

theorem members_cons (e : String × String) (es : List (String × String)) :
    members (e :: es) = member e.1 e.2 ++ es.flatMap fun e => ',' :: member e.1 e.2 := by
  induction es generalizing e with
  | nil => exact (List.append_nil _).symm
  | cons e' es ih =>
    rw [members, ih e', List.flatMap_cons, List.cons_append]
    exact List.cons_ne_nil e' es

theorem readMembers_append (es : List (String × String)) (rest : List Char) :
    readMembers (members es ++ '\x7d' :: rest) = .ok (es, rest) := by
  cases es with
  | nil =>
    rw [members, List.nil_append, readMembers, skipSpace_cons rfl]
    rfl
  | cons e es =>
    rw [members_cons, List.append_assoc, member_append, readMembers, skipSpace_cons rfl]
    simp only [readMember_append, readMore_append]

/-- The members of an object are read back in their order. -/
theorem readObject_object (es : List (String × String)) :
    readObject (object es).toList = .ok es := by
  rw [object, String.toList_ofList, readObject, skipSpace_cons rfl]
  simp only [readMembers_append]
  rfl

/-- Entries that are written in their order are read as the dictionary of them, which holds the last
one of each key; and a dictionary is read back from its own entries. -/
theorem readDictionary_object :
    (∀ es : List (String × String), readDictionary (object es) = .ok (.ofList es) ∧
      ∀ key, (Dictionary.ofList es).get? key = es.reverse.lookup key) ∧
    ∀ d : Dictionary String, readDictionary (object d.entries) = .ok d := by
  have hread : ∀ es : List (String × String), readDictionary (object es) = .ok (.ofList es) := by
    intro es
    rw [readDictionary, readObject_object]
  refine ⟨fun es => ⟨hread es, Dictionary.get?_ofList es⟩, ?_⟩
  intro d
  rw [hread, Dictionary.ofList_entries]

end Phrasebook.Json
