import Phrasebook.Json.Fault

/-! Strings of JSON: written with escapes, and read back. -/
namespace Phrasebook.Json

/-- A character as it is written between quotes. -/
def escapeChar (c : Char) : List Char :=
  if c = '"' then ['\\', '"']
  else if c = '\\' then ['\\', '\\']
  else if c.toNat = 8 then ['\\', 'b']
  else if c = '\t' then ['\\', 't']
  else if c = '\n' then ['\\', 'n']
  else if c.toNat = 12 then ['\\', 'f']
  else if c = '\r' then ['\\', 'r']
  else if c.toNat < 0x20 then
    ['\\', 'u', '0', '0', Nat.digitChar (c.toNat / 16), Nat.digitChar (c.toNat % 16)]
  else [c]

/-- A text in quotes. -/
def quote (s : List Char) : List Char :=
  '"' :: (s.flatMap escapeChar ++ ['"'])

/-- The value of a hexadecimal digit. -/
def hexDigit? (c : Char) : Option Nat :=
  if c.isDigit then some (c.toNat - '0'.toNat)
  else if 'a' ≤ c && c ≤ 'f' then some (c.toNat - 'a'.toNat + 10)
  else if 'A' ≤ c && c ≤ 'F' then some (c.toNat - 'A'.toNat + 10)
  else none

/-- The value of four hexadecimal digits. -/
def hexValue? (a b c d : Char) : Option Nat := do
  return (((← hexDigit? a) * 16 + (← hexDigit? b)) * 16 + (← hexDigit? c)) * 16 + (← hexDigit? d)

/-- The fault of a text that does not start with four hexadecimal digits. -/
def hexFault (cs : List Char) : Fault :=
  if byteCount cs < 4 then ⟨.endInString, 0⟩ else ⟨.invalidEscape, byteCount cs - 4⟩

/-- Four hexadecimal digits at the front, and the rest. -/
def readHex : List Char → Except Fault (Nat × List Char)
  | a :: b :: c :: d :: rest =>
    match hexValue? a b c d with
    | some n => .ok (n, rest)
    | none => .error (hexFault (a :: b :: c :: d :: rest))
  | cs => .error (hexFault cs)

/-- The rest after the `\u` that must follow the first half of a pair. -/
def readSecondHalf : List Char → Except Fault (List Char)
  | '\\' :: 'u' :: rest => .ok rest
  | [] | ['\\'] => .error ⟨.endInString, 0⟩
  | '\\' :: rest => .error (.atNext .endOfHexEscape rest)
  | rest => .error (.atNext .endOfHexEscape rest)

/-- The character of a `\u` escape, after the `u`. Characters above the basic plane are pairs of
escapes. -/
def readUnicode (cs : List Char) : Except Fault (Char × List Char) := do
  let (n, rest) ← readHex cs
  if 0xDC00 ≤ n && n ≤ 0xDFFF then throw (.before .loneSurrogate rest)
  else if 0xD800 ≤ n && n ≤ 0xDBFF then
    let (low, rest) ← readHex (← readSecondHalf rest)
    if 0xDC00 ≤ low && low ≤ 0xDFFF then
      pure (.ofNat ((n - 0xD800) * 1024 + (low - 0xDC00) + 0x10000), rest)
    else throw (.before .loneSurrogate rest)
  else pure (.ofNat n, rest)

/-- The character of an escape, after its backslash. -/
def readEscape : List Char → Except Fault (Char × List Char)
  | [] => .error ⟨.endInString, 0⟩
  | c :: cs =>
    if c = '"' || c = '\\' || c = '/' then .ok (c, cs)
    else if c = 'b' then .ok ('\x08', cs)
    else if c = 'f' then .ok ('\x0c', cs)
    else if c = 'n' then .ok ('\n', cs)
    else if c = 'r' then .ok ('\r', cs)
    else if c = 't' then .ok ('\t', cs)
    else if c = 'u' then readUnicode cs
    else .error (.atNext .invalidEscape (c :: cs))

theorem length_lt_of_readHex {cs rest : List Char} {n : Nat} (h : readHex cs = .ok (n, rest)) :
    rest.length < cs.length := by
  simp only [readHex] at h
  split at h
  · split at h
    · obtain ⟨-, rfl⟩ := Prod.mk.inj (Except.ok.inj h)
      simp only [List.length_cons]
      omega
    · simp at h
  · simp at h

theorem length_lt_of_readSecondHalf {cs rest : List Char} (h : readSecondHalf cs = .ok rest) :
    rest.length < cs.length := by
  simp only [readSecondHalf] at h
  split at h
  · obtain rfl := Except.ok.inj h
    simp only [List.length_cons]
    omega
  all_goals simp at h

theorem length_lt_of_readUnicode {cs rest : List Char} {c : Char}
    (h : readUnicode cs = .ok (c, rest)) : rest.length < cs.length := by
  simp only [readUnicode] at h
  cases h₁ : readHex cs with
  | error e => simp [h₁, bind, Except.bind] at h
  | ok p =>
    obtain ⟨n, r₁⟩ := p
    have l₁ := length_lt_of_readHex h₁
    simp only [h₁, bind, Except.bind] at h
    split at h
    · simp [throw, throwThe, MonadExceptOf.throw] at h
    · split at h
      · cases h₂ : readSecondHalf r₁ with
        | error e => simp [h₂] at h
        | ok r₂ =>
          have l₂ := length_lt_of_readSecondHalf h₂
          simp only [h₂] at h
          cases h₃ : readHex r₂ with
          | error e => simp [h₃] at h
          | ok q =>
            obtain ⟨low, r₃⟩ := q
            have l₃ := length_lt_of_readHex h₃
            simp only [h₃] at h
            split at h
            · simp only [pure, Except.pure, Except.ok.injEq, Prod.mk.injEq] at h
              have := congrArg List.length h.2
              omega
            · simp [throw, throwThe, MonadExceptOf.throw] at h
      · simp only [pure, Except.pure, Except.ok.injEq, Prod.mk.injEq] at h
        exact h.2 ▸ l₁

theorem length_lt_of_readEscape {cs rest : List Char} {c : Char}
    (h : readEscape cs = .ok (c, rest)) : rest.length < cs.length := by
  simp only [readEscape] at h
  split at h
  · simp at h
  · repeat' split at h
    all_goals first
      | exact Nat.lt_succ_of_lt (length_lt_of_readUnicode h)
      | (simp only [Except.ok.injEq, Prod.mk.injEq] at h
         simp [← h.2])
      | simp at h

/-- A string, after its opening quote, and what follows its closing quote. -/
def readString : List Char → Except Fault (List Char × List Char)
  | [] => .error ⟨.endInString, 0⟩
  | c :: cs =>
    if c = '"' then .ok ([], cs)
    else if c = '\\' then
      match h : readEscape cs with
      | .error e => .error e
      | .ok (c, rest) =>
        have := length_lt_of_readEscape h
        match readString rest with
        | .error e => .error e
        | .ok (s, rest) => .ok (c :: s, rest)
    else if c.toNat < 0x20 then .error (.atNext .controlCharacter (c :: cs))
    else
      match readString cs with
      | .error e => .error e
      | .ok (s, rest) => .ok (c :: s, rest)
termination_by cs => cs.length

theorem length_lt_of_readString {cs s rest : List Char} (h : readString cs = .ok (s, rest)) :
    rest.length < cs.length := by
  fun_induction readString cs generalizing s rest with
  | case1 => simp at h
  | case2 => simp_all
  | case3 => simp at h
  | case4 => simp at h
  | case5 _ _ _ _ hl _ _ hs _ ih =>
    simp only [Except.ok.injEq, Prod.mk.injEq] at h
    have := h.2 ▸ ih hs
    simp only [List.length_cons]
    omega
  | case6 => simp at h
  | case7 => simp at h
  | case8 _ _ _ _ _ _ _ hs ih =>
    simp only [Except.ok.injEq, Prod.mk.injEq] at h
    have := h.2 ▸ ih hs
    simp only [List.length_cons]
    omega

end Phrasebook.Json
