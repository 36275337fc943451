import Phrasebook.Dictionary
import Phrasebook.Json.Number
import Phrasebook.Json.Text

/-! Objects of strings in JSON: written compactly, and read back. -/
namespace Phrasebook.Json

/-- A member as it is written. -/
def member (key text : String) : List Char :=
  quote key.toList ++ ':' :: quote text.toList

/-- Members in order, with commas between them. -/
def members : List (String × String) → List Char
  | [] => []
  | [(key, text)] => member key text
  | (key, text) :: es => member key text ++ ',' :: members es

/-- The object of a list of members, in order. -/
def object (es : List (String × String)) : String :=
  .ofList ('\x7b' :: (members es ++ ['\x7d']))

def isSpace (c : Char) : Bool :=
  c == ' ' || c == '\n' || c == '\t' || c == '\r'

def skipSpace (cs : List Char) : List Char :=
  cs.dropWhile isSpace

/-- The fault of a literal that starts with a letter and should go on with these. -/
def readLiteral (found : Found) (expectsMap : Bool) : List Char → List Char → Fault
  | [], rest => .before (.invalidType found expectsMap) rest
  | _ :: _, [] => .before .endInValue []
  | l :: ls, c :: cs =>
    if c = l then readLiteral found expectsMap ls cs else .atNext .expectedIdent (c :: cs)

/-- The fault of a value that is not of the expected kind. It shows after a value that is not a list
or an object. -/
def wrongType (expectsMap : Bool) (cs : List Char) : Fault :=
  let told : Except Fault (Found × List Char) → Fault
    | .ok (found, rest) => .before (.invalidType found expectsMap) rest
    | .error e => e
  match cs with
  | 'n' :: rest => readLiteral .null expectsMap ['u', 'l', 'l'] rest
  | 't' :: rest => readLiteral (.boolean true) expectsMap ['r', 'u', 'e'] rest
  | 'f' :: rest => readLiteral (.boolean false) expectsMap ['a', 'l', 's', 'e'] rest
  | '-' :: rest => told (readNumber true rest)
  | '"' :: rest => told ((fun (s, rest) => (Found.string (.ofList s), rest)) <$> readString rest)
  | '[' :: _ => .before (.invalidType .sequence expectsMap) cs
  | '\x7b' :: _ => .before (.invalidType .map expectsMap) cs
  | c :: _ => if c.isDigit then told (readNumber false cs) else .atNext .expectedValue cs
  | [] => .atNext .endInValue cs

/-- A member's text, after its key. -/
def readText (cs : List Char) : Except Fault (List Char × List Char) :=
  match skipSpace cs with
  | ':' :: cs =>
    match skipSpace cs with
    | '"' :: cs => readString cs
    | cs => .error (wrongType false cs)
  | [] => .error (.atNext .endInObject [])
  | cs => .error (.atNext .expectedColon cs)

/-- A member, after the opening quote of its key. -/
def readMember (cs : List Char) : Except Fault ((String × String) × List Char) :=
  match readString cs with
  | .error e => .error e
  | .ok (key, rest) =>
    match readText rest with
    | .error e => .error e
    | .ok (text, rest) => .ok ((.ofList key, .ofList text), rest)

theorem length_skipSpace_le (cs : List Char) : (skipSpace cs).length ≤ cs.length :=
  Text.length_dropWhile_le isSpace cs

theorem length_lt_of_readText {cs s rest : List Char} (h : readText cs = .ok (s, rest)) :
    rest.length < cs.length := by
  simp only [readText] at h
  split at h
  · rename_i r hr
    have l₁ := length_skipSpace_le cs
    split at h
    · rename_i q hq
      have l₂ := length_skipSpace_le r
      have l₃ := length_lt_of_readString h
      rw [hr, List.length_cons] at l₁
      rw [hq, List.length_cons] at l₂
      omega
    · simp at h
  · simp at h
  · simp at h

theorem length_lt_of_readMember {cs rest : List Char} {e : String × String}
    (h : readMember cs = .ok (e, rest)) : rest.length < cs.length := by
  simp only [readMember] at h
  split at h
  · simp at h
  · rename_i h₁
    split at h
    · simp at h
    · rename_i h₂
      simp only [Except.ok.injEq, Prod.mk.injEq] at h
      have l₁ := length_lt_of_readString h₁
      have l₂ := h.2 ▸ length_lt_of_readText h₂
      omega

/-- The members after the first one, and what follows the object. -/
def readMore (cs : List Char) : Except Fault (List (String × String) × List Char) :=
  match h : skipSpace cs with
  | '\x7d' :: rest => .ok ([], rest)
  | ',' :: rest =>
    match h₁ : skipSpace rest with
    | '"' :: rest' =>
      match h₂ : readMember rest' with
      | .error e => .error e
      | .ok (e, rest'') =>
        have : rest''.length < cs.length := by
          have l₁ := length_skipSpace_le cs
          have l₂ := length_skipSpace_le rest
          have l₃ := length_lt_of_readMember h₂
          rw [h, List.length_cons] at l₁
          rw [h₁, List.length_cons] at l₂
          omega
        match readMore rest'' with
        | .error e => .error e
        | .ok (es, rest) => .ok (e :: es, rest)
    | '\x7d' :: rest' => .error (.atNext .trailingComma ('\x7d' :: rest'))
    | [] => .error (.atNext .endInValue [])
    | rest' => .error (.atNext .keyMustBeString rest')
  | [] => .error (.atNext .endInObject [])
  | rest => .error (.atNext .expectedCommaOrEnd rest)
termination_by cs.length

/-- The members of an object after its opening brace, and what follows the object. -/
def readMembers (cs : List Char) : Except Fault (List (String × String) × List Char) :=
  match skipSpace cs with
  | '\x7d' :: rest => .ok ([], rest)
  | '"' :: rest =>
    match readMember rest with
    | .error e => .error e
    | .ok (e, rest) =>
      match readMore rest with
      | .error e => .error e
      | .ok (es, rest) => .ok (e :: es, rest)
  | [] => .error (.atNext .endInObject [])
  | rest => .error (.atNext .keyMustBeString rest)

/-- The members, in order, of the object that a whole text is. -/
def readObject (cs : List Char) : Except Fault (List (String × String)) :=
  match skipSpace cs with
  | '\x7b' :: rest =>
    match readMembers rest with
    | .error e => .error e
    | .ok (es, rest) =>
      match skipSpace rest with
      | [] => .ok es
      | rest => .error (.atNext .trailingCharacters rest)
  | [] => .error (.atNext .endInValue [])
  | rest => .error (wrongType true rest)

/-- The dictionary that a JSON text holds; the last of members with one key counts. -/
def readDictionary (s : String) : Except Error (Dictionary String) :=
  match readObject s.toList with
  | .ok es => .ok (.ofList es)
  | .error fault => .error (fault.locate s.toList)

end Phrasebook.Json
