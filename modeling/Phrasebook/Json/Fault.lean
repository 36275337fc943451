import Phrasebook.Text.Property

/-! What can be wrong with JSON text that should hold an object of strings, and where. -/
namespace Phrasebook.Json

/-- A value of a wrong kind, as far as it is told. -/
inductive Found where
  | null
  | boolean (b : Bool)
  | integer (n : Int)
  /-- A number with a fraction or an exponent, as written in the message. -/
  | floating (text : String)
  | string (s : String)
  | sequence
  | map
deriving DecidableEq, Repr

inductive Problem where
  | endInValue
  | endInString
  | endInObject
  | expectedColon
  | expectedCommaOrEnd
  | expectedIdent
  | expectedValue
  | invalidEscape
  | invalidNumber
  | numberOutOfRange
  | keyMustBeString
  | trailingComma
  | trailingCharacters
  | controlCharacter
  | loneSurrogate
  | endOfHexEscape
  /-- A string is expected, or a map at the top. -/
  | invalidType (found : Found) (expectsMap : Bool)
deriving DecidableEq, Repr

/-- Characters that do not show or do not stand alone: all that is not graphic but the space, marks
that belong to the character before them, and what a display may ignore. -/
def isInvisible (c : Char) : Bool :=
  (Text.isWithin Text.nonGraphic c && c != ' ') || Text.isWithin Text.graphemeExtend c ||
    Text.isWithin Text.defaultIgnorable c

/-- A character of a text in quotes, escaped if it would not show. -/
def quotedChar (c : Char) : String :=
  match c with
  | '"' => "\\\""
  | '\\' => "\\\\"
  | '\n' => "\\n"
  | '\r' => "\\r"
  | '\t' => "\\t"
  | '\x00' => "\\0"
  | c =>
    if isInvisible c then "\\u\x7b" ++ .ofList (Nat.toDigits 16 c.toNat) ++ "\x7d"
    else c.toString

namespace Found

def message : Found → String
  | null => "null"
  | boolean b => "boolean `" ++ (if b then "true" else "false") ++ "`"
  | integer n => "integer `" ++ toString n ++ "`"
  | floating text => "floating point `" ++ text ++ "`"
  | string s => "string \"" ++ String.join (s.toList.map quotedChar) ++ "\""
  | sequence => "sequence"
  | map => "map"

end Found

namespace Problem

def message : Problem → String
  | endInValue => "EOF while parsing a value"
  | endInString => "EOF while parsing a string"
  | endInObject => "EOF while parsing an object"
  | expectedColon => "expected `:`"
  | expectedCommaOrEnd => "expected `,` or `\x7d`"
  | expectedIdent => "expected ident"
  | expectedValue => "expected value"
  | invalidEscape => "invalid escape"
  | invalidNumber => "invalid number"
  | numberOutOfRange => "number out of range"
  | keyMustBeString => "key must be a string"
  | trailingComma => "trailing comma"
  | trailingCharacters => "trailing characters"
  | controlCharacter => "control character (\\u0000-\\u001F) found while parsing a string"
  | loneSurrogate => "lone leading surrogate in hex escape"
  | endOfHexEscape => "unexpected end of hex escape"
  | invalidType found expectsMap =>
    "invalid type: " ++ found.message ++ ", expected " ++ if expectsMap then "a map" else "a string"

end Problem

/-- A problem, and how many bytes of the text are left after the place where it shows. -/
structure Fault where
  problem : Problem
  left : Nat
deriving DecidableEq, Repr

/-- The number of bytes that a text has in UTF-8. -/
def byteCount (cs : List Char) : Nat :=
  cs.foldr (fun c bytes => c.utf8Size + bytes) 0

namespace Fault

/-- A problem that shows before `rest`. -/
def before (problem : Problem) (rest : List Char) : Fault :=
  ⟨problem, byteCount rest⟩

/-- A problem that shows at the first byte of `rest`, or at the end. -/
def atNext (problem : Problem) (rest : List Char) : Fault :=
  ⟨problem, byteCount rest - 1⟩

end Fault

/-- A problem with its line, from 1, and the number of bytes up to it in that line. -/
structure Error where
  problem : Problem
  line : Nat
  column : Nat
deriving DecidableEq, Repr

/-- The line and the column after a number of bytes, counting from a given line and column. -/
def position (bytes line column : Nat) : List Char → Nat × Nat
  | [] => (line, column)
  | c :: cs =>
    if bytes < c.utf8Size then (line, column + bytes)
    else if c = '\n' then position (bytes - 1) (line + 1) 0 cs
    else position (bytes - c.utf8Size) line (column + c.utf8Size) cs

/-- The place of a fault in a text. -/
def Fault.locate (f : Fault) (text : List Char) : Error :=
  let (line, column) := position (byteCount text - f.left) 1 0 text
  ⟨f.problem, line, column⟩

def Error.message (e : Error) : String :=
  e.problem.message ++ " at line " ++ toString e.line ++ " column " ++ toString e.column

end Phrasebook.Json
