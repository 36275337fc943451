import Phrasebook.Decimal
import Phrasebook.Json.Text

/-! JSON values as they are written in reports, over several lines. -/
namespace Phrasebook.Json

inductive Document where
  | text (s : String)
  | number (n : Nat)
  | list (items : List Document)
  | record (fields : List (String × Document))

namespace Document

/-- The start of a line at this depth. -/
def newLine (depth : Nat) : List Char :=
  '\n' :: List.replicate (2 * depth) ' '

/-- Items on lines of their own, or nothing between the brackets if there are none. -/
def block (opening closing : Char) (depth : Nat) : List (List Char) → List Char
  | [] => [opening, closing]
  | item :: items =>
    opening :: (newLine (depth + 1) ++ item ++
      items.flatMap (fun i => ',' :: (newLine (depth + 1) ++ i)) ++ newLine depth ++ [closing])

mutual

/-- A value whose first line is at this depth. -/
def write (depth : Nat) : Document → List Char
  | text s => quote s.toList
  | number n => Nat.toDigits 10 n
  | list items => block '[' ']' depth (writeItems (depth + 1) items)
  | record fields => block '\x7b' '\x7d' depth (writeFields (depth + 1) fields)

def writeItems (depth : Nat) : List Document → List (List Char)
  | [] => []
  | d :: ds => write depth d :: writeItems depth ds

def writeFields (depth : Nat) : List (String × Document) → List (List Char)
  | [] => []
  | (name, d) :: fields =>
    (quote name.toList ++ ':' :: ' ' :: write depth d) :: writeFields depth fields

end

/-- The value over several lines, two spaces deeper for each level. -/
def pretty (d : Document) : String :=
  .ofList (d.write 0)

end Document
end Phrasebook.Json
