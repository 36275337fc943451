/-! Splitting text at a character. -/
namespace Phrasebook.Text

/-- The pieces between the separators, of which there is always one more than separators. -/
def split (separator : Char) : List Char → List (List Char)
  | [] => [[]]
  | c :: cs =>
    if c = separator then [] :: split separator cs
    else
      match split separator cs with
      | [] => [[c]]
      | piece :: pieces => (c :: piece) :: pieces

end Phrasebook.Text
