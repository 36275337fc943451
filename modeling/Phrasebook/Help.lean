import Phrasebook.Arguments

/-! Help on a command: what it does, how it is called, and its parts in columns. -/
namespace Phrasebook

structure HelpPage where
  about : String
  /-- How the command is called, after the name of the program. -/
  usage : String
  /-- Commands, operands and options, each with what it is. -/
  commands : List (String × String) := []
  operands : List (String × String) := []
  options : List OptionSpec := []
deriving DecidableEq, Repr

/-- The name of an option as it is written, its letter before it. -/
def OptionSpec.label (o : OptionSpec) : String :=
  let letter := match o.letter with
    | some c => "-" ++ c.toString ++ ", "
    | none => "    "
  let value := match o.value with
    | some name => " <" ++ name ++ ">"
    | none => ""
  letter ++ "--" ++ o.name ++ value

namespace HelpPage

/-- Rows under a title, the second column starting after the widest entry of the first. -/
def columns (title : String) (rows : List (String × String)) : String :=
  let width := (rows.map (·.1.length)).foldl max 0
  title ++ ":" ++ String.join (rows.map fun (label, text) =>
    "\n  " ++ label.pushn ' ' (width - label.length) ++ "  " ++ text)

/-- The parts of the page that have something to say. -/
def parts (p : HelpPage) (program : String) : List String :=
  let table (title : String) (rows : List (String × String)) :=
    if rows.isEmpty then [] else [columns title rows]
  [p.about, "Usage: " ++ program ++ " " ++ p.usage] ++ table "Commands" p.commands ++
    table "Arguments" p.operands ++ table "Options" (p.options.map fun o => (o.label, o.about))

/-- The page for a program of this name. -/
def render (p : HelpPage) (program : String) : String :=
  "\n\n".intercalate (p.parts program) ++ "\n"

end HelpPage
end Phrasebook
