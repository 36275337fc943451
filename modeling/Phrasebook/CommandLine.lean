import Phrasebook.Check
import Phrasebook.Help

/-! The command line: `eval` renders one template, `check` checks files of phrases, and `help` tells
about them. -/
namespace Phrasebook

/-- What a run of the program leaves: its exit code and what it writes. -/
structure Outcome where
  code : Nat
  stdout : String := ""
  stderr : String := ""
deriving DecidableEq, Repr

namespace Outcome

/-- The exit codes of a wrong command line, of wrong data, and of a file that cannot be read. -/
def usageCode : Nat := 2
def dataCode : Nat := 65
def unreadableCode : Nat := 70

end Outcome

/-- When output is colored. -/
inductive ColorChoice where
  | auto
  | always
  | never
deriving DecidableEq, Repr

namespace ColorChoice

def ofName? : String → Option ColorChoice
  | "auto" => some auto
  | "always" => some always
  | "never" => some never
  | _ => none

/-- A text in the terminal's color of this number. Without demand output is plain. -/
def paint (choice : ColorChoice) (color : Nat) (s : String) : String :=
  if choice = always then "\x1b[" ++ toString color ++ "m" ++ s ++ "\x1b[39m" else s

end ColorChoice

namespace OptionSpec

def color : OptionSpec where
  name := "color"
  value := some "COLOR"
  about := "Color output control [default: auto] [possible values: auto, always, never]"

def verbose : OptionSpec where
  name := "verbose"
  letter := some 'v'
  about := "Enable verbose output (overridden by RUST_LOG)"

def json : OptionSpec where
  name := "json"
  about := "Output as JSON"

def help : OptionSpec where
  name := "help"
  letter := some 'h'
  isLast := true
  about := "Print help"

def version : OptionSpec where
  name := "version"
  letter := some 'V'
  isLast := true
  about := "Print version"

end OptionSpec

/-- Renders a template. -/
structure EvalCommand where
  template : String
  language : String
  fallback : String
  /-- Names and texts of the values; the last of one name counts. -/
  params : List (String × String)
  /-- The currency of locales that have none. -/
  currency : Option Currency
  json : Bool
deriving DecidableEq, Repr

namespace EvalCommand

def options : List OptionSpec := [
  .color,
  { name := "lang", value := some "LANG",
    about := "Locale tag for formatting (e.g., en, de-AT, ru) [default: en]" },
  { name := "fallback", value := some "FALLBACK",
    about := "Locale used when --lang is not a well-formed tag [default: en]" },
  .verbose,
  { name := "template", value := some "TEMPLATE", about := "Template string to render" },
  { name := "param", letter := some 'p', value := some "PARAMS", repeatable := true,
    about := "Parameters in name=value format (repeatable)" },
  { name := "currency", value := some "CURRENCY",
    about := "Currency for `currency` number formats when the locale has none" },
  .json,
  .help]

def page : HelpPage where
  about := "Render a message template"
  usage := "eval [OPTIONS] --template <TEMPLATE>"
  options

/-- A name and a text with an equals sign between them. -/
def param (s : String) : Except UsageError (String × String) :=
  match Arguments.splitAtEquals s.toList with
  | (_, none) => .error (.invalidValue "param" s)
  | (name, some text) => .ok (.ofList name, .ofList text)

/-- Reads the arguments, unless they ask for help. -/
def ofArguments (a : Arguments) : Except UsageError (Option EvalCommand) := do
  let params ← (a.values "param").mapM param
  let currency ← match a.value? "currency" with
    | none => pure none
    | some code =>
      match Currency.ofCode? code with
      | some c => pure (some c)
      | none => throw (.invalidValue "currency" code)
  match a.operands, a.isGiven "help", a.value? "template" with
  | operand :: _, _, _ => throw (.unexpectedOperand operand)
  | [], true, _ => pure none
  | [], false, none => throw (.missingOption "template")
  | [], false, some template =>
    pure <| some {
      template, params, currency
      language := (a.value? "lang").getD "en"
      fallback := (a.value? "fallback").getD "en"
      json := a.isGiven "json" }

/-- The text of the template, or why there is none. -/
def result (c : EvalCommand) : Except PhraseError String :=
  let values := Dictionary.ofList (c.params.map fun (name, text) => (name, Value.ofText text))
  fillTemplate .direct { default := c.currency.getD .usd } c.template (some values)
    [c.language, c.fallback]

def run (c : EvalCommand) : Outcome :=
  let object (name text : String) := (Json.Document.record [(name, .text text)]).pretty
  match c.result with
  | .ok text =>
    { code := 0, stdout := (if c.json then object "result" text else text) ++ "\n" }
  | .error e =>
    { code := Outcome.dataCode
      stderr :=
        (if c.json then object "error" e.message else "Evaluation error: " ++ e.message) ++ "\n" }

end EvalCommand

/-- Checks files. -/
structure CheckCommand where
  files : List String
  json : Bool
  color : ColorChoice
deriving DecidableEq, Repr

namespace CheckCommand

def options : List OptionSpec := [.color, .json, .verbose, .help]

def page : HelpPage where
  about := "Compile the placeholders of JSON translation files"
  usage := "check [OPTIONS] <FILES>..."
  operands :=
    [("<FILES>...", "Translation files to check (flat JSON objects of key to template)")]
  options

/-- Reads the arguments, unless they ask for help. -/
def ofArguments (a : Arguments) (color : ColorChoice) :
    Except UsageError (Option CheckCommand) :=
  if "" ∈ a.operands then .error (.missingOperand "file")
  else if a.isGiven "help" then .ok none
  else if a.operands.isEmpty then .error (.missingOperand "file")
  else .ok (some ⟨a.operands, a.isGiven "json", color⟩)

/-- The table of the counts and the verdict, in green or red. -/
def overview (c : CheckCommand) (r : Report) : String :=
  r.table.render ++ "\n" ++ c.color.paint (if r.isClean then 32 else 31) r.summary ++ "\n"

/-- Runs with access to the contents of files. -/
def run (c : CheckCommand) (content? : String → Option String) : Outcome :=
  match Report.ofFiles content? c.files with
  | .error file =>
    { code := Outcome.unreadableCode, stderr := "Cannot read translation file " ++ file ++ "\n" }
  | .ok report =>
    let code := if report.isClean then 0 else Outcome.dataCode
    if c.json then { code, stdout := report.document.pretty ++ "\n" }
    else
      { code
        stdout := c.overview report
        stderr := String.join (report.details.map (· ++ "\n")) }

end CheckCommand

namespace HelpCommand

def page : HelpPage where
  about := "Print this message or the help of the given subcommand(s)"
  usage := "help [COMMAND]..."
  operands := [("[COMMAND]...", "Print help for the subcommand(s)")]

end HelpCommand

inductive Command where
  | eval (c : EvalCommand)
  | check (c : CheckCommand)
  | help (page : HelpPage)
  | version
deriving DecidableEq, Repr

namespace Command

/-- The options that may stand before the name of a command. -/
def options : List OptionSpec := [.color, .verbose, .help, .version]

/-- The help on each command, by its name. -/
def pages : List (String × HelpPage) :=
  [("check", CheckCommand.page), ("eval", EvalCommand.page), ("help", HelpCommand.page)]

/-- The help on the program as a whole. -/
def page : HelpPage where
  about := "ICU message template tools"
  usage := "[OPTIONS] <COMMAND>"
  commands := pages.map fun (name, p) => (name, p.about)
  options

/-- The help on the command of this name, which has no commands of its own. -/
def pageOf : List String → Except UsageError HelpPage
  | [] => .ok page
  | name :: names =>
    match pages.lookup name, names with
    | none, _ => .error (.unknownCommand name)
    | some _, inner :: _ => .error (.unknownCommand inner)
    | some p, [] => .ok p

/-- When to color, if that is asked for. -/
def color? (a : Arguments) : Except UsageError (Option ColorChoice) :=
  match a.value? "color" with
  | none => .ok none
  | some name =>
    match ColorChoice.ofName? name with
    | some choice => .ok (some choice)
    | none => .error (.invalidValue "color" name)

/-- Reads a command with its arguments, given the choice of color before its name. What follows the
name has precedence. -/
def ofName (outer : Option ColorChoice) (name : String) (args : List String) :
    Except UsageError Command := do
  match name with
  | "eval" =>
    let a ← Arguments.ofList EvalCommand.options false args
    let _ ← color? a
    let c ← EvalCommand.ofArguments a
    pure ((c.map eval).getD (help EvalCommand.page))
  | "check" =>
    let a ← Arguments.ofList CheckCommand.options false args
    let inner ← color? a
    let c ← CheckCommand.ofArguments a ((inner <|> outer).getD .auto)
    pure ((c.map check).getD (help CheckCommand.page))
  | "help" => help <$> pageOf args
  | name => throw (.unknownCommand name)

/-- Reads a command line. -/
def ofArguments (args : List String) : Except UsageError Command := do
  let before ← Arguments.ofList options true args
  let outer ← color? before
  if before.isGiven "help" then pure (help page)
  else if before.isGiven "version" then pure version
  else
    match before.operands with
    | [] => throw .missingCommand
    | name :: args => ofName outer name args

/-- The files that the command reads. -/
def files : Command → List String
  | check c => c.files
  | _ => []

/-- The version of the program. -/
def versionText : String := "0.1.0"

/-- Runs in a program of this name, with access to the contents of files. -/
def run (program : String) (content? : String → Option String) : Command → Outcome
  | eval c => c.run
  | check c => c.run content?
  | help page => { code := 0, stdout := page.render program }
  | version => { code := 0, stdout := program ++ " " ++ versionText ++ "\n" }

end Command

/-- Runs a command line in a program of this name, with access to the contents of files. -/
def runArguments (program : String) (content? : String → Option String) (args : List String) :
    Outcome :=
  match Command.ofArguments args with
  | .ok c => c.run program content?
  | .error e => { code := Outcome.usageCode, stderr := e.message ++ "\n" }

end Phrasebook
