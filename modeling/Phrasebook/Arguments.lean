/-! Command-line arguments: options by name or letter, and operands. -/
namespace Phrasebook

/-- An option that a command knows. -/
structure OptionSpec where
  /-- Its name, after two hyphens. -/
  name : String
  /-- Its letter, after one. -/
  letter : Option Char := none
  /-- What its value is called, if it takes one. -/
  value : Option String := none
  repeatable : Bool := false
  /-- What follows it is not read. -/
  isLast : Bool := false
  /-- What it does, for the reader of a help page. -/
  about : String
deriving DecidableEq, Repr

def OptionSpec.takesValue (o : OptionSpec) : Bool :=
  o.value.isSome

/-- What is wrong with a command line. -/
inductive UsageError where
  | missingCommand
  | unknownCommand (name : String)
  | unknownOption (written : String)
  | missingOption (name : String)
  | repeatedOption (name : String)
  | missingValue (name : String)
  | unexpectedValue (name : String)
  | invalidValue (name value : String)
  | missingOperand (what : String)
  | unexpectedOperand (operand : String)
deriving DecidableEq, Repr

def UsageError.message : UsageError → String
  | missingCommand => "a command is required: check or eval"
  | unknownCommand name => "unknown command '" ++ name ++ "'"
  | unknownOption written => "unknown option '" ++ written ++ "'"
  | missingOption name => "option '--" ++ name ++ "' is required"
  | repeatedOption name => "option '--" ++ name ++ "' is given more than once"
  | missingValue name => "option '--" ++ name ++ "' needs a value"
  | unexpectedValue name => "option '--" ++ name ++ "' takes no value"
  | invalidValue name value => "invalid value '" ++ value ++ "' for '" ++ name ++ "'"
  | missingOperand what => "no " ++ what ++ " given"
  | unexpectedOperand operand => "unexpected argument '" ++ operand ++ "'"

/-- Options with their values, in order, and the arguments that are none. -/
structure Arguments where
  options : List (String × String)
  operands : List String
deriving DecidableEq, Repr

namespace Arguments

/-- What follows an argument with options. -/
inductive Next where
  /-- The value of an option. -/
  | value (name : String)
  | argument
  /-- Nothing that counts. -/
  | none
deriving DecidableEq, Repr

/-- Options read from one argument, and what follows it. -/
structure Reading where
  options : List (String × String)
  next : Next
deriving DecidableEq, Repr

/-- An option that takes no value. -/
def Reading.flag (spec : OptionSpec) : Reading :=
  ⟨[(spec.name, "")], if spec.isLast then .none else .argument⟩

/-- The text before the first equals sign, and the text after it if there is one. -/
def splitAtEquals : List Char → List Char × Option (List Char)
  | [] => ([], none)
  | c :: cs =>
    if c = '=' then ([], some cs)
    else
      let (name, value) := splitAtEquals cs
      (c :: name, value)

/-- An option by its name, with its value after an equals sign or to follow. -/
def readName (specs : List OptionSpec) (cs : List Char) : Except UsageError Reading :=
  let (name, value) := splitAtEquals cs
  match specs.find? (·.name == .ofList name) with
  | none => .error (.unknownOption ("--" ++ .ofList name))
  | some spec =>
    match spec.takesValue, value with
    | false, none => .ok (.flag spec)
    | false, some _ => .error (.unexpectedValue spec.name)
    | true, none => .ok ⟨[], .value spec.name⟩
    | true, some value => .ok ⟨[(spec.name, .ofList value)], .argument⟩

/-- Options by their letters. The first that takes a value has the rest for it, without an equals
sign at its front. -/
def readLetters (specs : List OptionSpec) : List Char → Except UsageError Reading
  | [] => .ok ⟨[], .argument⟩
  | c :: cs =>
    match specs.find? (·.letter == some c) with
    | none => .error (.unknownOption ("-" ++ c.toString))
    | some spec =>
      if spec.takesValue then
        match cs with
        | [] => .ok ⟨[], .value spec.name⟩
        | '=' :: value | value => .ok ⟨[(spec.name, .ofList value)], .argument⟩
      else if spec.isLast then .ok (.flag spec)
      else do
        let rest ← readLetters specs cs
        pure { rest with options := (spec.name, "") :: rest.options }

/-- An argument that is an option; a lone hyphen is none. -/
def isOption (arg : String) : Bool :=
  match arg.toList with
  | '-' :: _ :: _ => true
  | _ => false

def readOption (specs : List OptionSpec) (arg : String) : Except UsageError Reading :=
  match arg.toList with
  | '-' :: '-' :: cs => readName specs cs
  | _ :: cs => readLetters specs cs
  | [] => .ok ⟨[], .argument⟩

/-- Reads arguments, of which the first may be the value of an option. Two hyphens end the options.
With `leading` the options end at the first operand, and only there. -/
def read (specs : List OptionSpec) (leading : Bool) :
    Next → List String → Except UsageError Arguments
  | .none, _ | .argument, [] => .ok ⟨[], []⟩
  | .value name, [] => .error (.missingValue name)
  | .value name, arg :: args =>
    if isOption arg then .error (.missingValue name)
    else do
      let rest ← read specs leading .argument args
      pure { rest with options := (name, arg) :: rest.options }
  | .argument, arg :: args =>
    if arg = "--" then
      match leading, args with
      | true, operand :: _ => .error (.unexpectedOperand operand)
      | _, _ => .ok ⟨[], args⟩
    else if isOption arg then do
      let found ← readOption specs arg
      let rest ← read specs leading found.next args
      pure { rest with options := found.options ++ rest.options }
    else if leading then .ok ⟨[], arg :: args⟩
    else do
      let rest ← read specs leading .argument args
      pure { rest with operands := arg :: rest.operands }

/-- The values of an option, in order. -/
def values (a : Arguments) (name : String) : List String :=
  a.options.filterMap fun (n, value) => if n = name then some value else none

def value? (a : Arguments) (name : String) : Option String :=
  a.options.lookup name

def isGiven (a : Arguments) (name : String) : Bool :=
  (a.value? name).isSome

/-- Only an option that is repeatable is given more than once. -/
def checkRepeats (specs : List OptionSpec) (a : Arguments) : Except UsageError Unit :=
  match specs.find? fun spec => !spec.repeatable && 1 < (a.values spec.name).length with
  | some spec => .error (.repeatedOption spec.name)
  | none => .ok ()

/-- Reads the arguments of a command with these options. -/
def ofList (specs : List OptionSpec) (leading : Bool) (args : List String) :
    Except UsageError Arguments := do
  let a ← read specs leading .argument args
  a.checkRepeats specs
  pure a

end Arguments
end Phrasebook
