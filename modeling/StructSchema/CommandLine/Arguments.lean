import StructSchema.Conversion

/-!
# Arguments

What the arguments of the program ask for. The first names a command, the others are its options,
each with one value: short options take it attached or as the next argument, long ones behind `=` or
as the next argument. No option is given twice, and nothing else may stand among them.

Arguments are read from left to right: the first that is wrong or asks for help decides.
-/

namespace StructSchema.CommandLine

/-- The options. -/
inductive OptionName where
  /-- The file to read. -/
  | input
  /-- The file to write. -/
  | output
  /-- The name in the package clause. -/
  | package
  /-- The key of generated tag entries. -/
  | tag
deriving DecidableEq, Repr

namespace OptionName

/-- The name behind two hyphens. -/
def long : OptionName → String
  | .input => "input"
  | .output => "output"
  | .package => "package"
  | .tag => "tag"

/-- The letter behind one hyphen. -/
def short : OptionName → Char
  | .input => 'i'
  | .output => 'o'
  | .package => 'p'
  | .tag => 't'

/-- A file name is never empty; other values may be. -/
def admits (name : OptionName) (value : String) : Bool :=
  match name with
  | .input | .output => !value.isEmpty
  | .package | .tag => true

end OptionName

/-- The commands with what they convert to. -/
def commands : List (String × Target) :=
  [("proto", .messages), ("tags", .declarations), ("dump", .description)]

/-- The command that explains the others. -/
def helpCommand : String := "help"

/-- The options of a command. -/
def optionsOf : Target → List OptionName
  | .messages => [.input, .output, .package]
  | .declarations => [.input, .output, .package, .tag]
  | .description => [.input]

/-- An argument by its outer form. -/
inductive Argument where
  /-- Two hyphens alone. -/
  | terminator
  /-- A name behind two hyphens, with what follows `=`. -/
  | long (name : String) (attached? : Option String)
  /-- A letter behind one hyphen, with what follows it, less an `=` in front. -/
  | short (letter : Char) (attached? : Option String)
  /-- Anything else: it does not start with a hyphen, or is one. -/
  | plain (text : String)
deriving DecidableEq, Repr

/-- The outer form of an argument. -/
def Argument.ofText (text : String) : Argument :=
  match text.toList with
  | ['-', '-'] => .terminator
  | '-' :: '-' :: body =>
    .long (String.ofList (body.takeWhile (· != '=')))
      ((body.dropWhile (· != '=')).tail?.map String.ofList)
  | ['-', letter] => .short letter none
  | '-' :: letter :: '=' :: value => .short letter (some (String.ofList value))
  | '-' :: letter :: value => .short letter (some (String.ofList value))
  | _ => .plain text

/-- Why arguments give nothing to do. -/
inductive Stop where
  /-- They are wrong. -/
  | refused
  /-- They ask for help. -/
  | help
deriving DecidableEq, Repr

/-- Values of options, the latest first. -/
abbrev Values := List (OptionName × String)

/-- Adds the value of an option that has none yet. -/
def Values.add (given : Values) (name : OptionName) (value : String) : Except Stop Values :=
  if (given.lookup name).isNone && name.admits value then .ok ((name, value) :: given)
  else .error .refused

/-- Whether an argument asks for help. -/
def Argument.asksHelp : Argument → Bool
  | .long name attached? => name == "help" && attached?.isNone
  | .short letter _ => letter == 'h'
  | _ => false

/-- The option that an argument names, among those allowed, with the value attached to it. -/
def Argument.option? (allowed : List OptionName) : Argument → Option (OptionName × Option String)
  | .long name attached? => (allowed.find? (·.long == name)).map fun o => (o, attached?)
  | .short letter attached? => (allowed.find? (·.short == letter)).map fun o => (o, attached?)
  | _ => none

/-- Reads options and their values. -/
def readOptions (allowed : List OptionName) (given : Values) : List String → Except Stop Values
  | [] => .ok given
  | first :: rest =>
    let argument := Argument.ofText first
    if argument.asksHelp then .error .help
    else if argument = .terminator then if rest.isEmpty then .ok given else .error .refused
    else match argument.option? allowed with
      | none => .error .refused
      | some (name, some value) =>
        (given.add name value).bind fun given => readOptions allowed given rest
      | some (name, none) =>
        match rest with
        | [] => .error .refused
        | next :: rest =>
          match Argument.ofText next with
          | .plain value => (given.add name value).bind fun given => readOptions allowed given rest
          | _ => .error .refused

/-- A conversion to do: of what, to what, and where the result goes. -/
structure Request where
  target : Target
  /-- The file to read; without one, standard input. -/
  input? : Option String
  /-- The file to write; without one, standard output. -/
  output? : Option String
  options : Options
deriving DecidableEq, Repr

/-- The request that a command makes with its options. -/
def Request.ofValues (target : Target) (given : Values) : Request :=
  { target
    input? := given.lookup .input
    output? := given.lookup .output
    options :=
      { tagKey := (given.lookup .tag).getD ({} : Options).tagKey
        package? := given.lookup .package } }

/-- Reads what follows the help command: at most the name of one command. -/
def readHelp : List String → Stop
  | [] => .help
  | [name] => if name == helpCommand || (commands.lookup name).isSome then .help else .refused
  | _ => .refused

/-- What the arguments ask for. -/
def Request.ofArguments : List String → Except Stop Request
  | [] => .error .refused
  | first :: rest =>
    if (Argument.ofText first).asksHelp then .error .help
    else if first == helpCommand then .error (readHelp rest)
    else match commands.lookup first with
      | none => .error .refused
      | some target => (readOptions (optionsOf target) [] rest).map (Request.ofValues target)

end StructSchema.CommandLine
