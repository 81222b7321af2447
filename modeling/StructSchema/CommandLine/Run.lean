import StructSchema.CommandLine.Arguments
import StructSchema.CommandLine.Host

/-!
# Running the program

A run reads its text, converts it and only then writes the result, so that nothing is written by a
run that fails before.
-/

namespace StructSchema.CommandLine

/-- Why a request could not be carried out. -/
inductive Failure where
  | conversion (error : Error)
  | file (fault : FileFault)
deriving DecidableEq, Repr

/-- The report of a failure. -/
def Failure.report : Failure → String
  | .conversion error => error.report
  | .file fault => "Io(" ++ fault.report ++ ")"

/-- How a run ends. -/
inductive Outcome where
  | done
  | failed (failure : Failure)
  /-- The arguments are wrong. -/
  | refused
deriving DecidableEq, Repr

/-- The exit code of the program. -/
def Outcome.exitCode : Outcome → Nat
  | .done => 0
  | .failed _ => 1
  | .refused => 2

/-- What the program does and how it is called. -/
def usage : String :=
  "Convert Go-style struct declarations to tagged structs or protobuf messages\n\n" ++
  "Usage: structschema <COMMAND>\n\n" ++
  "Commands:\n" ++
  "  proto  Write one protobuf message per struct\n" ++
  "  tags   Write the structs with generated serialization tags\n" ++
  "  dump   Describe the structs as JSON\n" ++
  "  help   Print this text\n\n" ++
  "Options:\n" ++
  "  -i, --input <FILE>     Read a file instead of standard input\n" ++
  "  -o, --output <FILE>    Write a file instead of standard output (proto, tags)\n" ++
  "  -p, --package <NAME>   Name the package (proto, tags)\n" ++
  "  -t, --tag <KEY>        Generate tags with this key (tags) [default: json]\n" ++
  "  -h, --help             Print this text\n"

/-- The text of a request's result: a description ends its last line. -/
def Request.result (r : Request) (text : String) : Except Error String :=
  (convert r.target r.options text).map fun out =>
    if r.target = .description then out ++ "\n" else out

/-- The text that bytes encode. -/
def decode (bytes : ByteArray) : Except FileFault String :=
  match String.fromUTF8? bytes with
  | some text => .ok text
  | none => .error .notText

variable {m : Type → Type} [Monad m] [Host m]

/-- Reads the text of a file or of standard input. -/
def readText (input? : Option String) : m (Except FileFault String) := do
  match input? with
  | some path => return (← Host.readFile path).bind decode
  | none => return decode (← Host.readInput)

/-- Writes a text to a file or to standard output. -/
def writeText (output? : Option String) (text : String) : m (Except FileFault Unit) := do
  match output? with
  | some path => Host.writeFile path text
  | none =>
    Host.print text
    return .ok ()

/-- Carries out a request. -/
def Request.perform (r : Request) : m Outcome := do
  match ← readText r.input? with
  | .error fault => return .failed (.file fault)
  | .ok text =>
    match r.result text with
    | .error error => return .failed (.conversion error)
    | .ok out =>
      match ← writeText r.output? out with
      | .error fault => return .failed (.file fault)
      | .ok () => return .done

/-- Runs the program on its arguments. -/
def run (arguments : List String) : m Outcome := do
  match Request.ofArguments arguments with
  | .error .refused => return .refused
  | .error .help =>
    Host.print usage
    return .done
  | .ok request => request.perform

end StructSchema.CommandLine
