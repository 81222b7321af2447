import StructSchema.CommandLine.Run

/-!
# The program

The outer layer: files and streams of the operating system as a host, and the end of the process.
-/

namespace StructSchema.CommandLine

/-- The fault behind an exception of the operating system, whose code comes with either sign. -/
def FileFault.ofException (e : IO.Error) : FileFault :=
  match e with
  | .noFileOrDirectory .. => .notFound
  | .inappropriateType _ code _ | .invalidArgument _ code _ =>
    match min code (0 - code) with
    | 20 => .notDirectory
    | 21 => .isDirectory
    | 36 => .nameTooLong
    | _ => .other (toString e)
  | _ => .other (toString e)

instance : Host IO where
  readFile path := do
    try return .ok (← IO.FS.readBinFile path)
    catch e => return .error (.ofException e)
  readInput := do (← IO.getStdin).readBinToEnd
  writeFile path text := do
    try
      IO.FS.writeFile path text
      return .ok ()
    catch e => return .error (.ofException e)
  print text := IO.print text

end StructSchema.CommandLine

open StructSchema.CommandLine in
/-- Runs the program on the arguments of the process. -/
def main (arguments : List String) : IO UInt32 := do
  let outcome ← run (m := IO) arguments
  match outcome with
  | .done => pure ()
  | .failed failure => IO.eprintln ("Error: " ++ failure.report)
  | .refused => IO.eprint usage
  return outcome.exitCode.toUInt32
