import StructSchema.Error

/-!
# Hosts

What the program needs of its surroundings: files, standard input and standard output.
-/

namespace StructSchema.CommandLine

/-- Why a file could not be used. -/
inductive FileFault where
  | notFound
  | isDirectory
  | notDirectory
  | nameTooLong
  /-- The bytes are no UTF-8. -/
  | notText
  /-- Any other reason, in the words of the host. -/
  | other (reason : String)
deriving DecidableEq, Repr

/-- The report of a fault that the operating system numbers. -/
def FileFault.numbered (code : Nat) (kind reason : String) : String :=
  Error.detailed "Os"
    [("code", toString code), ("kind", kind), ("message", Text.visibleText reason)]

/-- The report of a fault. -/
def FileFault.report : FileFault → String
  | .notFound => numbered 2 "NotFound" "No such file or directory"
  | .notDirectory => numbered 20 "NotADirectory" "Not a directory"
  | .isDirectory => numbered 21 "IsADirectory" "Is a directory"
  | .nameTooLong => numbered 36 "InvalidFilename" "File name too long"
  | .notText =>
    Error.detailed "Error"
      [("kind", "InvalidData"), ("message", Text.visibleText "stream did not contain valid UTF-8")]
  | .other reason => Error.detailed "Error" [("message", Text.visibleText reason)]

/-- Files and standard streams. -/
class Host (m : Type → Type) where
  /-- The bytes of a file. -/
  readFile : String → m (Except FileFault ByteArray)
  /-- The bytes of standard input. -/
  readInput : m ByteArray
  /-- Gives a file a text for its whole content. -/
  writeFile : String → String → m (Except FileFault Unit)
  /-- Adds a text to standard output. -/
  print : String → m Unit

end StructSchema.CommandLine
