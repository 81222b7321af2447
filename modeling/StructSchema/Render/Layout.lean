import StructSchema.Schema.Struct

/-!
# Layout of the output

Structs are written as blocks: a head, a line for each field, a closing brace. A file is a list of
blocks with a blank line between any two.
-/

namespace StructSchema.Layout

/-- A block: its head, its indented lines and its closing brace. -/
def block (head indent : String) (lines : List String) : String :=
  head ++ " \x7b\n" ++ String.join (lines.map fun line => indent ++ line ++ "\n") ++ "\x7d"

/-- A file: what stands at its top, and its blocks. -/
def file (top : String) (blocks : List String) : String :=
  top ++ "\n\n".intercalate blocks ++ "\n"

/-- A clause that names the package, behind its keyword and closed by `stop`; nothing without a
    package. -/
def packageClause (stop : String) : Option String → String
  | some package => "package " ++ package ++ stop ++ "\n\n"
  | none => ""

/-- What stands behind a field: its comment, if it says anything. -/
def trailer (f : Field) : String :=
  match f.remark? with
  | some remark => " // " ++ remark
  | none => ""

end StructSchema.Layout
