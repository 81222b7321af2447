import StructSchema.Render.Declaration
import StructSchema.Render.Message
import StructSchema.Schema.Description
import StructSchema.Schema.Parser

/-!
# Conversions

What a text of struct declarations is turned into. Every conversion refuses the same texts, for the
same reasons.
-/

namespace StructSchema

/-- The forms that structs can be written in. -/
inductive Target where
  /-- Declarations with generated tags. -/
  | declarations
  /-- Protobuf messages. -/
  | messages
  /-- A JSON description. -/
  | description
deriving DecidableEq, Repr

/-- Structs in a form. -/
def render (target : Target) (o : Options) (structs : List Struct) : String :=
  match target with
  | .declarations => declarationFile o structs
  | .messages => messageFile o structs
  | .description => describeStructs structs

/-- A text of declarations in another form. -/
def convert (target : Target) (o : Options) (text : String) : Except Error String :=
  (parse text).map (render target o)

end StructSchema
