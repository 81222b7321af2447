import StructSchema.Render.Layout
import StructSchema.Render.Options
import StructSchema.StructTag
import StructSchema.Text.SnakeCase
import StructSchema.Text.Trim

/-!
# Tagged declarations

Structs written as declarations again, in which every field has a tag entry for the key at hand.
-/

namespace StructSchema

open StructSchema.Text

namespace Field

/-- The tag entry that is generated for a field: the key with the field's name in snake case. -/
def generatedEntry (f : Field) (key : String) : String :=
  StructTag.entryText key (snakeCase f.name)

/-- The field's tag without the white space around it; empty for a field that has none. -/
def ownTag (f : Field) : String :=
  String.ofList (trim (f.tag?.getD "").toList)

/-- The tag to write out. A tag that has the key stays as it is; otherwise the generated entry goes
    in front of it. -/
def taggedText (f : Field) (key : String) : String :=
  if (StructTag.value? f.ownTag key).isSome then f.ownTag
  else if f.ownTag.isEmpty then f.generatedEntry key
  else f.generatedEntry key ++ " " ++ f.ownTag

/-- The field with its type, its tag and its comment. -/
def declaration (f : Field) (key : String) : String :=
  f.name ++ " " ++ f.sourceType ++ " `" ++ f.taggedText key ++ "`" ++ Layout.trailer f

end Field

/-- The declaration of a struct. -/
def Struct.declaration (s : Struct) (key : String) : String :=
  Layout.block ("type " ++ s.name ++ " struct") "  " (s.fields.map (·.declaration key))

/-- A file with the declarations of structs. -/
def declarationFile (o : Options) (structs : List Struct) : String :=
  Layout.file (Layout.packageClause "" o.package?) (structs.map (·.declaration o.tagKey))

end StructSchema
