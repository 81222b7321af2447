import StructSchema.Error
import StructSchema.Schema.Primitive
import StructSchema.Schema.TypeModifiers

/-!
# Structs and their fields

What a struct declaration says, apart from its layout. A field keeps its type in parts: the
modifiers and the name they stand in front of.

## Key results

- `Field.sourceType_ofSource`: a field's type reads as it was written
-/

namespace StructSchema

/-- A field of a struct. -/
structure Field where
  /-- The name as the declaration has it. -/
  writtenName : String
  /-- The name to write out. -/
  name : String
  /-- The type name without its modifiers. -/
  baseType : String
  isPointer : Bool
  isSlice : Bool
  /-- Whether the base type is to be taken for a primitive one. -/
  isPrimitive : Bool
  /-- Whether the type is a map; declarations of maps are not read. -/
  isMap : Bool
  /-- The text of the struct tag, if the field has one. -/
  tag? : Option String
  /-- The text of the comment on the field's line, if there is one. -/
  comment? : Option String
deriving DecidableEq, Repr

namespace Field

/-- The field of a name and a written type, with neither tag nor comment. -/
def ofSource (name sourceType : String) : Field :=
  let (modifiers, base) := TypeModifiers.read sourceType.toList
  let baseType := String.ofList base
  { writtenName := name, name, baseType
    isPointer := modifiers.isPointer, isSlice := modifiers.isSlice
    isPrimitive := isPrimitiveType baseType, isMap := false
    tag? := none, comment? := none }

/-- The modifiers in front of the type. -/
def modifiers (f : Field) : TypeModifiers := ⟨f.isSlice, f.isPointer⟩

/-- The type as a declaration has it, modifiers included. -/
def sourceType (f : Field) : String := String.ofList f.modifiers.spelling ++ f.baseType

/-- A field's type reads as it was written. -/
theorem sourceType_ofSource (name sourceType : String) :
    (ofSource name sourceType).sourceType = sourceType := by
  apply String.toList_inj.1
  simp only [Field.sourceType, ofSource, modifiers, String.toList_append, String.toList_ofList]
  exact TypeModifiers.spelling_append_rest sourceType.toList

/-- The comment, if it says anything. -/
def remark? (f : Field) : Option String := f.comment?.filter (!·.isEmpty)

end Field

/-- A struct: its name and its fields in the order of the declaration. -/
structure Struct where
  name : String
  fields : List Field
deriving DecidableEq, Repr

/-- The first field of a name. -/
def Struct.field (s : Struct) (name : String) : Except Error Field :=
  match s.fields.find? (·.name == name) with
  | some f => .ok f
  | none => .error (.fieldNotFound name)

end StructSchema
