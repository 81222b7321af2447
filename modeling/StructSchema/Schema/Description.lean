import StructSchema.Json
import StructSchema.Schema.Struct

/-!
# Descriptions of structs

Structs as JSON values, with every member of every field.
-/

namespace StructSchema

/-- A text that may be absent. -/
def Json.ofText? (text? : Option String) : Json :=
  match text? with
  | some text => .string text
  | none => .null

/-- The description of a field. -/
def Field.toJson (f : Field) : Json :=
  .object
    [("orig_name", .string f.writtenName), ("name", .string f.name), ("type_", .string f.baseType),
      ("is_pointer", .bool f.isPointer), ("is_slice", .bool f.isSlice),
      ("is_primitive", .bool f.isPrimitive), ("is_map", .bool f.isMap),
      ("backtick_comment", .ofText? f.tag?), ("slashed_comment", .ofText? f.comment?)]

/-- The description of a struct. -/
def Struct.toJson (s : Struct) : Json :=
  .object [("name", .string s.name), ("fields", .array (s.fields.map Field.toJson))]

/-- The text that describes structs. -/
def describeStructs (structs : List Struct) : String :=
  (Json.array (structs.map Struct.toJson)).pretty 0

end StructSchema
