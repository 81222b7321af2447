import StructSchema.Render.Layout
import StructSchema.Render.Options
import StructSchema.StructTag
import StructSchema.Text.SnakeCase

/-!
# Messages

Structs written as protobuf messages. Fields are numbered from one in the order of the declaration,
primitive types get the names they have in messages, and slices are repeated fields.
-/

namespace StructSchema

open StructSchema.Text

/-- What follows `lead` in a text that starts with it. -/
def afterLead? (lead cs : List Char) : Option (List Char) :=
  if lead.isPrefixOf cs then some (cs.drop lead.length) else none

/-- The field name that the value of a `protobuf` tag entry gives. In a list of parts it is that of
    the first part `name=…`; a value of one part, if not empty, is the name itself. -/
def protobufName? (value : List Char) : Option (List Char) :=
  match (value.splitOn ',').findSome? (afterLead? "name=".toList) with
  | some name => some name
  | none => if value.isEmpty || value.contains ',' then none else some value

namespace Field

/-- The name in a message: that of the field's `protobuf` entry, else its own in snake case. -/
def messageName (f : Field) : String :=
  let entry? := f.tag?.bind fun tag => StructTag.value? tag "protobuf"
  match entry?.bind fun value => protobufName? value.toList with
  | some name => String.ofList name
  | none => snakeCase f.name

/-- The type in a message. Pointers are left out. -/
def messageType (f : Field) : String :=
  if f.isPrimitive then (canonicalType? f.baseType).getD f.baseType else f.baseType

/-- The field with its number and its comment. -/
def messageLine (f : Field) (number : Nat) : String :=
  (if f.isSlice then "repeated " else "") ++ f.messageType ++ " " ++ f.messageName ++ " = " ++
    toString number ++ ";" ++ Layout.trailer f

end Field

/-- The message of a struct. -/
def Struct.message (s : Struct) : String :=
  Layout.block ("message " ++ s.name) "    "
    ((s.fields.zipIdx 1).map fun numbered => numbered.1.messageLine numbered.2)

/-- A file with the messages of structs. -/
def messageFile (o : Options) (structs : List Struct) : String :=
  Layout.file ("syntax = \"proto3\";\n\n" ++ Layout.packageClause ";" o.package?)
    (structs.map Struct.message)

end StructSchema
