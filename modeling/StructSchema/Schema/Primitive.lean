/-!
# Primitive types

The type names that need no declaration, and what each is called in a message. Widths below 32 bits
widen to 32 bits, signed and unsigned stay apart.

## Key results

- `isPrimitiveType_iff`: the primitive types are the names of the table
-/

namespace StructSchema

/-- The primitive types with their names in messages. -/
def primitiveTypes : List (String × String) :=
  [("bool", "bool"), ("float32", "float"), ("float64", "float"),
    ("int", "int32"), ("int8", "int32"), ("int16", "int32"), ("int32", "int32"), ("int64", "int64"),
    ("rune", "rune"), ("string", "string"),
    ("uint", "uint32"), ("uint8", "uint32"), ("uint16", "uint32"), ("uint32", "uint32"),
    ("uint64", "uint64")]

/-- What a primitive type is called in a message. -/
def canonicalType? (name : String) : Option String := primitiveTypes.lookup name

/-- Whether the name is that of a primitive type. -/
def isPrimitiveType (name : String) : Bool := (canonicalType? name).isSome

/-- The primitive types are the names of the table. -/
theorem isPrimitiveType_iff {name : String} :
    isPrimitiveType name = true ↔ name ∈ primitiveTypes.map Prod.fst := by
  rw [isPrimitiveType, canonicalType?, List.lookup_isSome_iff]
  simp

end StructSchema
