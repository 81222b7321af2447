/-!
# Options of the output
-/

namespace StructSchema

/-- What the output is asked to hold beside the structs. -/
structure Options where
  /-- The key of the tag entries that are generated. -/
  tagKey : String := "json"
  /-- The name in the package clause; without one there is no clause. -/
  package? : Option String := none
deriving DecidableEq, Repr

end StructSchema
