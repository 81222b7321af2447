import StructSchema.Text.Quoted

/-!
# JSON values

JSON values without numbers, which no description of structs holds, and their layout over several
lines: two blanks of indentation for each level, one item or member a line.

## Key results

- `Json.induction`: what holds of a value that holds of its items or members
-/

namespace StructSchema

/-- A JSON value. Members of an object keep their order. -/
inductive Json where
  | null
  | bool (value : Bool)
  | string (value : String)
  | array (items : List Json)
  | object (members : List (String × Json))
deriving Repr

namespace Json

/-- Every value has what an array has if its items have it, and an object if its members' values
    have it. -/
@[elab_as_elim]
theorem induction {motive : Json → Prop} (null : motive .null)
    (bool : ∀ value, motive (.bool value)) (string : ∀ value, motive (.string value))
    (array : ∀ items, (∀ item ∈ items, motive item) → motive (.array items))
    (object : ∀ members : List (String × Json), (∀ member ∈ members, motive member.2) →
      motive (.object members)) : ∀ value, motive value
  | .null => null
  | .bool value => bool value
  | .string value => string value
  | .array items =>
    array items fun item _ => induction null bool string array object item
  | .object members =>
    object members fun ⟨_, value⟩ _ => induction null bool string array object value
termination_by value => value
decreasing_by
  · next hitem =>
    have := List.sizeOf_lt_of_mem hitem
    simp only [Json.array.sizeOf_spec]
    omega
  · next hmember =>
    have := List.sizeOf_lt_of_mem hmember
    simp only [Json.object.sizeOf_spec, Prod.mk.sizeOf_spec] at this ⊢
    omega

/-- A line break and the indentation of a level. -/
def lineBreak (level : Nat) : String := String.ofList ('\n' :: List.replicate (2 * level) ' ')

/-- The parts of an array or object on lines of their own, one level below `level`, between its
    brackets. Without parts the brackets stand together. -/
def enclose (level : Nat) (opening closing : String) (parts : List String) : String :=
  if parts.isEmpty then opening ++ closing
  else
    opening ++ lineBreak (level + 1) ++ ("," ++ lineBreak (level + 1)).intercalate parts ++
      lineBreak level ++ closing

mutual

/-- A value laid out over several lines, at a level of indentation. -/
def pretty (level : Nat) : Json → String
  | .null => "null"
  | .bool true => "true"
  | .bool false => "false"
  | .string value => Text.quoted value
  | .array items => enclose level "[" "]" (prettyItems (level + 1) items)
  | .object members => enclose level "\x7b" "\x7d" (prettyMembers (level + 1) members)

/-- The items of an array. -/
def prettyItems (level : Nat) : List Json → List String
  | [] => []
  | item :: rest => pretty level item :: prettyItems level rest

/-- The members of an object. -/
def prettyMembers (level : Nat) : List (String × Json) → List String
  | [] => []
  | (key, value) :: rest =>
    (Text.quoted key ++ ": " ++ pretty level value) :: prettyMembers level rest

end

end Json

end StructSchema
