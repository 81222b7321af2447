import Mathlib.Control.Monad.Basic
import StructSchema.CommandLine.Run
import StructSchema.Proofs.Json.Printing

/-!
# Descriptions read back

The description of structs tells all of them: its text is that of one JSON value, and from the
members of this value, looked up by their names, the structs are built again.

## Key results

- `Struct.listOfJson?`: the structs that a JSON value describes
- `Struct.listOfJson?_toJson`: they are those that the value was made for
- `CommandLine.description_determines_structs`: no two lists of structs have the same description
-/

namespace StructSchema

/-! ## Looking values up -/

namespace Json

/-- The value of the first member of the name, in an object that has one. -/
def member? (name : String) : Json → Option Json
  | .object members => members.lookup name
  | _ => none

/-- The items of an array. -/
def items? : Json → Option (List Json)
  | .array items => some items
  | _ => none

/-- The truth value that is the whole value. -/
def flag? : Json → Option Bool
  | .bool value => some value
  | _ => none

/-- The text that is the whole value. -/
def text? : Json → Option String
  | .string text => some text
  | _ => none

/-- A text that may be absent: `null` says that it is, and the empty text is a text. -/
def optionalText? : Json → Option (Option String)
  | .null => some none
  | .string text => some (some text)
  | _ => none

theorem optionalText?_ofText? (text? : Option String) :
    (ofText? text?).optionalText? = some text? := by
  cases text? <;> rfl

end Json

/-- The field that a value describes. -/
def Field.ofJson? (value : Json) : Option Field := do
  let writtenName ← (← value.member? "orig_name").text?
  let name ← (← value.member? "name").text?
  let baseType ← (← value.member? "type_").text?
  let isPointer ← (← value.member? "is_pointer").flag?
  let isSlice ← (← value.member? "is_slice").flag?
  let isPrimitive ← (← value.member? "is_primitive").flag?
  let isMap ← (← value.member? "is_map").flag?
  let tag? ← (← value.member? "backtick_comment").optionalText?
  let comment? ← (← value.member? "slashed_comment").optionalText?
  return { writtenName, name, baseType, isPointer, isSlice, isPrimitive, isMap, tag?, comment? }

/-- The struct that a value describes. -/
def Struct.ofJson? (value : Json) : Option Struct := do
  let name ← (← value.member? "name").text?
  let fields ← (← value.member? "fields").items?
  return { name, fields := ← fields.mapM Field.ofJson? }

/-- The structs that a value describes. -/
def Struct.listOfJson? (value : Json) : Option (List Struct) := do
  (← value.items?).mapM Struct.ofJson?

/-! ## Reading descriptions -/

theorem Field.ofJson?_toJson (f : Field) : Field.ofJson? f.toJson = some f := by
  obtain ⟨writtenName, name, baseType, isPointer, isSlice, isPrimitive, isMap, tag?, comment?⟩ := f
  simp [Field.ofJson?, Field.toJson, Json.member?, Json.text?, Json.flag?, List.lookup_cons,
    Json.optionalText?_ofText?]

/-- What is read back one by one is read back as a list. -/
theorem mapM_map_eq_some {α : Type} {describe : α → Json} {read? : Json → Option α}
    (h : ∀ item, read? (describe item) = some item) (items : List α) :
    (items.map describe).mapM read? = some items := by
  induction items with
  | nil => rfl
  | cons item items ih => simp [List.mapM_cons, h, ih]

theorem Struct.ofJson?_toJson (s : Struct) : Struct.ofJson? s.toJson = some s := by
  have hfields := mapM_map_eq_some Field.ofJson?_toJson s.fields
  simp [Struct.ofJson?, Struct.toJson, Json.member?, Json.text?, Json.items?, List.lookup_cons,
    hfields]

/-- The structs are those that the value was made for. -/
theorem Struct.listOfJson?_toJson (structs : List Struct) :
    Struct.listOfJson? (.array (structs.map Struct.toJson)) = some structs :=
  mapM_map_eq_some Struct.ofJson?_toJson structs

namespace CommandLine

/-- The result of a request for a description is the layout of the value that describes the structs,
    with a line end. -/
theorem result_eq_ok_of_description {text : String} {structs : List Struct} {r : Request}
    (h : parse text = .ok structs) (hr : r.target = .description) :
    r.result text = .ok (Json.pretty 0 (.array (structs.map Struct.toJson)) ++ "\n") := by
  rw [Request.result, convert, h, hr]
  rfl

/-- A description is the text of one JSON value, from which the structs of the text are built again.
    Texts have the same description only if they declare the same structs. -/
theorem description_determines_structs {text : String} {structs : List Struct} {r : Request}
    (h : parse text = .ok structs) (hr : r.target = .description) :
    ∃ out, r.result text = .ok out ∧
      (∃ value, (∀ value', Json.IsTextOf out value' ↔ value' = value) ∧
        Struct.listOfJson? value = some structs) ∧
      ∀ (r' : Request) (text' : String) (structs' : List Struct), r'.target = .description →
        parse text' = .ok structs' → (r'.result text' = .ok out ↔ structs' = structs) := by
  have hlineEnd : ∀ c ∈ "\n".toList, Json.isGap c = true := by simp [Json.isGap]
  refine ⟨_, result_eq_ok_of_description h hr,
    ⟨_, fun value' => Json.isTextOf_pretty_append_iff hlineEnd, Struct.listOfJson?_toJson structs⟩,
    fun r' text' structs' hr' h' => ?_⟩
  rw [result_eq_ok_of_description h' hr']
  constructor
  · intro hsame
    -- The one text is that of both values, so that both describe the same structs.
    have htext : Json.IsTextOf (Json.pretty 0 (.array (structs'.map Struct.toJson)) ++ "\n")
        (.array (structs'.map Struct.toJson)) :=
      (Json.isTextOf_pretty_append_iff hlineEnd).2 rfl
    rw [Except.ok.inj hsame, Json.isTextOf_pretty_append_iff hlineEnd] at htext
    have hstructs := Struct.listOfJson?_toJson structs'
    rw [htext, Struct.listOfJson?_toJson] at hstructs
    exact (Option.some.inj hstructs).symm
  · rintro rfl
    rfl

/-- A tag of two lines that looks like a member, and an empty comment beside one that is absent. -/
theorem description_determines_structs_quotes :
    parse "type A struct \x7b\n B []*int `\"tag\": null,\n` //\n C é\n\x7d" =
      .ok [⟨"A",
        [{ Field.ofSource "B" "[]*int" with tag? := some "\"tag\": null,\n", comment? := some "" },
         Field.ofSource "C" "é"]⟩] ∧
    ∃ out, (⟨.description, none, none, {}⟩ : Request).result
        "type A struct \x7b\n B []*int `\"tag\": null,\n` //\n C é\n\x7d" = .ok out ∧
      ∃ value, (∀ value', Json.IsTextOf out value' ↔ value' = value) ∧
        Struct.listOfJson? value = some [⟨"A",
          [{ Field.ofSource "B" "[]*int" with
              tag? := some "\"tag\": null,\n", comment? := some "" },
            Field.ofSource "C" "é"]⟩] := by
  have h : parse "type A struct \x7b\n B []*int `\"tag\": null,\n` //\n C é\n\x7d" =
      .ok [⟨"A",
        [{ Field.ofSource "B" "[]*int" with tag? := some "\"tag\": null,\n", comment? := some "" },
         Field.ofSource "C" "é"]⟩] := by
    decide +kernel
  obtain ⟨out, hout, hvalue, -⟩ :=
    description_determines_structs (r := ⟨.description, none, none, {}⟩) h rfl
  exact ⟨h, out, hout, hvalue⟩

end CommandLine

end StructSchema
