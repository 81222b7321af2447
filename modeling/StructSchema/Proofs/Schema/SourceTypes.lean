import StructSchema.Schema.Struct

/-!
# Types as they are written

A field keeps its type in parts, and writes it from them. Reading what is written gives the parts
back unless the base type starts with a mark that the field does not have itself: there the mark is
taken for the field's.

## Key results

- `Field.parts_ofSource`: the parts of a field are those that are read off its written type
- `Field.parts_ofSource_sourceType_iff`: which parts are read back as they are
- `Field.sourceType_reads_back`: types from text to parts and back, and from parts to text and back
-/

namespace StructSchema.Field

/-- The parts of a field are those that are read off its written type. -/
theorem parts_ofSource (name sourceType : String) :
    ((ofSource name sourceType).modifiers, (ofSource name sourceType).baseType.toList) =
      TypeModifiers.read sourceType.toList := by
  simp only [ofSource, modifiers, String.toList_ofList]

theorem toList_sourceType (f : Field) :
    f.sourceType.toList = f.modifiers.spelling ++ f.baseType.toList := by
  rw [sourceType, String.toList_append, String.toList_ofList]

/-- The parts that are read off the written type of a field are its own exactly if its base type
    starts with no mark that could stand there. -/
theorem parts_ofSource_sourceType_iff (name : String) (f : Field) :
    (ofSource name f.sourceType).modifiers = f.modifiers ∧
        (ofSource name f.sourceType).baseType = f.baseType ↔
      ¬ (f.isPointer = false ∧ ['*'] <+: f.baseType.toList) ∧
      ¬ (f.isSlice = false ∧ f.isPointer = false ∧ ['[', ']'] <+: f.baseType.toList) := by
  have hmarks := TypeModifiers.read_spelling_append_iff f.modifiers f.baseType.toList
  rw [← toList_sourceType, ← parts_ofSource name, Prod.mk.injEq, String.toList_inj] at hmarks
  exact hmarks

/-- The type of a field reads as it was written, whatever the text. Of any field, the type that is
    written reads back as the same marks and the same base type, but for two cases: the base type
    starts with `*` and the field is no pointer, or it starts with `[]` and the field is neither a
    slice nor a pointer. -/
theorem sourceType_reads_back (name sourceType : String) (f : Field) :
    (ofSource name sourceType).sourceType = sourceType ∧
    ((ofSource f.name f.sourceType).isSlice = f.isSlice ∧
        (ofSource f.name f.sourceType).isPointer = f.isPointer ∧
        (ofSource f.name f.sourceType).baseType = f.baseType ↔
      ¬ (f.isPointer = false ∧ ['*'] <+: f.baseType.toList) ∧
      ¬ (f.isSlice = false ∧ f.isPointer = false ∧ ['[', ']'] <+: f.baseType.toList)) := by
  refine ⟨sourceType_ofSource name sourceType, ?_⟩
  have hparts := parts_ofSource_sourceType_iff f.name f
  rw [modifiers, modifiers, TypeModifiers.mk.injEq, and_assoc] at hparts
  exact hparts

/-- A slice mark belongs to the base type behind any other mark. -/
example : ["*[]T", "[][]T"].map (fun t => ((ofSource "F" t).modifiers, (ofSource "F" t).baseType)) =
    [(⟨false, true⟩, "[]T"), (⟨true, false⟩, "[]T")] := by
  decide +kernel

end StructSchema.Field
