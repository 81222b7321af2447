import Mathlib.Control.Monad.Basic
import StructSchema.Conversion
import StructSchema.Proofs.Schema.Source
import StructSchema.Proofs.Text.SnakeCasing

/-!
# Declarations read back

The declarations that are written for structs are source text again: that of the same structs, in
which each field has the tag that was written for it, and no comment that says nothing.

## Key results

- `Struct.retagged`: the structs that the declarations declare
- `Struct.wellFormed_retagged`: what is written for a well-formed struct is well formed
- `declarationFile_eq_sourceFile`, `parse_declarationFile`: the declarations as source text
- `parse_convert_declarations`: the round trip of a text through its declarations
-/

namespace StructSchema

open StructSchema.Text

/-- The field as its declaration has it: with the tag that is written for the key, and without a
    comment that says nothing. -/
def Field.retagged (f : Field) (key : String) : Field :=
  { f with
    tag? := some (f.taggedText key)
    comment? := if f.comment? = some "" then none else f.comment? }

/-- The struct as its declaration has it. -/
def Struct.retagged (s : Struct) (key : String) : Struct :=
  { s with fields := s.fields.map fun f => f.retagged key }

theorem Field.remark?_eq (f : Field) :
    f.remark? = if f.comment? = some "" then none else f.comment? := by
  unfold Field.remark?
  cases f.comment? with
  | none => simp
  | some comment =>
    by_cases hempty : comment = ""
    · simp [hempty]
    · simp [Option.filter, hempty]

/-! ## What is written is well formed -/

theorem Field.backtick_notMem_ownTag {f : Field} (hf : f.WellFormed) :
    backtick ∉ f.ownTag.toList := by
  intro hmem
  rw [Field.ownTag, String.toList_ofList] at hmem
  have hmem := mem_of_mem_trim hmem
  cases htag : f.tag? with
  | none => simp [htag] at hmem
  | some tag =>
    rw [htag] at hmem
    exact hf.tag tag htag hmem

theorem Field.backtick_notMem_generatedEntry {f : Field} (hf : f.WellFormed) {key : String}
    (hkey : backtick ∉ key.toList) : backtick ∉ (f.generatedEntry key).toList := by
  have hvalue : backtick ∉ (snakeCase f.name).toList :=
    notMem_snakeCase (hf.name_isWord.notMem (by decide +kernel)) (by decide) (by decide)
  have hquote : backtick ≠ '"' := by decide
  have hcolon : backtick ≠ ':' := by decide
  simp [Field.generatedEntry, StructTag.entryText, hkey, hvalue, hquote, hcolon]

/-- No tag that is written would end early. -/
theorem Field.backtick_notMem_taggedText {f : Field} (hf : f.WellFormed) {key : String}
    (hkey : backtick ∉ key.toList) : backtick ∉ (f.taggedText key).toList := by
  have hown := Field.backtick_notMem_ownTag hf
  have hgenerated := Field.backtick_notMem_generatedEntry hf hkey
  have hblank : backtick ≠ ' ' := by decide
  unfold Field.taggedText
  -- The field's own tag, the generated entry alone, or both with a blank between.
  split
  · exact hown
  · split
    · exact hgenerated
    · simp [hown, hgenerated, hblank]

theorem Field.wellFormed_retagged {f : Field} (hf : f.WellFormed) {key : String}
    (hkey : backtick ∉ key.toList) : (f.retagged key).WellFormed := by
  have htagged := Field.backtick_notMem_taggedText hf hkey
  -- Only the tag and the comment are not those of the field.
  refine { hf with tag := ?_, comment := ?_ }
  · intro tag htag
    obtain rfl := Option.some.inj htag
    exact htagged
  · intro comment hcomment
    rw [Field.retagged] at hcomment
    by_cases hempty : f.comment? = some ""
    · simp [hempty] at hcomment
    · simp only [hempty, if_false] at hcomment
      exact hf.comment comment hcomment

/-- What is written for a well-formed struct is well formed. -/
theorem Struct.wellFormed_retagged {s : Struct} (hs : s.WellFormed) {key : String}
    (hkey : backtick ∉ key.toList) : (s.retagged key).WellFormed := by
  refine ⟨hs.name_isWord, hs.name_not_keyword, ?_⟩
  intro f hf
  obtain ⟨g, hg, rfl⟩ := List.mem_map.1 hf
  exact Field.wellFormed_retagged (hs.fields g hg) hkey

/-! ## Declarations as source text -/

theorem Field.declaration_eq_source (f : Field) (key : String) :
    f.declaration key = (f.retagged key).source := by
  have hcomment := f.remark?_eq
  -- Both sides end in the comment, if it says anything.
  unfold Field.declaration Field.source Layout.trailer
  rw [hcomment]
  show _ = f.name ++ " " ++ f.sourceType ++ (" `" ++ f.taggedText key ++ "`") ++ _
  unfold Field.retagged
  cases (if f.comment? = some "" then none else f.comment?) <;> simp [String.append_assoc]

theorem Struct.declaration_eq_source (s : Struct) (key : String) :
    s.declaration key = (s.retagged key).source := by
  unfold Struct.declaration Struct.source Struct.retagged
  rw [List.map_map]
  congr 2
  funext f
  exact f.declaration_eq_source key

/-- Without a package, the declarations are the source text of the structs that they declare. -/
theorem declarationFile_eq_sourceFile {o : Options} (hpackage : o.package? = none)
    (structs : List Struct) :
    declarationFile o structs = sourceFile (structs.map fun s => s.retagged o.tagKey) := by
  unfold declarationFile sourceFile
  rw [hpackage, List.map_map]
  show Layout.file "" _ = _
  congr 2
  funext s
  exact s.declaration_eq_source o.tagKey

/-- The declarations of well-formed structs are read back. -/
theorem parse_declarationFile {o : Options} (hpackage : o.package? = none)
    (hkey : backtick ∉ o.tagKey.toList) {structs : List Struct} (h : ∀ s ∈ structs, s.WellFormed) :
    parse (declarationFile o structs) = .ok (structs.map fun s => s.retagged o.tagKey) := by
  rw [declarationFile_eq_sourceFile hpackage]
  refine parse_sourceFile ?_
  intro s hs
  obtain ⟨t, ht, rfl⟩ := List.mem_map.1 hs
  exact Struct.wellFormed_retagged (h t ht) hkey

/-- The declarations of a text are read as its structs, each field with the tag that was written for
    it and without a comment that says nothing. -/
theorem parse_convert_declarations {text : String} {structs : List Struct} {o : Options}
    (h : parse text = .ok structs) (hpackage : o.package? = none)
    (hkey : backtick ∉ o.tagKey.toList) :
    ∃ out, convert .declarations o text = .ok out ∧
      parse out = .ok (structs.map fun s => s.retagged o.tagKey) := by
  refine ⟨declarationFile o structs, ?_, ?_⟩
  · rw [convert, h]
    rfl
  · have hstructs := Struct.wellFormed_of_parse_eq_ok h
    exact parse_declarationFile hpackage hkey hstructs

/-- A tag is kept behind the entry that is new, and the comment that says nothing is gone. -/
theorem parse_convert_declarations_user :
    parse "type User struct \x7b\n Name string `db:\"n\"` //\n Age *int // years\n\x7d" =
      .ok [⟨"User",
        [{ Field.ofSource "Name" "string" with tag? := some "db:\"n\"", comment? := some "" },
         { Field.ofSource "Age" "*int" with comment? := some "years" }]⟩] ∧
    ∃ out,
      convert .declarations {}
        "type User struct \x7b\n Name string `db:\"n\"` //\n Age *int // years\n\x7d" = .ok out ∧
      parse out = .ok [⟨"User",
        [{ Field.ofSource "Name" "string" with tag? := some "json:\"name\" db:\"n\"" },
         { Field.ofSource "Age" "*int" with
            tag? := some "json:\"age\"", comment? := some "years" }]⟩] := by
  have hparse :
      parse "type User struct \x7b\n Name string `db:\"n\"` //\n Age *int // years\n\x7d" =
        .ok [⟨"User",
          [{ Field.ofSource "Name" "string" with tag? := some "db:\"n\"", comment? := some "" },
           { Field.ofSource "Age" "*int" with comment? := some "years" }]⟩] := by
    decide +kernel
  obtain ⟨out, hout, hstructs⟩ := parse_convert_declarations (o := {}) hparse rfl (by decide)
  refine ⟨hparse, out, hout, ?_⟩
  rw [hstructs]
  decide +kernel

end StructSchema
