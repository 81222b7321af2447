import StructSchema.Proofs.Render.Normalizing
import StructSchema.Proofs.Render.TagRuns

/-!
# Tagged fields

The declaration of a field has one tag, which is made from the field's own one. It says of each key
what that one said, whatever else it holds. Whether the own tag is kept as it is depends on what the
search finds in it, and the search takes the end of a key for a key.

## Key results

- `Field.declaration_eq`: a declaration with its tag
- `Field.declaration_keeps_entries`: the tag of the declaration says what the field's own one says
- `Field.declaration_tagText`: which tag is written for a field with a tag of given entries
-/

namespace StructSchema

open StructSchema.Unicode StructSchema.Text

/-! ## Tags of entries -/

namespace StructTag

/-- A tag has the keys that the search finds. -/
theorem isSome_value?_iff {tag key : String} :
    (value? tag key).isSome = true ↔ key.toList ∈ (entries tag.toList).map Prod.fst := by
  rw [value?, Option.isSome_map, List.lookup_isSome_iff]
  simp

/-- A tag of entries starts with the first key. -/
theorem head?_tagText (e : String × String) (written : List (String × String)) :
    (tagText (e :: written)).toList.head? = (e.1.toList ++ [':']).head? := by
  cases written with
  | nil => simp [tagText_singleton, entryText, List.head?_append]
  | cons next written => simp [tagText_cons_cons, entryText, List.head?_append]

/-- A tag of entries ends with the quote behind the last value. -/
theorem exists_tagText_eq {written : List (String × String)} (hne : written ≠ []) :
    ∃ inside, (tagText written).toList = inside ++ ['"'] := by
  induction written with
  | nil => exact absurd rfl hne
  | cons e written ih =>
    cases written with
    | nil =>
      refine ⟨e.1.toList ++ ':' :: '"' :: e.2.toList, ?_⟩
      simp [tagText_singleton, entryText]
    | cons next written =>
      obtain ⟨inside, hinside⟩ := ih (List.cons_ne_nil next written)
      refine ⟨(entryText e.1 e.2).toList ++ ' ' :: inside, ?_⟩
      simp [tagText_cons_cons, hinside]

end StructTag

namespace Field

variable {f : Field} {key : String}

/-- The field with its type, a tag and its comment. -/
def declarationWith (f : Field) (tag : String) : String :=
  f.name ++ " " ++ f.sourceType ++ " `" ++ tag ++ "`" ++ Layout.trailer f

/-- The declaration has the tag that is made for the key. -/
theorem declaration_eq (f : Field) (key : String) :
    f.declaration key = f.declarationWith (f.taggedText key) :=
  rfl

/-! ## What the tag says -/

/-- The tag of a declaration has the key: with the value that the field's own tag gives it, or else
    with the field's name in snake case. Of every other key it says what the own tag says of it. -/
theorem declaration_keeps_entries (hname : '"' ∉ f.name.toList) (hkey : IsTagKey key) :
    ∃ tag, f.declaration key = f.declarationWith tag ∧ ∀ k, StructTag.value? tag k =
      if k = key then
        some ((f.tag?.bind fun own => StructTag.value? own key).getD (snakeCase f.name))
      else f.tag?.bind fun own => StructTag.value? own k := by
  refine ⟨f.taggedText key, declaration_eq f key, fun k => ?_⟩
  rw [← value?_ownTag, ← value?_ownTag]
  exact value?_taggedText hname hkey k

/-- A tag with an open quote, in which the key stands in a value. -/
theorem declaration_keeps_entries_openQuote :
    '"' ∉ "HTTPServer".toList ∧ IsTagKey "json" ∧
    ∃ tag, { Field.ofSource "HTTPServer" "int" with tag? := some " db:\"n json:\"x" }.declaration
        "json" = { Field.ofSource "HTTPServer" "int" with
          tag? := some " db:\"n json:\"x" }.declarationWith tag ∧
      StructTag.value? tag "json" = some "http_server" ∧
      StructTag.value? tag "db" = some "n json:" := by
  have hname : '"' ∉ "HTTPServer".toList := by decide +kernel
  have hkey : IsTagKey "json" := by decide +kernel
  obtain ⟨tag, hdeclaration, hvalue⟩ := declaration_keeps_entries
    (f := { Field.ofSource "HTTPServer" "int" with tag? := some " db:\"n json:\"x" }) hname hkey
  refine ⟨hname, hkey, tag, hdeclaration, ?_, ?_⟩
  · rw [hvalue]
    decide +kernel
  · rw [hvalue]
    decide +kernel

/-! ## Which tag is written -/

/-- The own tag of a field is not empty if it is made of entries. -/
theorem ownTag_ne_empty {written : List (String × String)} (hne : written ≠ [])
    (htag : f.tag? = some (StructTag.tagText written)) : f.ownTag.isEmpty = false := by
  obtain ⟨inside, hinside⟩ := StructTag.exists_tagText_eq hne
  -- The last quote is left when white space is taken off.
  have hquote : '"' ∈ trim (StructTag.tagText written).toList :=
    mem_trim_of_mem (by simp [hinside]) (by decide)
  rw [Bool.eq_false_iff]
  intro hempty
  have hown : f.ownTag.toList = [] := by simpa using hempty
  rw [ownTag, htag, Option.getD_some, String.toList_ofList] at hown
  rw [hown] at hquote
  cases hquote

/-- The tag of a field is its own tag if it is made of entries and no white space stands in front of
    the first key. -/
theorem ownTag_tagText {e : String × String} {written : List (String × String)}
    (htag : f.tag? = some (StructTag.tagText (e :: written)))
    (hfirst : ∀ c, e.1.toList.head? = some c → isWhiteSpace c = false) :
    f.ownTag = StructTag.tagText (e :: written) := by
  obtain ⟨inside, hinside⟩ := StructTag.exists_tagText_eq (List.cons_ne_nil e written)
  have htrim : trim (StructTag.tagText (e :: written)).toList =
      (StructTag.tagText (e :: written)).toList := by
    rw [trim_eq_self_iff]
    refine ⟨fun c hc => ?_, fun c hc => ?_⟩
    · rw [StructTag.head?_tagText, List.head?_append, Option.or_eq_some_iff] at hc
      rcases hc with hc | ⟨-, hc⟩
      · exact hfirst c hc
      · rw [← Option.some.inj hc]
        decide
    · rw [hinside, List.getLast?_concat] at hc
      rw [← Option.some.inj hc]
      decide
  rw [ownTag, htag, Option.getD_some, htrim, String.ofList_toList]

/-- For a field with a tag of entries, that tag is written if the search finds the key at the end of
    a run, and otherwise the generated entry, a blank and that tag. White space in front of the
    first key is left out. If all keys are keys to the search, it finds these keys and no others. -/
theorem declaration_tagText {written : List (String × String)} (hne : written ≠ [])
    (hquotes : ∀ e ∈ written, '"' ∉ e.1.toList ∧ '"' ∉ e.2.toList)
    (htag : f.tag? = some (StructTag.tagText written)) (key : String) :
    f.declaration key = f.declarationWith
      (if key.toList ∈ (StructTag.entriesOfRuns (StructTag.runs written)).map Prod.fst then f.ownTag
        else f.generatedEntry key ++ " " ++ f.ownTag) ∧
    ((∀ e, written.head? = some e → ∀ c, e.1.toList.head? = some c → isWhiteSpace c = false) →
      f.ownTag = StructTag.tagText written) ∧
    ((∀ e ∈ written, IsTagKey e.1) →
      (key.toList ∈ (StructTag.entriesOfRuns (StructTag.runs written)).map Prod.fst ↔
        key ∈ written.map Prod.fst)) := by
  refine ⟨?_, fun hfirst => ?_, fun hkeys => ?_⟩
  · -- Trimming takes no entry away, so that the search finds the same keys in the whole tag.
    have hfound : (StructTag.value? f.ownTag key).isSome = true ↔
        key.toList ∈ (StructTag.entriesOfRuns (StructTag.runs written)).map Prod.fst := by
      rw [value?_ownTag, htag, Option.bind_some, StructTag.isSome_value?_iff,
        StructTag.entries_tagText hne hquotes]
    rw [declaration_eq, taggedText]
    simp only [hfound, ownTag_ne_empty hne htag, Bool.false_eq_true, if_false]
  · cases written with
    | nil => exact absurd rfl hne
    | cons e written => exact ownTag_tagText htag (hfirst e rfl)
  · rw [StructTag.entriesOfRuns_runs hkeys]
    simp [String.toList_inj]

/-- A key that ends in another one, and a value that is taken for a key, so that the quote that
    opens the next value closes the one that is read. -/
theorem declaration_tagText_colons :
    (∀ e ∈ [("my-json", "x"), ("é", "yaml:"), ("z", "")], '"' ∉ e.1.toList ∧ '"' ∉ e.2.toList) ∧
    { Field.ofSource "B" "int" with tag? := some "my-json:\"x\" é:\"yaml:\" z:\"\"" }.declaration
      "yaml" = "B int `my-json:\"x\" é:\"yaml:\" z:\"\"`" ∧
    { Field.ofSource "B" "int" with tag? := some "my-json:\"x\" é:\"yaml:\" z:\"\"" }.declaration
      "z" = "B int `z:\"b\" my-json:\"x\" é:\"yaml:\" z:\"\"`" := by
  have hquotes : ∀ e ∈ [("my-json", "x"), ("é", "yaml:"), ("z", "")],
      '"' ∉ e.1.toList ∧ '"' ∉ e.2.toList := by
    decide +kernel
  have hdeclaration (key : String) := (declaration_tagText (List.cons_ne_nil _ _) hquotes
    (f := { Field.ofSource "B" "int" with tag? := some "my-json:\"x\" é:\"yaml:\" z:\"\"" })
    (by decide +kernel) key).1
  refine ⟨hquotes, ?_, ?_⟩
  · rw [hdeclaration]
    decide +kernel
  · rw [hdeclaration]
    decide +kernel

/-- The end of a key is taken for a key. A field without an entry for it is left without one, and a
    field with an entry for the whole key gets a second one. -/
theorem declaration_of_key_ending :
    StructTag.tagText [("my-json", "x")] = "my-json:\"x\"" ∧
    ("json" ∉ [("my-json", "x")].map Prod.fst ∧
      { Field.ofSource "B" "string" with tag? := some "my-json:\"x\"" }.declaration "json" ≠
        { Field.ofSource "B" "string" with tag? := some "my-json:\"x\"" }.declarationWith
          "json:\"b\" my-json:\"x\"" ∧
      { Field.ofSource "B" "string" with tag? := some "my-json:\"x\"" }.declaration "json" =
        { Field.ofSource "B" "string" with tag? := some "my-json:\"x\"" }.declarationWith
          "my-json:\"x\"") ∧
    "my-json" ∈ [("my-json", "x")].map Prod.fst ∧
      { Field.ofSource "B" "string" with tag? := some "my-json:\"x\"" }.declaration "my-json" ≠
        { Field.ofSource "B" "string" with tag? := some "my-json:\"x\"" }.declarationWith
          "my-json:\"x\"" := by
  decide +kernel

end Field

end StructSchema
