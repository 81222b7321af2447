import StructSchema.Proofs.Render.MessageNames
import StructSchema.Proofs.Render.Retagging
import StructSchema.Proofs.Render.TagEntries

/-!
# Normalised declarations

A text is normalised by writing the declarations of its structs. In what is written every field has
the key in its tag, so that writing it once more changes nothing. The entry that is added in front
of a tag hides none of the other entries, and what it says of the field is what messages say of a
field without it: the messages of a text are those of its normalised form.

## Key results

- `Field.value?_taggedText`: what the tag that is written says of each key
- `Field.retagged_retagged`: tagging a field a second time changes nothing
- `Field.messageName_retagged`, `Struct.message_retagged`: tagging a field leaves its message
- `convert_declarations_idempotent`: normalising a text twice is normalising it once
- `convert_messages_convert_declarations`: the messages of a normalised text
-/

namespace StructSchema

open StructSchema.Unicode StructSchema.Text

theorem IsTagKey.backtick_notMem {key : String} (h : IsTagKey key) : backtick ∉ key.toList := by
  intro hmem
  have hchar := h.2 backtick hmem
  revert hchar
  decide

namespace Field

/-! ## The tag that is written -/

/-- White space around a field's tag does not change what the tag says of a key. -/
theorem value?_ownTag (f : Field) (key : String) :
    StructTag.value? f.ownTag key = f.tag?.bind fun tag => StructTag.value? tag key := by
  unfold ownTag
  cases f.tag? with
  | none => simp [trim, trimLeft, trimRight, StructTag.value?, StructTag.entries]
  | some tag => exact StructTag.value?_trim tag key

section

variable {f : Field} {key : String}

/-- A tag without the key gets the generated entry in front of its own ones. -/
theorem entries_taggedText (hname : '"' ∉ f.name.toList) (hkey : IsTagKey key)
    (hnone : StructTag.value? f.ownTag key = none) :
    StructTag.entries (f.taggedText key).toList =
      (key.toList, (snakeCase f.name).toList) :: StructTag.entries f.ownTag.toList := by
  have hvalue : '"' ∉ (snakeCase f.name).toList := notMem_snakeCase hname (by decide) (by decide)
  have hentry := StructTag.entries_entryText_append hkey hvalue
  unfold taggedText generatedEntry
  rw [hnone]
  by_cases hempty : f.ownTag.isEmpty = true
  · -- Without a tag of its own, the field has the generated entry alone.
    have hown : f.ownTag.toList = [] := by simpa using hempty
    have halone := hentry []
    rw [List.append_nil] at halone
    simp [hempty, hown, halone]
  · have hblank : StructTag.entries (' ' :: f.ownTag.toList) = StructTag.entries f.ownTag.toList :=
      StructTag.entries_of_not_isKeyStart (by decide)
    have hfront := hentry (' ' :: f.ownTag.toList)
    rw [hblank] at hfront
    simp [hempty, hfront]

/-- The tag that is written has the key, and says of all others what it said. -/
theorem value?_taggedText (hname : '"' ∉ f.name.toList) (hkey : IsTagKey key) (k : String) :
    StructTag.value? (f.taggedText key) k =
      if k = key then some ((StructTag.value? f.ownTag key).getD (snakeCase f.name))
      else StructTag.value? f.ownTag k := by
  cases hown : StructTag.value? f.ownTag key with
  | some value =>
    have hkept : f.taggedText key = f.ownTag := by simp [taggedText, hown]
    rw [hkept]
    split
    · next h => rw [h, hown, Option.getD_some]
    · rfl
  | none =>
    have hentries := entries_taggedText hname hkey hown
    rw [StructTag.value?, hentries]
    by_cases h : k = key
    · simp [h]
    · have hne : (k.toList == key.toList) = false := by simpa [String.toList_inj] using h
      rw [if_neg h, List.lookup_cons, hne, StructTag.value?]

/-! ## Tagging a second time -/

/-- The field has a tag that is trimmed and has the key, and no comment that says nothing. -/
structure Tagged (f : Field) (key : String) : Prop where
  tag : ∃ tag, f.tag? = some tag ∧ trim tag.toList = tag.toList ∧
    (StructTag.value? tag key).isSome = true
  comment : f.comment? ≠ some ""

/-- A tagged field is written as it is. -/
theorem retagged_of_tagged (h : f.Tagged key) : f.retagged key = f := by
  obtain ⟨tag, htag, htrim, hvalue⟩ := h.tag
  have hown : f.ownTag = tag := by
    rw [ownTag, htag, Option.getD_some, htrim, String.ofList_toList]
  have htagged : f.taggedText key = tag := by
    rw [taggedText, hown, if_pos hvalue]
  rw [retagged, htagged, if_neg h.comment, ← htag]

/-- The generated entry starts with the key and ends with a quote. -/
theorem exists_generatedEntry_eq (f : Field) (hkey : IsTagKey key) :
    ∃ c inside, (f.generatedEntry key).toList = c :: (inside ++ ['"']) ∧
      isWhiteSpace c = false := by
  obtain ⟨c, cs, hchars, hstart, -⟩ := StructTag.exists_scan_of_isTagKey hkey []
  refine ⟨c, cs ++ ':' :: '"' :: (snakeCase f.name).toList, ?_, ?_⟩
  · simp [generatedEntry, StructTag.entryText, hchars]
  · rw [Bool.eq_false_iff]
    intro hblank
    rw [StructTag.isKeyStart_eq_false_of_isWhiteSpace hblank] at hstart
    cases hstart

/-- No white space stands at an end of the tag that is written. -/
theorem trim_taggedText (f : Field) (hkey : IsTagKey key) :
    trim (f.taggedText key).toList = (f.taggedText key).toList := by
  have hown : trim f.ownTag.toList = f.ownTag.toList := by
    rw [ownTag, String.toList_ofList, trim_trim]
  obtain ⟨c, inside, hentry, hc⟩ := exists_generatedEntry_eq f hkey
  unfold taggedText
  split
  · exact hown
  · split
    · -- The generated entry alone, which ends with a quote.
      rw [hentry, trim_eq_self_iff]
      refine ⟨fun d hd => ?_, fun d hd => ?_⟩
      · rw [← Option.some.inj hd]
        exact hc
      · have hquote : '"' = d := by simpa [List.getLast?_cons] using hd
        rw [← hquote]
        decide
    · -- The generated entry in front of the field's own tag, which is trimmed.
      next hempty =>
      have hne : f.ownTag.toList ≠ [] := by simpa using hempty
      rw [String.toList_append, String.toList_append, hentry, trim_eq_self_iff]
      refine ⟨fun d hd => ?_, fun d hd => ?_⟩
      · rw [← Option.some.inj hd]
        exact hc
      · rw [List.getLast?_append, Option.or_eq_some_iff] at hd
        rcases hd with hd | ⟨hnone, -⟩
        · exact (trim_eq_self_iff.1 hown).2 d hd
        · exact absurd (List.getLast?_eq_none_iff.1 hnone) hne

/-- The field as it is written is tagged. -/
theorem tagged_retagged (hname : '"' ∉ f.name.toList) (hkey : IsTagKey key) :
    (f.retagged key).Tagged key := by
  refine ⟨⟨f.taggedText key, rfl, trim_taggedText f hkey, ?_⟩, ?_⟩
  · rw [value?_taggedText hname hkey, if_pos rfl, Option.isSome_some]
  · show (if f.comment? = some "" then none else f.comment?) ≠ some ""
    split
    · simp
    · next h => exact h

/-- Tagging a field a second time changes nothing. -/
theorem retagged_retagged (hname : '"' ∉ f.name.toList) (hkey : IsTagKey key) :
    (f.retagged key).retagged key = f.retagged key :=
  retagged_of_tagged (tagged_retagged hname hkey)

/-! ## The message of a tagged field -/

/-- A value that is a name in snake case gives this name. -/
theorem protobufName?_snakeCase {name : String} (h : IsWord name) :
    protobufName? (snakeCase name).toList = some (snakeCase name).toList := by
  have hcomma : ',' ∉ (snakeCase name).toList :=
    notMem_snakeCase (h.notMem (by decide +kernel)) (by decide) (by decide)
  have hequals : '=' ∉ (snakeCase name).toList :=
    notMem_snakeCase (h.notMem (by decide +kernel)) (by decide) (by decide)
  have hne : (snakeCase name).toList ≠ [] := snakeCase_ne_empty h.ne_empty
  -- The name is one part of which nothing is left out.
  have hlead : ¬ "name=".toList <+: (snakeCase name).toList := fun hstarts =>
    hequals (hstarts.subset (by simp))
  exact protobufName?_eq_some_iff.2 (.whole hne hcomma hlead)

/-- Tagging a field leaves its name in messages. -/
theorem messageName_retagged (hname : IsWord f.name) (hkey : IsTagKey key) :
    (f.retagged key).messageName = f.messageName := by
  have hquote : '"' ∉ f.name.toList := hname.notMem (by decide +kernel)
  have hentry : ((f.retagged key).tag?.bind fun tag => StructTag.value? tag "protobuf") =
      if "protobuf" = key then some ((StructTag.value? f.ownTag key).getD (snakeCase f.name))
      else StructTag.value? f.ownTag "protobuf" :=
    value?_taggedText hquote hkey "protobuf"
  have hsnake : (f.retagged key).name = f.name := rfl
  unfold messageName
  rw [hentry, hsnake, ← value?_ownTag]
  by_cases hprotobuf : "protobuf" = key
  · -- The generated entry names the field as it is named without one.
    subst hprotobuf
    rw [if_pos rfl]
    cases StructTag.value? f.ownTag "protobuf" with
    | some value => rfl
    | none => simp [protobufName?_snakeCase hname]
  · rw [if_neg hprotobuf]

theorem remark?_retagged (f : Field) (key : String) : (f.retagged key).remark? = f.remark? := by
  rw [remark?_eq, remark?_eq]
  show (if (if f.comment? = some "" then none else f.comment?) = some "" then none
    else if f.comment? = some "" then none else f.comment?) = _
  by_cases h : f.comment? = some "" <;> simp [h]

/-- Tagging a field leaves its line in messages. -/
theorem messageLine_retagged (hname : IsWord f.name) (hkey : IsTagKey key) (number : Nat) :
    (f.retagged key).messageLine number = f.messageLine number := by
  unfold messageLine Layout.trailer
  rw [messageName_retagged hname hkey, remark?_retagged]
  rfl

end

end Field

namespace Struct

/-- Tagging the fields of a struct a second time changes nothing. -/
theorem retagged_retagged {s : Struct} (hs : s.WellFormed) {key : String} (hkey : IsTagKey key) :
    (s.retagged key).retagged key = s.retagged key := by
  have hfields :
      ((s.retagged key).fields.map fun f => f.retagged key) = (s.retagged key).fields := by
    show ((s.fields.map fun f => f.retagged key).map fun f => f.retagged key) = _
    rw [List.map_map]
    refine List.map_congr_left fun f hf => ?_
    have hquote : '"' ∉ f.name.toList := (hs.fields f hf).name_isWord.notMem (by decide +kernel)
    exact Field.retagged_retagged hquote hkey
  exact congrArg (Struct.mk s.name) hfields

/-- Tagging the fields of a struct leaves its message. -/
theorem message_retagged {s : Struct} (hs : s.WellFormed) {key : String} (hkey : IsTagKey key) :
    (s.retagged key).message = s.message := by
  unfold message retagged
  rw [List.zipIdx_map, List.map_map]
  refine congrArg (Layout.block ("message " ++ s.name) "    ") ?_
  refine List.map_congr_left fun numbered hnumbered => ?_
  have hf := hs.fields numbered.1 (List.fst_mem_of_mem_zipIdx hnumbered)
  exact Field.messageLine_retagged hf.name_isWord hkey numbered.2

end Struct

/-! ## Texts -/

/-- A normalised text is that of the tagged structs of the text, and is read as these. -/
theorem exists_of_convert_declarations_eq_ok {text out : String} {o : Options}
    (hpackage : o.package? = none) (hkey : IsTagKey o.tagKey)
    (h : convert .declarations o text = .ok out) :
    ∃ structs, parse text = .ok structs ∧ (∀ s ∈ structs, s.WellFormed) ∧
      out = sourceFile (structs.map fun s => s.retagged o.tagKey) ∧
      parse out = .ok (structs.map fun s => s.retagged o.tagKey) := by
  unfold convert at h
  cases hparse : parse text with
  | error e => rw [hparse] at h; cases h
  | ok structs =>
    have hout : declarationFile o structs = out := by
      rw [hparse] at h
      exact Except.ok.inj h
    have hstructs := Struct.wellFormed_of_parse_eq_ok hparse
    refine ⟨structs, rfl, hstructs, ?_, ?_⟩
    · rw [← hout, declarationFile_eq_sourceFile hpackage]
    · rw [← hout]
      exact parse_declarationFile hpackage hkey.backtick_notMem hstructs

/-- Normalising a text twice is normalising it once. -/
theorem convert_declarations_idempotent {text out : String} {o : Options}
    (hpackage : o.package? = none) (hkey : IsTagKey o.tagKey)
    (h : convert .declarations o text = .ok out) : convert .declarations o out = .ok out := by
  obtain ⟨structs, -, hstructs, hout, hparse⟩ :=
    exists_of_convert_declarations_eq_ok hpackage hkey h
  have hagain : ((structs.map fun s => s.retagged o.tagKey).map fun s => s.retagged o.tagKey) =
      structs.map fun s => s.retagged o.tagKey := by
    rw [List.map_map]
    exact List.map_congr_left fun s hs => Struct.retagged_retagged (hstructs s hs) hkey
  calc convert .declarations o out
    _ = .ok (declarationFile o (structs.map fun s => s.retagged o.tagKey)) := by
      rw [convert, hparse]
      rfl
    _ = .ok out := by rw [declarationFile_eq_sourceFile hpackage, hagain, ← hout]

/-- A tag with white space around it and an open quote in it, and a key that is there already. -/
theorem convert_declarations_idempotent_openQuote :
    convert .declarations ⟨"json", none⟩
        "type T struct \x7b\n HTTPServer string ` db:\"n `\n B int `json:\"x\"` //\n\x7d" =
      .ok ("type T struct \x7b\n  HTTPServer string `json:\"http_server\" db:\"n`\n" ++
        "  B int `json:\"x\"`\n\x7d\n") ∧
    convert .declarations ⟨"json", none⟩
        ("type T struct \x7b\n  HTTPServer string `json:\"http_server\" db:\"n`\n" ++
          "  B int `json:\"x\"`\n\x7d\n") =
      .ok ("type T struct \x7b\n  HTTPServer string `json:\"http_server\" db:\"n`\n" ++
        "  B int `json:\"x\"`\n\x7d\n") := by
  have hout : convert .declarations ⟨"json", none⟩
      "type T struct \x7b\n HTTPServer string ` db:\"n `\n B int `json:\"x\"` //\n\x7d" =
      .ok ("type T struct \x7b\n  HTTPServer string `json:\"http_server\" db:\"n`\n" ++
        "  B int `json:\"x\"`\n\x7d\n") := by
    decide +kernel
  exact ⟨hout, convert_declarations_idempotent rfl (by decide +kernel) hout⟩

/-- The messages of a normalised text are those of the text, and a text that cannot be normalised
    has no messages, for the same reason. -/
theorem convert_messages_convert_declarations {text : String} {o₁ : Options} (o₂ : Options)
    (hpackage : o₁.package? = none) (hkey : IsTagKey o₁.tagKey) :
    (∀ out, convert .declarations o₁ text = .ok out →
      convert .messages o₂ out = convert .messages o₂ text) ∧
    ∀ e, convert .declarations o₁ text = .error e → convert .messages o₂ text = .error e := by
  refine ⟨fun out h => ?_, fun e h => ?_⟩
  · obtain ⟨structs, hparse, hstructs, -, hparseOut⟩ :=
      exists_of_convert_declarations_eq_ok hpackage hkey h
    have hmessages : (structs.map fun s => s.retagged o₁.tagKey).map Struct.message =
        structs.map Struct.message := by
      rw [List.map_map]
      exact List.map_congr_left fun s hs => Struct.message_retagged (hstructs s hs) hkey
    calc convert .messages o₂ out
      _ = .ok (messageFile o₂ (structs.map fun s => s.retagged o₁.tagKey)) := by
        rw [convert, hparseOut]
        rfl
      _ = .ok (messageFile o₂ structs) := by rw [messageFile, hmessages, messageFile]
      _ = convert .messages o₂ text := by
        rw [convert, hparse]
        rfl
  · -- Both conversions fail where the text is not read.
    unfold convert at h ⊢
    cases hparse : parse text with
    | error e' =>
      rw [hparse] at h
      exact congrArg Except.error (Except.error.inj h)
    | ok structs => rw [hparse] at h; cases h

/-- The generated entry is for `protobuf`: it gives names that are not given yet and no others. -/
theorem convert_messages_convert_declarations_protobuf :
    (∃ out, convert .declarations ⟨"protobuf", none⟩
        "type T struct \x7b\n DogName string `a:\"b`\n B int `protobuf:\"1,name=x\"`\n\x7d" =
          .ok out ∧
      convert .messages ⟨"json", some "zoo"⟩ out = convert .messages ⟨"json", some "zoo"⟩
        "type T struct \x7b\n DogName string `a:\"b`\n B int `protobuf:\"1,name=x\"`\n\x7d") ∧
    convert .declarations ⟨"protobuf", none⟩ "type" = .error .noMoreTokens ∧
    convert .messages ⟨"json", some "zoo"⟩ "type" = .error .noMoreTokens := by
  have hkey : IsTagKey "protobuf" := by decide +kernel
  have hout : convert .declarations ⟨"protobuf", none⟩
      "type T struct \x7b\n DogName string `a:\"b`\n B int `protobuf:\"1,name=x\"`\n\x7d" =
      .ok ("type T struct \x7b\n  DogName string `protobuf:\"dog_name\" a:\"b`\n" ++
        "  B int `protobuf:\"1,name=x\"`\n\x7d\n") := by
    decide +kernel
  have herror : convert .declarations ⟨"protobuf", none⟩ "type" = .error .noMoreTokens := by
    decide +kernel
  exact ⟨⟨_, hout, (convert_messages_convert_declarations _ rfl hkey).1 _ hout⟩, herror,
    (convert_messages_convert_declarations _ rfl hkey).2 _ herror⟩

end StructSchema
