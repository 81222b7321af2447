import Mathlib.Control.Monad.Basic
import StructSchema.Conversion
import StructSchema.Proofs.Schema.WellFormed
import StructSchema.Proofs.Text.Lines
import StructSchema.Proofs.Text.SnakeCasing

/-!
# What messages tell

A file of messages is a run of lines: for each message its head, a line for each field with the
field's number, and its closing brace. These lines tell of the structs exactly their outlines,
whatever the comments hold and whatever the structs, types and fields are called.

## Key results

- `Field.outline`, `Struct.outline`: what a message tells of a field and of a struct
- `messageFile_eq_unlines`: the lines of a file of messages
- `Field.Outline.line_injective`, `Struct.Outline.lines_append_inj`, `outlineLines_injective`: the
  lines of a field, of a message and of a file are read in one way
- `convert_messages_eq_iff`: texts have the same messages if their structs have the same outlines
-/

namespace StructSchema

open StructSchema.Unicode StructSchema.Text

/-! ## Outlines -/

/-- What a message tells of a field. -/
structure Field.Outline where
  isSlice : Bool
  /-- The type, a primitive one by its name in messages. -/
  type : String
  name : String
  /-- The comment, if it says anything. -/
  remark? : Option String
deriving DecidableEq, Repr

/-- What a message tells of a struct. -/
structure Struct.Outline where
  name : String
  fields : List Field.Outline
deriving DecidableEq, Repr

/-- The outline of a field that its tag gives no other name. -/
def Field.outline (f : Field) : Field.Outline :=
  ⟨f.isSlice, f.messageType, snakeCase f.name, f.remark?⟩

/-- The outline of a struct. -/
def Struct.outline (s : Struct) : Struct.Outline := ⟨s.name, s.fields.map Field.outline⟩

/-- Whether the field's tag has a `protobuf` entry. -/
def Field.hasProtobufEntry (f : Field) : Bool :=
  (f.tag?.bind fun tag => StructTag.value? tag "protobuf").isSome

/-! ## Their lines -/

namespace Field.Outline

/-- What stands behind the number of a field. -/
def trailer (f : Field.Outline) : String := f.remark?.elim "" fun remark => " // " ++ remark

/-- The line of a field, without its line break. -/
def line (f : Field.Outline) (number : Nat) : String :=
  "    " ++ (if f.isSlice then "repeated " else "") ++ f.type ++ " " ++ f.name ++ " = " ++
    toString number ++ ";" ++ f.trailer

end Field.Outline

/-- The lines of a message: its head, a line for each field with its number, counted from one, and
    its closing brace. -/
def Struct.Outline.lines (s : Struct.Outline) : List String :=
  ("message " ++ s.name ++ " \x7b") ::
    ((s.fields.zipIdx 1).map fun numbered => numbered.1.line numbered.2) ++ ["\x7d"]

/-- The lines of a file: those of its messages with an empty line between any two. A file without
    messages is an empty line. -/
def outlineLines : List Struct.Outline → List String
  | [] => [""]
  | s :: rest => s.lines ++ if rest.isEmpty then [] else "" :: outlineLines rest

theorem Field.trailer_outline (f : Field) : f.outline.trailer = Layout.trailer f := by
  unfold Layout.trailer Outline.trailer outline
  cases f.remark? <;> rfl

theorem Field.messageLine_eq {f : Field} (hentry : f.hasProtobufEntry = false) (number : Nat) :
    "    " ++ f.messageLine number = f.outline.line number := by
  have hnone : (f.tag?.bind fun tag => StructTag.value? tag "protobuf") = none := by
    simpa [hasProtobufEntry] using hentry
  have hname : f.messageName = snakeCase f.name := by simp [messageName, hnone]
  rw [messageLine, hname, ← trailer_outline]
  unfold Outline.line
  simp only [String.append_assoc]
  rfl

/-- A message is its lines, the last one not yet ended. -/
theorem Struct.message_eq {s : Struct} (hentry : ∀ f ∈ s.fields, f.hasProtobufEntry = false) :
    s.message ++ "\n" = unlines s.outline.lines := by
  have hlines : ((s.fields.zipIdx 1).map fun numbered => numbered.1.messageLine numbered.2).map
      (fun line => "    " ++ line ++ "\n") =
      (((s.fields.map Field.outline).zipIdx 1).map fun numbered =>
        numbered.1.line numbered.2).map fun line => line ++ "\n" := by
    rw [List.zipIdx_map]
    simp only [List.map_map]
    apply List.map_congr_left
    intro numbered hnumbered
    have hfield : numbered.1 ∈ s.fields := List.fst_mem_of_mem_zipIdx hnumbered
    exact congrArg (· ++ "\n") (Field.messageLine_eq (hentry _ hfield) numbered.2)
  apply String.toList_inj.1
  rw [Struct.message, Layout.block, hlines, Struct.outline, Outline.lines, unlines_append,
    unlines_cons]
  simp [unlines]

/-- A file of messages is a run of lines behind what stands at its top. -/
theorem messageFile_eq_unlines (o : Options) {structs : List Struct}
    (hentry : ∀ s ∈ structs, ∀ f ∈ s.fields, f.hasProtobufEntry = false) :
    messageFile o structs = "syntax = \"proto3\";\n\n" ++ Layout.packageClause ";" o.package? ++
      unlines (outlineLines (structs.map Struct.outline)) := by
  suffices h : "\n\n".intercalate (structs.map Struct.message) ++ "\n" =
      unlines (outlineLines (structs.map Struct.outline)) by
    rw [messageFile, Layout.file, String.append_assoc, h]
  induction structs with
  | nil => rfl
  | cons s structs ih =>
    obtain ⟨hs, hstructs⟩ := List.forall_mem_cons.1 hentry
    have hmessage := Struct.message_eq hs
    cases structs with
    | nil => simpa [outlineLines] using hmessage
    | cons next structs =>
      have hrest := ih hstructs
      simp only [List.map_cons] at hrest ⊢
      rw [outlineLines, unlines_append, ← hmessage]
      simp only [List.isEmpty_cons, Bool.false_eq_true, if_false]
      rw [unlines_cons, ← hrest]
      apply String.toList_inj.1
      simp [String.toList_intercalate]

/-! ## Reading the lines -/

/-- What holds of the outline of every field that is read: its words have no blanks, and its comment
    ends with the line. -/
structure Field.Outline.Plain (f : Field.Outline) : Prop where
  type_notMem : ' ' ∉ f.type.toList ∧ '\n' ∉ f.type.toList
  name_notMem : ' ' ∉ f.name.toList ∧ '\n' ∉ f.name.toList ∧ '=' ∉ f.name.toList
  remark : ∀ remark, f.remark? = some remark → '\n' ∉ remark.toList

/-- What holds of the outline of every struct that is read. -/
structure Struct.Outline.Plain (s : Struct.Outline) : Prop where
  name_notMem : '\n' ∉ s.name.toList
  fields : ∀ f ∈ s.fields, f.Plain

namespace Field.Outline

/-- A field's line from its type on. -/
def words (f : Field.Outline) (number : Nat) : List Char :=
  f.type.toList ++ ' ' :: (f.name.toList ++ ' ' :: ('=' :: ' ' ::
    ((toString number).toList ++ ';' :: f.trailer.toList)))

theorem toList_line (f : Field.Outline) (number : Nat) :
    (f.line number).toList = "    ".toList ++
      if f.isSlice then "repeated".toList ++ ' ' :: f.words number else f.words number := by
  unfold line words
  cases f.isSlice <;> simp

theorem head?_line (f : Field.Outline) (number : Nat) :
    (f.line number).toList.head? = some ' ' := by
  rw [toList_line]
  rfl

theorem trailer_injective {f g : Field.Outline} (h : f.trailer = g.trailer) :
    f.remark? = g.remark? := by
  have h := congrArg String.toList h
  unfold trailer at h
  cases hf : f.remark? <;> cases hg : g.remark? <;> simp [hf, hg] at h ⊢
  exact String.toList_inj.1 h

/-- The type, the name and the comment are read off the line in this order. -/
theorem words_injective {f g : Field.Outline} (hf : f.Plain) (hg : g.Plain) {number : Nat}
    (h : f.words number = g.words number) :
    f.type = g.type ∧ f.name = g.name ∧ f.remark? = g.remark? := by
  obtain ⟨htype, h⟩ := (append_separator_inj hf.type_notMem.1 hg.type_notMem.1).1 h
  obtain ⟨hname, h⟩ := (append_separator_inj hf.name_notMem.1 hg.name_notMem.1).1 h
  -- Behind the number, which is the same, only the comment is left.
  have htrailer : f.trailer = g.trailer := by simpa [String.toList_inj] using h
  exact ⟨String.toList_inj.1 htype, String.toList_inj.1 hname, trailer_injective htrailer⟩

/-- A slice is not taken for a field of the type `repeated`. -/
theorem repeated_append_words_ne {f g : Field.Outline} (hf : f.Plain) (hg : g.Plain)
    (number : Nat) : "repeated".toList ++ ' ' :: f.words number ≠ g.words number := by
  intro h
  obtain ⟨-, h⟩ := (append_separator_inj (by decide) hg.type_notMem.1).1 h
  obtain ⟨-, h⟩ := (append_separator_inj hf.type_notMem.1 hg.name_notMem.1).1 h
  -- Where the field of a slice has its name, the other one has the sign in front of the number.
  change f.name.toList ++ ' ' :: _ = ['='] ++ ' ' :: _ at h
  obtain ⟨hsign, -⟩ := (append_separator_inj hf.name_notMem.1 (by decide)).1 h
  have hname := hf.name_notMem.2.2
  simp [hsign] at hname

/-- A line of a given number tells one outline. -/
theorem line_injective {f g : Field.Outline} (hf : f.Plain) (hg : g.Plain) {number : Nat}
    (h : f.line number = g.line number) : f = g := by
  have h := congrArg String.toList h
  rw [toList_line, toList_line] at h
  have h := List.append_cancel_left h
  have hslice : f.isSlice = g.isSlice ∧ f.words number = g.words number := by
    cases hf' : f.isSlice <;> cases hg' : g.isSlice <;> simp only [hf', hg', if_true] at h
    · exact ⟨rfl, h⟩
    · exact absurd h.symm (repeated_append_words_ne hg hf number)
    · exact absurd h (repeated_append_words_ne hf hg number)
    · exact ⟨rfl, (List.cons.inj (List.append_cancel_left h)).2⟩
  obtain ⟨htype, hname, hremark⟩ := words_injective hf hg hslice.2
  cases f
  cases g
  simp only [Outline.mk.injEq] at *
  exact ⟨hslice.1, htype, hname, hremark⟩

/-- The line of a field ends where its comment does. -/
theorem lineBreak_notMem_trailer {f : Field.Outline} (hf : f.Plain) : '\n' ∉ f.trailer.toList := by
  unfold trailer
  cases hremark : f.remark? with
  | none => simp
  | some remark => simp [hf.remark remark hremark]

theorem lineBreak_notMem_line {f : Field.Outline} (hf : f.Plain) (number : Nat) :
    '\n' ∉ (f.line number).toList := by
  have hnumber : '\n' ∉ Nat.toDigits 10 number := by
    intro hmem
    have hdigit := Nat.isDigit_of_mem_toDigits (by decide) (by decide) hmem
    revert hdigit
    decide
  have hwords : '\n' ∉ f.words number := by
    simp [words, hf.type_notMem.2, hf.name_notMem.2.1, hnumber, lineBreak_notMem_trailer hf]
  rw [toList_line]
  cases f.isSlice <;> simp [hwords]

end Field.Outline

/-- The lines of fields that are numbered from the same number on. -/
theorem numberedLines_injective {fs gs : List Field.Outline} (hfs : ∀ f ∈ fs, f.Plain)
    (hgs : ∀ g ∈ gs, g.Plain) {first : Nat}
    (h : (fs.zipIdx first).map (fun numbered => numbered.1.line numbered.2) =
      (gs.zipIdx first).map fun numbered => numbered.1.line numbered.2) : fs = gs := by
  induction fs generalizing gs first with
  | nil =>
    cases gs with
    | nil => rfl
    | cons g gs => simp at h
  | cons f fs ih =>
    cases gs with
    | nil => simp at h
    | cons g gs =>
      obtain ⟨hf, hfs⟩ := List.forall_mem_cons.1 hfs
      obtain ⟨hg, hgs⟩ := List.forall_mem_cons.1 hgs
      simp only [List.zipIdx_cons, List.map_cons] at h
      obtain ⟨hline, hlines⟩ := List.cons.inj h
      rw [Field.Outline.line_injective hf hg hline, ih hfs hgs hlines]

namespace Struct.Outline

theorem head?_head (s : Struct.Outline) :
    ("message " ++ s.name ++ " \x7b").toList.head? = some 'm' := by
  simp

/-- Neither its head nor the line of a field is taken for the end of a message. -/
theorem brace_notMem_lines (s : Struct.Outline) :
    "\x7d" ∉ ("message " ++ s.name ++ " \x7b") ::
      (s.fields.zipIdx 1).map fun numbered => numbered.1.line numbered.2 := by
  intro hmem
  rcases List.mem_cons.1 hmem with hhead | hfield
  · have hfirst := s.head?_head
    rw [← hhead] at hfirst
    revert hfirst
    decide
  · -- The line of a field is indented.
    obtain ⟨numbered, -, hline⟩ := List.mem_map.1 hfield
    have hfirst := numbered.1.head?_line numbered.2
    rw [hline] at hfirst
    revert hfirst
    decide

/-- A message is read off the front of lines up to its closing brace. -/
theorem lines_append_inj {s t : Struct.Outline} (hs : s.Plain) (ht : t.Plain)
    {rest rest' : List String} (h : s.lines ++ rest = t.lines ++ rest') : s = t ∧ rest = rest' := by
  unfold lines at h
  rw [List.append_assoc, List.append_assoc, List.singleton_append, List.singleton_append] at h
  obtain ⟨hlines, hrest⟩ :=
    (append_separator_inj s.brace_notMem_lines t.brace_notMem_lines).1 h
  obtain ⟨hhead, hfields⟩ := List.cons.inj hlines
  have hname : s.name = t.name := by
    have := congrArg String.toList hhead
    simpa [String.toList_inj] using this
  have hfields := numberedLines_injective hs.fields ht.fields hfields
  cases s
  cases t
  simp only [Outline.mk.injEq] at *
  exact ⟨⟨hname, hfields⟩, hrest⟩

/-- Behind the head of a message stands the line of its first field, with the number one, then that
    of the second, and so on. -/
theorem getElem?_lines {s : Struct.Outline} {k : Nat} {f : Field.Outline}
    (h : s.fields[k]? = some f) : s.lines[k + 1]? = some (f.line (k + 1)) := by
  have hk : k < s.fields.length := (List.getElem?_eq_some_iff.1 h).1
  rw [lines, List.cons_append, List.getElem?_cons_succ,
    List.getElem?_append_left (by simpa using hk)]
  simp [h, Nat.add_comm]

theorem lineBreak_notMem_of_mem_lines {s : Struct.Outline} (hs : s.Plain) :
    ∀ line ∈ s.lines, '\n' ∉ line.toList := by
  intro line hline
  simp only [lines, List.cons_append, List.mem_cons, List.mem_append, List.mem_map,
    List.not_mem_nil, or_false] at hline
  rcases hline with rfl | ⟨numbered, hnumbered, rfl⟩ | rfl
  · simp [hs.name_notMem]
  · have hfield : numbered.1 ∈ s.fields := List.fst_mem_of_mem_zipIdx hnumbered
    exact Field.Outline.lineBreak_notMem_line (hs.fields _ hfield) numbered.2
  · decide

end Struct.Outline

theorem lineBreak_notMem_of_mem_outlineLines {ss : List Struct.Outline} (hss : ∀ s ∈ ss, s.Plain) :
    ∀ line ∈ outlineLines ss, '\n' ∉ line.toList := by
  induction ss with
  | nil => simp [outlineLines]
  | cons s ss ih =>
    obtain ⟨hs, hss⟩ := List.forall_mem_cons.1 hss
    intro line hline
    rw [outlineLines, List.mem_append] at hline
    rcases hline with hline | hline
    · exact Struct.Outline.lineBreak_notMem_of_mem_lines hs line hline
    · -- Behind the message there is nothing, or an empty line and the other messages.
      split at hline
      · cases hline
      · rcases List.mem_cons.1 hline with rfl | hline
        · simp
        · exact ih hss line hline

/-- The lines of each message stand together. -/
theorem lines_infix_outlineLines {s : Struct.Outline} {ss : List Struct.Outline} (hs : s ∈ ss) :
    s.lines <:+: outlineLines ss := by
  induction ss with
  | nil => cases hs
  | cons t ss ih =>
    rw [outlineLines]
    rcases List.mem_cons.1 hs with rfl | hs
    · exact List.infix_append [] s.lines _
    · have hne : ss.isEmpty = false := by simpa using List.ne_nil_of_mem hs
      rw [if_neg (by simp [hne])]
      exact ((ih hs).trans (List.suffix_cons "" _).isInfix).trans
        (List.suffix_append t.lines _).isInfix

/-- A file of messages is no empty line. -/
theorem outlineLines_cons_ne (s : Struct.Outline) (ss : List Struct.Outline) :
    outlineLines (s :: ss) ≠ [""] := by
  intro h
  rw [outlineLines, Struct.Outline.lines, List.cons_append, List.cons_append] at h
  have hfirst := s.head?_head
  rw [(List.cons.inj h).1] at hfirst
  cases hfirst

/-- The lines of a file tell the outlines of its structs. -/
theorem outlineLines_injective {ss ts : List Struct.Outline} (hss : ∀ s ∈ ss, s.Plain)
    (hts : ∀ t ∈ ts, t.Plain) (h : outlineLines ss = outlineLines ts) : ss = ts := by
  induction ss generalizing ts with
  | nil =>
    cases ts with
    | nil => rfl
    | cons t ts => exact absurd h.symm (outlineLines_cons_ne t ts)
  | cons s ss ih =>
    cases ts with
    | nil => exact absurd h (outlineLines_cons_ne s ss)
    | cons t ts =>
      rw [List.forall_mem_cons] at hss hts
      obtain ⟨rfl, hrest⟩ := Struct.Outline.lines_append_inj hss.1 hts.1 h
      -- Both files end here, or both go on behind an empty line.
      cases ss with
      | nil =>
        cases ts with
        | nil => rfl
        | cons t ts => simp at hrest
      | cons s' ss =>
        cases ts with
        | nil => simp at hrest
        | cons t ts => rw [ih hss.2 hts.2 (List.cons.inj hrest).2]

/-! ## The outlines of what is read -/

theorem mem_of_canonicalType? {name canonical : String} (h : canonicalType? name = some canonical) :
    (name, canonical) ∈ primitiveTypes := by
  obtain ⟨front, back, htypes, -⟩ := List.lookup_eq_some_iff.1 h
  rw [htypes]
  simp

theorem isWord_of_mem_primitiveTypes : ∀ entry ∈ primitiveTypes, IsWord entry.2 := by
  decide +kernel

/-- The type in a message is a plain word. -/
theorem Field.isWord_messageType {f : Field} (hf : f.WellFormed) : IsWord f.messageType := by
  unfold messageType
  split
  · cases hlookup : canonicalType? f.baseType with
    | none => exact hf.baseType_isWord
    | some canonical => exact isWord_of_mem_primitiveTypes _ (mem_of_canonicalType? hlookup)
  · exact hf.baseType_isWord

theorem Field.outline_plain {f : Field} (hf : f.WellFormed) : f.outline.Plain := by
  have hname {c : Char} (hword : isWordChar c = false) (hne : c ≠ '_') (hcode : c.toNat ≤ 0x60) :
      c ∉ (snakeCase f.name).toList :=
    notMem_snakeCase (hf.name_isWord.notMem hword) hne hcode
  refine ⟨⟨?_, ?_⟩, ⟨?_, ?_, ?_⟩, ?_⟩
  · exact (Field.isWord_messageType hf).notMem (by decide +kernel)
  · exact (Field.isWord_messageType hf).notMem (by decide +kernel)
  · exact hname (by decide +kernel) (by decide) (by decide)
  · exact hname (by decide +kernel) (by decide) (by decide)
  · exact hname (by decide +kernel) (by decide) (by decide)
  · intro remark hremark
    have hcomment : f.comment? = some remark := (Option.filter_eq_some_iff.1 hremark).1
    exact (hf.comment remark hcomment).1

theorem Struct.outline_plain {s : Struct} (hs : s.WellFormed) : s.outline.Plain := by
  refine ⟨hs.name_isWord.notMem (by decide +kernel), ?_⟩
  intro f hf
  obtain ⟨field, hfield, rfl⟩ := List.mem_map.1 hf
  exact Field.outline_plain (hs.fields field hfield)

/-- The messages of a text, as lines behind what stands at their top. -/
theorem convert_messages_eq_ok (o : Options) {text : String} {structs : List Struct}
    (h : parse text = .ok structs)
    (hentry : ∀ s ∈ structs, ∀ f ∈ s.fields, f.hasProtobufEntry = false) :
    convert .messages o text = .ok ("syntax = \"proto3\";\n\n" ++
      Layout.packageClause ";" o.package? ++
        unlines (outlineLines (structs.map Struct.outline))) := by
  rw [convert, h, ← messageFile_eq_unlines o hentry]
  rfl

theorem outlines_plain_of_parse_eq_ok {text : String} {structs : List Struct}
    (h : parse text = .ok structs) : ∀ s ∈ structs.map Struct.outline, s.Plain := by
  intro s hs
  obtain ⟨t, ht, rfl⟩ := List.mem_map.1 hs
  exact Struct.outline_plain (Struct.wellFormed_of_parse_eq_ok h t ht)

/-- Two texts whose tags give fields no other names have the same messages if and only if their
    structs have the same outlines. The messages are lines, one for each field: in every message the
    line of the first field has the number one, that of the second the number two, and so on. -/
theorem convert_messages_eq_iff {o : Options} {text text' : String} {structs structs' : List Struct}
    (h : parse text = .ok structs) (h' : parse text' = .ok structs')
    (hentry : ∀ s ∈ structs, ∀ f ∈ s.fields, f.hasProtobufEntry = false)
    (hentry' : ∀ s ∈ structs', ∀ f ∈ s.fields, f.hasProtobufEntry = false) :
    (convert .messages o text = convert .messages o text' ↔
      structs.map Struct.outline = structs'.map Struct.outline) ∧
    convert .messages o text = .ok ("syntax = \"proto3\";\n\n" ++
      Layout.packageClause ";" o.package? ++ unlines (outlineLines (structs.map Struct.outline))) ∧
    (∀ line ∈ outlineLines (structs.map Struct.outline), '\n' ∉ line.toList) ∧
    ∀ s ∈ structs, s.outline.lines <:+: outlineLines (structs.map Struct.outline) ∧
      ∀ k f, s.fields[k]? = some f → s.outline.lines[k + 1]? = some (f.outline.line (k + 1)) := by
  have hplain := outlines_plain_of_parse_eq_ok h
  have hplain' := outlines_plain_of_parse_eq_ok h'
  have hbreaks := lineBreak_notMem_of_mem_outlineLines hplain
  have hbreaks' := lineBreak_notMem_of_mem_outlineLines hplain'
  have hout := convert_messages_eq_ok o h hentry
  have hout' := convert_messages_eq_ok o h' hentry'
  refine ⟨?_, hout, hbreaks, ?_⟩
  · rw [hout, hout']
    constructor
    · intro hsame
      -- Both texts have the same top, so that the same lines follow.
      have hlines := (String.append_right_inj _).1 (Except.ok.inj hsame)
      exact outlineLines_injective hplain hplain' (unlines_injective hbreaks hbreaks' hlines)
    · intro hsame
      rw [hsame]
  · intro s hs
    refine ⟨lines_infix_outlineLines (List.mem_map_of_mem hs), ?_⟩
    intro k f hf
    have hfield : s.outline.fields[k]? = some f.outline := by simp [Struct.outline, hf]
    exact Struct.Outline.getElem?_lines hfield

/-- A slice of the type `repeated` in a field called `message`, and a comment with a brace and a
    number in it. -/
theorem convert_messages_eq_iff_repeated :
    parse
        "type repeated struct \x7b\n message []repeated // \x7d = 3;\n X *int `json:\"x\"`\n\x7d" =
      .ok [⟨"repeated",
        [{ Field.ofSource "message" "[]repeated" with comment? := some "\x7d = 3;" },
         { Field.ofSource "X" "*int" with tag? := some "json:\"x\"" }]⟩] ∧
    parse "type repeated struct\x7bmessage []repeated//\x7d = 3;\nX int32 //\n\x7d" =
      .ok [⟨"repeated",
        [{ Field.ofSource "message" "[]repeated" with comment? := some "\x7d = 3;" },
         { Field.ofSource "X" "int32" with comment? := some "" }]⟩] ∧
    convert .messages {}
        "type repeated struct \x7b\n message []repeated // \x7d = 3;\n X *int `json:\"x\"`\n\x7d" =
      convert .messages {}
        "type repeated struct\x7bmessage []repeated//\x7d = 3;\nX int32 //\n\x7d" ∧
    convert .messages {}
        "type repeated struct \x7b\n message []repeated // \x7d = 3;\n X *int `json:\"x\"`\n\x7d" =
      .ok ("syntax = \"proto3\";\n\n" ++ "" ++ unlines
        ["message repeated \x7b", "    repeated repeated message = 1; // \x7d = 3;",
          "    int32 x = 2;", "\x7d"]) := by
  have h : parse
      "type repeated struct \x7b\n message []repeated // \x7d = 3;\n X *int `json:\"x\"`\n\x7d" =
      .ok [⟨"repeated",
        [{ Field.ofSource "message" "[]repeated" with comment? := some "\x7d = 3;" },
         { Field.ofSource "X" "*int" with tag? := some "json:\"x\"" }]⟩] := by
    decide +kernel
  have h' : parse "type repeated struct\x7bmessage []repeated//\x7d = 3;\nX int32 //\n\x7d" =
      .ok [⟨"repeated",
        [{ Field.ofSource "message" "[]repeated" with comment? := some "\x7d = 3;" },
         { Field.ofSource "X" "int32" with comment? := some "" }]⟩] := by
    decide +kernel
  obtain ⟨hiff, hout, -⟩ :=
    convert_messages_eq_iff (o := {}) h h' (by decide +kernel) (by decide +kernel)
  exact ⟨h, h', hiff.2 (by decide +kernel), hout.trans (by decide +kernel)⟩

end StructSchema
