import Mathlib.Control.Monad.Basic
import StructSchema.Proofs.Schema.WellFormed
import StructSchema.Render.Layout

/-!
# Structs as source text

Well-formed structs can be written as declarations that are read back as these structs: each field
on a line of its own, with its name, its type, its tag in backticks and its comment behind slashes.

## Key results

- `sourceFile`: how structs are written
- `spelling_fileLexemes`, `delimited_fileLexemes`: the lexemes of that text
- `parse_sourceFile`: well-formed structs are read back from it
- `exists_parse_eq_ok_iff`: the lists of structs that texts declare
-/

namespace StructSchema

open StructSchema.Text

/-! ## The text -/

/-- A field with its type, its tag and its comment. -/
def Field.source (f : Field) : String :=
  f.name ++ " " ++ f.sourceType ++ (f.tag?.elim "" fun tag => " `" ++ tag ++ "`") ++
    f.comment?.elim "" fun comment => " // " ++ comment

/-- The declaration of a struct, with a line for each field. -/
def Struct.source (s : Struct) : String :=
  Layout.block ("type " ++ s.name ++ " struct") "  " (s.fields.map Field.source)

/-- A file with the declarations of structs. -/
def sourceFile (structs : List Struct) : String := Layout.file "" (structs.map Struct.source)

/-! ## Its lexemes -/

/-- One blank. -/
def Lexeme.gap : Lexeme := .blank ' '

/-- A word without modifiers. -/
def Lexeme.plain (name : String) : Lexeme := .word ⟨false, false⟩ name.toList

/-- The lexemes of a field's tag. -/
def Field.tagLexemes (f : Field) : List Lexeme :=
  f.tag?.elim [] fun tag => [.gap, .tag tag.toList]

/-- The lexemes of a field's comment. -/
def Field.commentLexemes (f : Field) : List Lexeme :=
  f.comment?.elim [] fun comment => [.gap, .comment (' ' :: comment.toList)]

/-- The lexemes of a field's name and type, indented. -/
def Field.words (f : Field) : List Lexeme :=
  [.gap, .gap, .plain f.name, .gap, .word f.modifiers f.baseType.toList]

/-- The lexemes of the line of a field. -/
def Field.line (f : Field) : List Lexeme :=
  f.words ++ (f.tagLexemes ++ (f.commentLexemes ++ [.newline]))

/-- The lexemes of a struct up to the line of its first field. -/
def Struct.opening (s : Struct) : List Lexeme :=
  [.plain "type", .gap, .plain s.name, .gap, .plain "struct", .gap, .leftBrace, .newline]

/-- The lexemes of a struct. -/
def Struct.lexemes (s : Struct) : List Lexeme :=
  s.opening ++ s.fields.flatMap Field.line ++ [.rightBrace]

/-- The lexemes of a file. -/
def fileLexemes (structs : List Struct) : List Lexeme :=
  [Lexeme.newline, .newline].intercalate (structs.map Struct.lexemes) ++ [.newline]

theorem Field.spelling_line (f : Field) :
    f.line.flatMap Lexeme.spelling = ("  " ++ f.source ++ "\n").toList := by
  have hplain : (⟨false, false⟩ : TypeModifiers).spelling = [] := rfl
  unfold Field.line Field.words Field.tagLexemes Field.commentLexemes Field.source Field.sourceType
  -- With or without a tag, with or without a comment.
  cases f.tag? <;> cases f.comment? <;>
    simp [Lexeme.plain, Lexeme.gap, Lexeme.spelling, hplain, backtick]

theorem Struct.spelling_lexemes (s : Struct) :
    s.lexemes.flatMap Lexeme.spelling = s.source.toList := by
  have hplain : (⟨false, false⟩ : TypeModifiers).spelling = [] := rfl
  have hlines : (s.fields.flatMap Field.line).flatMap Lexeme.spelling =
      (String.join (s.fields.map fun f => "  " ++ f.source ++ "\n")).toList := by
    rw [String.toList_join, List.flatMap_assoc, List.flatMap_map]
    congr 1
    funext f
    exact f.spelling_line
  unfold Struct.lexemes Struct.source Layout.block
  rw [List.flatMap_append, List.flatMap_append, hlines, List.map_map]
  simp [Struct.opening, Lexeme.plain, Lexeme.gap, Lexeme.spelling, hplain, Function.comp_def]

theorem spelling_intercalate (separator : List Lexeme) (runs : List (List Lexeme)) :
    (separator.intercalate runs).flatMap Lexeme.spelling =
      (separator.flatMap Lexeme.spelling).intercalate
        (runs.map fun ls => ls.flatMap Lexeme.spelling) := by
  induction runs with
  | nil => rfl
  | cons run runs ih =>
    cases runs with
    | nil => simp
    | cons next runs =>
      rw [List.intercalate_cons_cons, List.flatMap_append, List.flatMap_append, ih]
      simp [List.intercalate_cons_cons]

/-- The lexemes of a file spell its text. -/
theorem spelling_fileLexemes (structs : List Struct) :
    (fileLexemes structs).flatMap Lexeme.spelling = (sourceFile structs).toList := by
  have hstructs : (fun s : Struct => s.lexemes.flatMap Lexeme.spelling) =
      fun s => s.source.toList := funext Struct.spelling_lexemes
  unfold fileLexemes sourceFile Layout.file
  rw [List.flatMap_append, spelling_intercalate, List.map_map, Function.comp_def, hstructs]
  simp [Lexeme.spelling, String.toList_intercalate, Function.comp_def]

/-! ## Where the lexemes end -/

/-- The lexemes may stand one after the other, whatever follows them. -/
def Lexeme.Delimited (ls : List Lexeme) : Prop := ∀ rest, Lexeme.Separated rest ls

theorem Lexeme.Delimited.append {front back : List Lexeme} (hfront : Lexeme.Delimited front)
    (hback : Lexeme.Delimited back) : Lexeme.Delimited (front ++ back) := fun rest =>
  Lexeme.separated_append.2 ⟨hfront _, hback rest⟩

theorem Lexeme.Delimited.flatMap {α : Type} {items : List α} {lexemes : α → List Lexeme}
    (h : ∀ item ∈ items, Lexeme.Delimited (lexemes item)) :
    Lexeme.Delimited (items.flatMap lexemes) := by
  induction items with
  | nil => exact fun _ => trivial
  | cons item items ih =>
    obtain ⟨hitem, hitems⟩ := List.forall_mem_cons.1 h
    exact hitem.append (ih hitems)

/-- Where a line goes on behind a type, no word does. -/
theorem Field.isWordChar_of_head? (f : Field) {rest : List Char} {c : Char}
    (h : ((f.tagLexemes ++ (f.commentLexemes ++ [Lexeme.newline])).flatMap Lexeme.spelling ++
      rest).head? = some c) : isWordChar c = false := by
  -- A blank stands in front of the tag and of the comment; without both the line ends.
  have hc : c = ' ' ∨ c = '\n' := by
    unfold Field.tagLexemes Field.commentLexemes at h
    cases htag : f.tag? with
    | some tag =>
      simp [htag, Lexeme.gap, Lexeme.spelling] at h
      exact .inl h.symm
    | none =>
      cases hcomment : f.comment? with
      | some comment =>
        simp [htag, hcomment, Lexeme.gap, Lexeme.spelling] at h
        exact .inl h.symm
      | none =>
        simp [htag, hcomment, Lexeme.spelling] at h
        exact .inr h.symm
  rcases hc with rfl | rfl <;> decide +kernel

theorem Lexeme.wellFormed_gap : Lexeme.gap.WellFormed := ⟨by decide, by decide⟩

/-- A word ends in front of a blank. -/
theorem Lexeme.endsBefore_gap (name : String) (ls : List Lexeme) (rest : List Char) :
    (Lexeme.plain name).EndsBefore ((Lexeme.gap :: ls).flatMap Lexeme.spelling ++ rest) := by
  intro c hc
  have hc : ' ' = c := Option.some.inj hc
  rw [← hc]
  decide +kernel

/-- The lexemes of a line are kept apart by blanks, and its comment by the line end. -/
theorem Field.delimited_line {f : Field} (hf : f.WellFormed) : Lexeme.Delimited f.line := by
  intro rest
  rw [Field.line, Lexeme.separated_append, Lexeme.separated_append, Lexeme.separated_append]
  have hgap := Lexeme.wellFormed_gap
  refine ⟨⟨hgap, trivial, hgap, trivial, hf.name_isWord, Lexeme.endsBefore_gap _ _ _, hgap, trivial,
    hf.baseType_isWord, fun c hc => f.isWordChar_of_head? hc, trivial⟩, ?_, ?_, trivial, trivial,
    trivial⟩
  · unfold Field.tagLexemes
    cases htag : f.tag? with
    | none => trivial
    | some tag => exact ⟨hgap, trivial, hf.tag tag htag, trivial, trivial⟩
  · unfold Field.commentLexemes
    cases hcomment : f.comment? with
    | none => trivial
    | some comment =>
      have hbody : '\n' ∉ ' ' :: comment.toList := by
        have hcomment := (hf.comment comment hcomment).1
        simp [hcomment]
      exact ⟨hgap, trivial, hbody, Lexeme.endsBefore_lineBreak _ _, trivial⟩

theorem isWord_type : IsWord "type" := by
  have hchars : "type".toList.all isWordChar = true := by decide +kernel
  exact ⟨by decide +kernel, List.all_eq_true.1 hchars⟩

theorem isWord_struct : IsWord "struct" := by
  have hchars : "struct".toList.all isWordChar = true := by decide +kernel
  exact ⟨by decide +kernel, List.all_eq_true.1 hchars⟩

theorem Struct.delimited_lexemes {s : Struct} (hs : s.WellFormed) : Lexeme.Delimited s.lexemes := by
  have hgap := Lexeme.wellFormed_gap
  have hopening : Lexeme.Delimited s.opening := fun rest =>
    ⟨isWord_type, Lexeme.endsBefore_gap _ _ _, hgap, trivial, hs.name_isWord,
      Lexeme.endsBefore_gap _ _ _, hgap, trivial, isWord_struct, Lexeme.endsBefore_gap _ _ _, hgap,
      trivial, trivial, trivial, trivial, trivial, trivial⟩
  have hlines : Lexeme.Delimited (s.fields.flatMap Field.line) :=
    Lexeme.Delimited.flatMap fun f hf => Field.delimited_line (hs.fields f hf)
  exact (hopening.append hlines).append fun _ => ⟨trivial, trivial, trivial⟩

/-- The lexemes of a file of well-formed structs may stand one after the other. -/
theorem delimited_fileLexemes {structs : List Struct} (h : ∀ s ∈ structs, s.WellFormed) :
    Lexeme.Delimited (fileLexemes structs) := by
  -- Structs end in braces, so that it does not matter what is put between them.
  refine Lexeme.Delimited.append ?_ fun _ => ⟨trivial, trivial, trivial⟩
  induction structs with
  | nil => exact fun _ => trivial
  | cons s structs ih =>
    obtain ⟨hs, hstructs⟩ := List.forall_mem_cons.1 h
    cases structs with
    | nil =>
      rw [List.map_cons, List.map_nil, List.intercalate_singleton]
      exact Struct.delimited_lexemes hs
    | cons next structs =>
      rw [List.map_cons, List.map_cons, List.intercalate_cons_cons, ← List.map_cons]
      refine ((Struct.delimited_lexemes hs).append ?_).append (ih hstructs)
      exact fun _ => ⟨trivial, trivial, trivial, trivial, trivial⟩

/-! ## Reading them back -/

/-- Wherever they stand, the lexemes take the parser from one state to the other. -/
def Parser.Reads (s : Parser.State) (ls : List Lexeme) (s' : Parser.State) : Prop :=
  ∀ p, Parser.run s (Lexeme.place p ls) = .ok s'

theorem Parser.Reads.append {s s' s'' : Parser.State} {front back : List Lexeme}
    (hfront : Parser.Reads s front s') (hback : Parser.Reads s' back s'') :
    Parser.Reads s (front ++ back) s'' := by
  intro p
  rw [Lexeme.place_append, Parser.run_append, hfront p]
  exact hback _

theorem Lexeme.token?_plain {name : String} (h : ¬ IsKeyword name) (p : Position) :
    (Lexeme.plain name).token? p = some ⟨.ident, name, p⟩ := by
  have hkind : Lexeme.wordKind ⟨false, false⟩ name.toList = .ident :=
    Lexeme.wordKind_eq_ident_iff.2 ⟨rfl, by rwa [String.ofList_toList]⟩
  have hspelling : (⟨false, false⟩ : TypeModifiers).spelling ++ name.toList = name.toList := rfl
  rw [Lexeme.plain, Lexeme.token?, Lexeme.content?, hkind, hspelling, Option.map_some,
    String.ofList_toList]

/-- The type of a well-formed field is a token that may be a type. -/
theorem Field.exists_token?_type {f : Field} (hf : f.WellFormed) (p : Position) :
    ∃ kind ∈ [TokenKind.ident, .modifiedType],
      (Lexeme.word f.modifiers f.baseType.toList).token? p = some ⟨kind, f.sourceType, p⟩ := by
  have hsource : String.ofList (f.modifiers.spelling ++ f.baseType.toList) = f.sourceType := by
    rw [String.ofList_append, String.ofList_toList]
    rfl
  refine ⟨Lexeme.wordKind f.modifiers f.baseType.toList, ?_, ?_⟩
  · -- A keyword is a type behind modifiers, and otherwise none.
    by_cases hmarks : (f.isSlice || f.isPointer) = true
    · have hkind : Lexeme.wordKind f.modifiers f.baseType.toList = .modifiedType :=
        Lexeme.wordKind_eq_modifiedType_iff.2 hmarks
      simp [hkind]
    · obtain ⟨hslice, hpointer⟩ : f.isSlice = false ∧ f.isPointer = false := by simpa using hmarks
      have hkind : Lexeme.wordKind f.modifiers f.baseType.toList = .ident := by
        refine Lexeme.wordKind_eq_ident_iff.2 ⟨?_, ?_⟩
        · rw [Field.modifiers, hslice, hpointer]
        · rw [String.ofList_toList]
          exact hf.baseType_not_keyword hslice hpointer
      simp [hkind]
  · rw [← hsource]
    rfl

theorem Field.ofSource_sourceType {f : Field} (hf : f.WellFormed) :
    Field.ofSource f.name f.sourceType = { f with tag? := none, comment? := none } := by
  have hread : TypeModifiers.read f.sourceType.toList = (f.modifiers, f.baseType.toList) := by
    rw [Field.sourceType, String.toList_append, String.toList_ofList]
    exact Lexeme.read_word hf.baseType_isWord.1
  have hwritten := hf.writtenName_eq
  have hprimitive : f.isPrimitive = isPrimitiveType f.baseType :=
    Bool.eq_iff_iff.2 (hf.isPrimitive_iff.trans isPrimitiveType_iff.symm)
  have hmap := hf.isMap_eq
  unfold Field.ofSource
  rw [hread]
  cases f
  simp only [Field.modifiers, String.ofList_toList] at *
  rw [hwritten, hprimitive, hmap]

/-- The name and the type of a field give two tokens. -/
theorem Field.exists_place_words {f : Field} (hf : f.WellFormed) (p : Position) :
    ∃ q r kind, kind ∈ [TokenKind.ident, .modifiedType] ∧
      Lexeme.place p f.words = [⟨.ident, f.name, q⟩, ⟨kind, f.sourceType, r⟩] := by
  -- The blanks only move the place on.
  have hgap (p : Position) (ls : List Lexeme) :
      Lexeme.place p (.gap :: ls) = Lexeme.place (p.after Lexeme.gap.spelling) ls := by
    rw [Lexeme.place_cons]
    rfl
  rw [Field.words, hgap, hgap, Lexeme.place_cons, Lexeme.token?_plain hf.name_not_keyword, hgap,
    Lexeme.place_cons]
  obtain ⟨kind, hkind, htype⟩ := Field.exists_token?_type hf _
  rw [htype]
  exact ⟨_, _, kind, hkind, rfl⟩

/-- The name and the type of a field are read as the field without its tag and its comment. -/
theorem Field.reads_words {f : Field} (hf : f.WellFormed) (done : List Struct) (name : Token)
    (fields : List Field) :
    Parser.Reads ⟨done, .body name fields⟩ f.words
      ⟨done, .fieldTyped name fields { f with tag? := none, comment? := none }⟩ := by
  intro p
  obtain ⟨q, r, kind, hkind, hplace⟩ := Field.exists_place_words hf p
  have hname : Parser.step ⟨done, .body name fields⟩ ⟨.ident, f.name, q⟩ =
      .ok ⟨done, .fieldNamed name fields ⟨.ident, f.name, q⟩⟩ := rfl
  have htype : Parser.step ⟨done, .fieldNamed name fields ⟨.ident, f.name, q⟩⟩
      ⟨kind, f.sourceType, r⟩ =
      .ok ⟨done, .fieldTyped name fields { f with tag? := none, comment? := none }⟩ := by
    rw [← Field.ofSource_sourceType hf]
    simp only [List.mem_cons, List.not_mem_nil, or_false] at hkind
    rcases hkind with rfl | rfl <;> rfl
  rw [hplace, Parser.run, hname]
  simp only
  rw [Parser.run, htype]
  rfl

/-- What stands behind the type gives the field its tag and its comment. -/
theorem Field.reads_trailers {f : Field} (hf : f.WellFormed) (done : List Struct) (name : Token)
    (fields : List Field) :
    Parser.Reads ⟨done, .fieldTyped name fields { f with tag? := none, comment? := none }⟩
      (f.tagLexemes ++ (f.commentLexemes ++ [.newline])) ⟨done, .body name (f :: fields)⟩ := by
  intro p
  -- The blank behind the slashes is no part of the comment.
  have htrim (comment : String) (hcomment : f.comment? = some comment) :
      String.ofList (trim (' ' :: comment.toList)) = comment := by
    rw [trim_cons_of_isWhiteSpace _ (by decide), (hf.comment comment hcomment).2,
      String.ofList_toList]
  unfold Field.tagLexemes Field.commentLexemes
  obtain ⟨writtenName, fieldName, baseType, isPointer, isSlice, isPrimitive, isMap, tag?,
    comment?⟩ := f
  cases tag? <;> cases comment? <;>
    simp [Lexeme.place_cons, Lexeme.token?, Lexeme.content?, Lexeme.gap, Parser.run, Parser.step,
      Parser.stepBody, TokenKind.isTrivia, htrim]

/-- The line of a field is read as the next field. -/
theorem Field.reads_line {f : Field} (hf : f.WellFormed) (done : List Struct) (name : Token)
    (fields : List Field) :
    Parser.Reads ⟨done, .body name fields⟩ f.line ⟨done, .body name (f :: fields)⟩ :=
  (Field.reads_words hf done name fields).append (Field.reads_trailers hf done name fields)

/-- The lines of fields are read one after the other, onto the fields before them. -/
theorem Field.reads_lines {fs : List Field} (hfs : ∀ f ∈ fs, f.WellFormed) (done : List Struct)
    (name : Token) (fields : List Field) :
    Parser.Reads ⟨done, .body name fields⟩ (fs.flatMap Field.line)
      ⟨done, .body name (fs.reverse ++ fields)⟩ := by
  induction fs generalizing fields with
  | nil => exact fun _ => rfl
  | cons f fs ih =>
    obtain ⟨hf, hfs⟩ := List.forall_mem_cons.1 hfs
    have hlater := ih hfs (f :: fields)
    rw [List.flatMap_cons, List.reverse_cons, List.append_assoc]
    exact (Field.reads_line hf done name fields).append hlater

/-- The lexemes of a struct are read as the next struct. -/
theorem Struct.reads_lexemes {s : Struct} (hs : s.WellFormed) (done : List Struct) :
    Parser.Reads ⟨done, .between⟩ s.lexemes ⟨s :: done, .between⟩ := by
  intro p
  -- The opening leaves the parser with the name's token, wherever that stands.
  have hopening : ∃ q, Parser.run ⟨done, .between⟩ (Lexeme.place p s.opening) =
      .ok ⟨done, .body ⟨.ident, s.name, q⟩ []⟩ := by
    simp only [Struct.opening, Lexeme.place_cons, Lexeme.token?_plain hs.name_not_keyword]
    exact ⟨_, rfl⟩
  obtain ⟨q, hopening⟩ := hopening
  have hbody : Parser.Reads ⟨done, .body ⟨.ident, s.name, q⟩ []⟩
      (s.fields.flatMap Field.line ++ [.rightBrace]) ⟨s :: done, .between⟩ := by
    have hlines := Field.reads_lines hs.fields done ⟨.ident, s.name, q⟩ []
    rw [List.append_nil] at hlines
    refine hlines.append fun p => ?_
    -- The fields are kept with the latest first, until the brace turns them round.
    show Except.ok (⟨⟨s.name, s.fields.reverse.reverse⟩ :: done, .between⟩ : Parser.State) = _
    rw [List.reverse_reverse]
  rw [Struct.lexemes, List.append_assoc, Lexeme.place_append, Parser.run_append, hopening]
  exact hbody _

/-- The lexemes of a file are read as its structs. -/
theorem reads_fileLexemes {structs : List Struct} (h : ∀ s ∈ structs, s.WellFormed)
    (done : List Struct) :
    Parser.Reads ⟨done, .between⟩ (fileLexemes structs) ⟨structs.reverse ++ done, .between⟩ := by
  have hnewline (done : List Struct) :
      Parser.Reads ⟨done, .between⟩ [.newline] ⟨done, .between⟩ := fun _ => rfl
  unfold fileLexemes
  refine Parser.Reads.append ?_ (hnewline _)
  induction structs generalizing done with
  | nil => exact fun _ => rfl
  | cons s structs ih =>
    obtain ⟨hs, hstructs⟩ := List.forall_mem_cons.1 h
    have hfirst := Struct.reads_lexemes hs done
    cases structs with
    | nil =>
      rw [List.map_cons, List.map_nil, List.intercalate_singleton]
      exact hfirst
    | cons next structs =>
      have hstate : (s :: next :: structs).reverse ++ done =
          (next :: structs).reverse ++ s :: done := by simp
      have hseparator := (hnewline (s :: done)).append (hnewline (s :: done))
      rw [List.map_cons, List.map_cons, List.intercalate_cons_cons, ← List.map_cons,
        List.append_assoc, hstate]
      exact hfirst.append (hseparator.append (ih hstructs (s :: done)))

/-- Well-formed structs are read back from the text they are written in. -/
theorem parse_sourceFile {structs : List Struct} (h : ∀ s ∈ structs, s.WellFormed) :
    parse (sourceFile structs) = .ok structs := by
  have htokens : tokenize (sourceFile structs) =
      .ok (Lexeme.place .start (fileLexemes structs) ++
        [⟨.eof, "", Lexeme.placeAfter .start (fileLexemes structs)⟩]) :=
    tokenize_eq_ok_iff.2
      ⟨fileLexemes structs, spelling_fileLexemes structs, delimited_fileLexemes h [], rfl⟩
  have hrun := reads_fileLexemes h [] .start
  rw [parse, htokens]
  show parseTokens _ = _
  rw [parseTokens, Lexeme.beforeEof_place_append, Parser.State.initial, hrun]
  show Except.ok (structs.reverse ++ []).reverse = _
  rw [List.append_nil, List.reverse_reverse]

/-- Some text declares the structs if and only if they are well formed, and then the text that they
    are written in does. -/
theorem exists_parse_eq_ok_iff (structs : List Struct) :
    ((∃ text, parse text = .ok structs) ↔ ∀ s ∈ structs, s.WellFormed) ∧
      (parse (sourceFile structs) = .ok structs ↔ ∀ s ∈ structs, s.WellFormed) := by
  have hread {text : String} (h : parse text = .ok structs) : ∀ s ∈ structs, s.WellFormed :=
    Struct.wellFormed_of_parse_eq_ok h
  have hwritten (h : ∀ s ∈ structs, s.WellFormed) : parse (sourceFile structs) = .ok structs :=
    parse_sourceFile h
  refine ⟨⟨?_, ?_⟩, hread, hwritten⟩
  · rintro ⟨text, h⟩
    exact hread h
  · intro h
    exact ⟨sourceFile structs, hwritten h⟩

/-- A keyword behind a modifier, a tag of two lines and an empty comment are read back. -/
example :
    let structs : List Struct :=
      [⟨"A", [{ Field.ofSource "B" "[]type" with tag? := some "\n", comment? := some "" }]⟩]
    parse (sourceFile structs) = .ok structs := by
  decide +kernel

end StructSchema
