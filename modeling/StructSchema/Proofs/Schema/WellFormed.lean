import StructSchema.Proofs.Schema.Parsing
import StructSchema.Proofs.Text.Trimming
import StructSchema.Proofs.Token.Placing

/-!
# What is read is well formed

The structs that a text declares are not any structs. Their names are plain words, what they say of
their types agrees, and no tag and no comment has a character that would end it.

## Key results

- `Field.wellFormed_of_builtFrom`: the field of a tree that is built from the tokens of a text
- `Struct.wellFormed_of_parse_eq_ok`: the structs that a text declares are well formed
-/

namespace StructSchema

open StructSchema.Text StructSchema.Grammar

/-- A plain word. -/
def IsWord (text : String) : Prop :=
  text.toList.head?.any isWordStart = true ∧ ∀ c ∈ text.toList, isWordChar c = true

instance (text : String) : Decidable (IsWord text) :=
  decidable_of_iff
    (text.toList.head?.any isWordStart = true ∧ text.toList.all isWordChar = true)
    (and_congr_right fun _ => List.all_eq_true)

/-- A word that has a meaning of its own. -/
def IsKeyword (text : String) : Prop := text = "type" ∨ text = "struct"

/-- What holds of every field that is read. -/
structure Field.WellFormed (f : Field) : Prop where
  writtenName_eq : f.writtenName = f.name
  name_isWord : IsWord f.name
  name_not_keyword : ¬ IsKeyword f.name
  baseType_isWord : IsWord f.baseType
  baseType_not_keyword : f.isSlice = false → f.isPointer = false → ¬ IsKeyword f.baseType
  isPrimitive_iff : f.isPrimitive = true ↔ f.baseType ∈ primitiveTypes.map Prod.fst
  isMap_eq : f.isMap = false
  tag : ∀ tag, f.tag? = some tag → backtick ∉ tag.toList
  comment : ∀ comment, f.comment? = some comment →
    '\n' ∉ comment.toList ∧ trim comment.toList = comment.toList

/-- What holds of every struct that is read. -/
structure Struct.WellFormed (s : Struct) : Prop where
  name_isWord : IsWord s.name
  name_not_keyword : ¬ IsKeyword s.name
  fields : ∀ f ∈ s.fields, f.WellFormed

/-! ## Words -/

theorem IsWord.notMem {text : String} (h : IsWord text) {c : Char} (hc : isWordChar c = false) :
    c ∉ text.toList := by
  intro hmem
  rw [h.2 c hmem] at hc
  cases hc

namespace Lexeme

theorem wordKind_eq_ident_iff {modifiers : TypeModifiers} {name : List Char} :
    wordKind modifiers name = .ident ↔
      modifiers = ⟨false, false⟩ ∧ ¬ IsKeyword (String.ofList name) := by
  obtain ⟨isSlice, isPointer⟩ := modifiers
  have hkeyword : IsKeyword (String.ofList name) ↔
      name = "type".toList ∨ name = "struct".toList := by
    simp only [IsKeyword, ← String.toList_inj, String.toList_ofList]
  rw [hkeyword]
  unfold wordKind
  by_cases hmarks : (isSlice || isPointer) = true
  · -- A word behind modifiers is a type.
    simp only [hmarks, if_true, reduceCtorEq, false_iff]
    intro h
    obtain ⟨hnone, -⟩ := h
    cases hnone
    cases hmarks
  · rw [if_neg hmarks]
    obtain ⟨rfl, rfl⟩ : isSlice = false ∧ isPointer = false := by simpa using hmarks
    by_cases htype : name = "type".toList
    · rw [if_pos htype]
      simp [htype]
    rw [if_neg htype]
    by_cases hstruct : name = "struct".toList
    · rw [if_pos hstruct]
      simp [hstruct]
    · rw [if_neg hstruct]
      simp only [htype, hstruct, or_self, not_false_eq_true, and_self]

theorem wordKind_eq_modifiedType_iff {modifiers : TypeModifiers} {name : List Char} :
    wordKind modifiers name = .modifiedType ↔
      (modifiers.isSlice || modifiers.isPointer) = true := by
  unfold wordKind
  split
  · next hmarks => simp [hmarks]
  · next hmarks =>
    split
    · simp [hmarks]
    · split <;> simp [hmarks]

/-- The modifiers of a word are read off it as they are written. -/
theorem read_word {modifiers : TypeModifiers} {name : List Char}
    (h : name.head?.any isWordStart = true) :
    TypeModifiers.read (modifiers.spelling ++ name) = (modifiers, name) := by
  cases name with
  | nil => cases h
  | cons c tail =>
    have hc : isWordStart c = true := by simpa using h
    -- No word starts with a bracket or a star.
    apply TypeModifiers.read_spelling_append <;>
      · simp only [List.head?_cons, ne_eq, Option.some.injEq]
        intro heq
        subst heq
        revert hc
        decide +kernel

end Lexeme

/-! ## Tokens of a text -/

section

variable {p : Position} {ls : List Lexeme} {t : Token}

/-- The text of a name is a plain word and no keyword. -/
theorem Token.isWord_of_mem_place (hls : ∀ l ∈ ls, l.WellFormed) (ht : t ∈ Lexeme.place p ls)
    (hkind : t.kind = .ident) : IsWord t.text ∧ ¬ IsKeyword t.text := by
  obtain ⟨l, hl, q, htoken⟩ := Lexeme.exists_of_mem_place ht
  obtain ⟨modifiers, name, rfl, htext, hword⟩ :=
    Lexeme.eq_word_of_token? htoken (by simp [hkind])
  obtain ⟨rfl, hkeyword⟩ := Lexeme.wordKind_eq_ident_iff.1 (hword.symm.trans hkind)
  have htext : t.text = String.ofList name := by
    rw [← String.toList_inj, htext, String.toList_ofList]
    rfl
  refine ⟨?_, htext ▸ hkeyword⟩
  rw [IsWord, htext, String.toList_ofList]
  exact hls _ hl

/-- The text of a type is a plain word behind modifiers, and no keyword if there are none. -/
theorem Token.read_of_mem_place (hls : ∀ l ∈ ls, l.WellFormed) (ht : t ∈ Lexeme.place p ls)
    (hkind : t.kind ∈ [TokenKind.ident, .modifiedType]) :
    ∃ modifiers name, TypeModifiers.read t.text.toList = (modifiers, name) ∧
      IsWord (String.ofList name) ∧
      (modifiers = ⟨false, false⟩ → ¬ IsKeyword (String.ofList name)) := by
  obtain ⟨l, hl, q, htoken⟩ := Lexeme.exists_of_mem_place ht
  obtain ⟨modifiers, name, rfl, htext, hword⟩ := Lexeme.eq_word_of_token? htoken hkind
  have hwf : (Lexeme.word modifiers name).WellFormed := hls _ hl
  refine ⟨modifiers, name, htext ▸ Lexeme.read_word hwf.1, ?_, ?_⟩
  · rw [IsWord, String.toList_ofList]
    exact hwf
  · intro hnone
    subst hnone
    -- Without modifiers the word is a name, since it is no modified type.
    have hident : t.kind = .ident := by
      simp only [List.mem_cons, List.not_mem_nil, or_false] at hkind
      refine hkind.resolve_right fun hmodified => ?_
      have := Lexeme.wordKind_eq_modifiedType_iff.1 (hword.symm.trans hmodified)
      simp at this
    exact (Lexeme.wordKind_eq_ident_iff.1 (hword.symm.trans hident)).2

theorem Token.backtick_notMem_of_mem_place (hls : ∀ l ∈ ls, l.WellFormed)
    (ht : t ∈ Lexeme.place p ls) (hkind : t.kind = .tag) : backtick ∉ t.text.toList := by
  obtain ⟨l, hl, q, htoken⟩ := Lexeme.exists_of_mem_place ht
  obtain rfl := Lexeme.eq_tag_of_token? htoken hkind
  exact hls _ hl

theorem Token.trim_eq_of_mem_place (hls : ∀ l ∈ ls, l.WellFormed) (ht : t ∈ Lexeme.place p ls)
    (hkind : t.kind = .comment) :
    '\n' ∉ t.text.toList ∧ trim t.text.toList = t.text.toList := by
  obtain ⟨l, hl, q, htoken⟩ := Lexeme.exists_of_mem_place ht
  obtain ⟨body, rfl, htext⟩ := Lexeme.eq_comment_of_token? htoken hkind
  have hbody : '\n' ∉ body := hls _ hl
  -- Trimming brings in no character, and trimming again takes none away.
  rw [htext]
  exact ⟨fun hmem => hbody (mem_of_mem_trim hmem), trim_trim body⟩

end

/-! ## Fields and structs -/

/-- A field that is built from the tokens of a text is well formed. -/
theorem Field.wellFormed_of_builtFrom {p : Position} {ls : List Lexeme} {f : FieldTree}
    (hls : ∀ l ∈ ls, l.WellFormed) (hf : f.BuiltFrom (Lexeme.place p ls)) :
    f.field.WellFormed := by
  obtain ⟨front, gap, back, -, htokens⟩ := hf.written
  have hnameMem : f.name ∈ Lexeme.place p ls := by
    rw [htokens]
    simp
  have htypeMem : f.type ∈ Lexeme.place p ls := by
    rw [htokens]
    simp
  obtain ⟨hname, hnameKeyword⟩ := Token.isWord_of_mem_place hls hnameMem hf.name_kind
  obtain ⟨⟨isSlice, isPointer⟩, base, hread, hbase, hbaseKeyword⟩ :=
    Token.read_of_mem_place hls htypeMem hf.type_kind
  -- The names and the type are words of the text; the rest is computed from the type's base.
  refine
    { writtenName_eq := rfl, name_isWord := hname, name_not_keyword := hnameKeyword
      baseType_isWord := ?_, baseType_not_keyword := ?_, isPrimitive_iff := isPrimitiveType_iff
      isMap_eq := rfl, tag := ?_, comment := ?_ }
  · simpa [FieldTree.field, Field.ofSource, hread] using hbase
  · intro hslice hpointer
    simp only [FieldTree.field, Field.ofSource, hread] at hslice hpointer ⊢
    subst hslice hpointer
    exact hbaseKeyword rfl
  · intro tag htag
    obtain ⟨t, ht, rfl⟩ := Option.map_eq_some_iff.1 htag
    exact Token.backtick_notMem_of_mem_place hls (hf.tag t ht).1 (hf.tag t ht).2
  · intro comment hcomment
    obtain ⟨t, ht, rfl⟩ := Option.map_eq_some_iff.1 hcomment
    exact Token.trim_eq_of_mem_place hls (hf.comment t ht).1 (hf.comment t ht).2

/-- The structs that a text declares are well formed. -/
theorem Struct.wellFormed_of_parse_eq_ok {text : String} {structs : List Struct}
    (h : parse text = .ok structs) : ∀ s ∈ structs, s.WellFormed := by
  obtain ⟨tokens, htokens, hparse⟩ : ∃ tokens, tokenize text = .ok tokens ∧
      Parser.parseFrom .initial (Token.beforeEof tokens) = .ok structs := by
    cases htokens : tokenize text with
    | error e => rw [parse, htokens] at h; cases h
    | ok tokens => rw [parse, htokens] at h; exact ⟨tokens, rfl, h⟩
  obtain ⟨ls, -, hls, rfl⟩ := tokenize_eq_ok_iff.1 htokens
  obtain ⟨trees, hprogram, rfl⟩ := Parser.parseFrom_initial_eq_ok_iff.1 hparse
  rw [Lexeme.beforeEof_place_append] at hprogram
  -- Every struct is that of a tree, which is built from the tokens of the text.
  intro s hs
  obtain ⟨tree, htree, rfl⟩ := List.mem_map.1 hs
  have built := hprogram.builtFrom tree htree
  obtain ⟨hname, hkeyword⟩ :=
    Token.isWord_of_mem_place hls.wellFormed built.name_mem built.name_kind
  refine ⟨hname, hkeyword, fun f hf => ?_⟩
  obtain ⟨fieldTree, hfieldTree, rfl⟩ := List.mem_map.1 hf
  exact Field.wellFormed_of_builtFrom hls.wellFormed (built.fields fieldTree hfieldTree)

end StructSchema
