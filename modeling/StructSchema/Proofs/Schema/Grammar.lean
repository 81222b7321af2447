import Mathlib.Tactic.MkIffOfInductiveProp
import StructSchema.Schema.Struct

/-!
# The grammar of declarations

Which lists of tokens are struct declarations, said without the parser:

```
program := (trivia* struct)* trivia*
struct  := `type` trivia* name trivia* `struct` trivia* `{` (trivia* field)* trivia* `}`
field   := name trivia* type [tag] [comment]
trivia  := newline | comment
```

where a type is a plain or a modified word, and the tag and the comment of a field are taken
whenever they directly follow. A rule relates the tokens that it starts from, the tree that it
builds and the tokens that it leaves.

## Key results

- `Grammar.FieldTree.field`, `Grammar.StructTree.struct`: what the trees stand for
- `Grammar.Program.builtFrom`: the tokens in a tree are tokens of the list, of the kinds and in the
  order that the grammar asks for
-/

namespace StructSchema.Grammar

/-! ## Trees -/

/-- The tokens that a field is built from. -/
structure FieldTree where
  name : Token
  type : Token
  tag? : Option Token
  comment? : Option Token

/-- The field of a tree: its name and its type as they are written, with the texts of its tag and of
    its comment. -/
def FieldTree.field (f : FieldTree) : Field :=
  { Field.ofSource f.name.text f.type.text with
    tag? := f.tag?.map (·.text), comment? := f.comment?.map (·.text) }

/-- The tokens that a struct is built from. -/
structure StructTree where
  name : Token
  fields : List FieldTree

/-- The struct of a tree. -/
def StructTree.struct (s : StructTree) : Struct := ⟨s.name.text, s.fields.map FieldTree.field⟩

/-! ## Rules -/

/-- Newlines and comments, any number of them. -/
def Trivia (ts : List Token) : Prop := ∀ t ∈ ts, t.kind.isTrivia = true

/-- A token that may be missing, taken whenever it is there. -/
@[mk_iff]
inductive Trailer (kind : TokenKind) : List Token → Option Token → List Token → Prop
  | taken {t rest} : t.kind = kind → Trailer kind (t :: rest) (some t) rest
  | missing {rest} : (∀ t, rest.head? = some t → t.kind ≠ kind) → Trailer kind rest none rest

/-- A name, a type, and a tag and a comment if they directly follow. -/
@[mk_iff]
inductive FieldAt : List Token → FieldTree → List Token → Prop
  | intro {name gap type afterType tag? afterTag comment? rest} :
      name.kind = .ident → Trivia gap → type.kind ∈ [TokenKind.ident, .modifiedType] →
      Trailer .tag afterType tag? afterTag → Trailer .comment afterTag comment? rest →
      FieldAt (name :: (gap ++ type :: afterType)) ⟨name, type, tag?, comment?⟩ rest

/-- Fields, each behind newlines and comments. -/
@[mk_iff]
inductive FieldsAt : List Token → List FieldTree → List Token → Prop
  | nil {rest} : FieldsAt rest [] rest
  | cons {gap start f more fs rest} :
      Trivia gap → FieldAt start f more → FieldsAt more fs rest →
      FieldsAt (gap ++ start) (f :: fs) rest

/-- The declaration of a struct, with newlines and comments between any two parts of it. -/
@[mk_iff]
inductive StructAt : List Token → StructTree → List Token → Prop
  | intro {keyword gap₁ name gap₂ structKeyword gap₃ opening body fields gap₄ closing rest} :
      keyword.kind = .typeKeyword → Trivia gap₁ → name.kind = .ident → Trivia gap₂ →
      structKeyword.kind = .structKeyword → Trivia gap₃ → opening.kind = .leftBrace →
      FieldsAt body fields (gap₄ ++ closing :: rest) → Trivia gap₄ → closing.kind = .rightBrace →
      StructAt
        (keyword :: (gap₁ ++ name :: (gap₂ ++ structKeyword :: (gap₃ ++ opening :: body))))
        ⟨name, fields⟩ rest

/-- Declarations up to the end, each behind newlines and comments, with more of these at the end. -/
@[mk_iff]
inductive Program : List Token → List StructTree → Prop
  | nil {gap} : Trivia gap → Program gap []
  | cons {gap start s more ss} :
      Trivia gap → StructAt start s more → Program more ss → Program (gap ++ start) (s :: ss)

/-! ## Trivia -/

theorem trivia_nil : Trivia [] := nofun

theorem trivia_cons {t : Token} {ts : List Token} :
    Trivia (t :: ts) ↔ t.kind.isTrivia = true ∧ Trivia ts := List.forall_mem_cons

theorem isTrivia_eq_false_of_mem {kind : TokenKind} {kinds : List TokenKind}
    (h : kinds.all (fun k => !k.isTrivia) = true) (hkind : kind ∈ kinds) :
    kind.isTrivia = false := by
  simpa using List.all_eq_true.1 h kind hkind

/-! ## First tokens -/

/-- A field starts with its name. -/
theorem FieldAt.kind_of_cons {t : Token} {ts rest : List Token} {f : FieldTree}
    (h : FieldAt (t :: ts) f rest) : t.kind = .ident := by
  obtain ⟨_, _, _, _, _, _, _, hname, -, -, -, -, h, -⟩ := (fieldAt_iff ..).1 h
  obtain ⟨rfl, -⟩ := List.cons.inj h
  exact hname

/-- A declaration starts with the word `type`. -/
theorem StructAt.kind_of_cons {t : Token} {ts rest : List Token} {s : StructTree}
    (h : StructAt (t :: ts) s rest) : t.kind = .typeKeyword := by
  obtain ⟨_, _, _, _, _, _, _, _, _, _, _, hkeyword, -, -, -, -, -, -, -, -, -, h, -⟩ :=
    (structAt_iff ..).1 h
  obtain ⟨rfl, -⟩ := List.cons.inj h
  exact hkeyword

/-! ## The tokens in a tree -/

/-- The field is built from tokens of the list: its name, and its type behind it with nothing but
    newlines and comments between, and a tag and a comment. -/
structure FieldTree.BuiltFrom (ts : List Token) (f : FieldTree) : Prop where
  written : ∃ front gap back, Trivia gap ∧ ts = front ++ f.name :: (gap ++ f.type :: back)
  name_kind : f.name.kind = .ident
  type_kind : f.type.kind ∈ [TokenKind.ident, .modifiedType]
  tag : ∀ t, f.tag? = some t → t ∈ ts ∧ t.kind = .tag
  comment : ∀ t, f.comment? = some t → t ∈ ts ∧ t.kind = .comment

/-- The struct is built from tokens of the list. -/
structure StructTree.BuiltFrom (ts : List Token) (s : StructTree) : Prop where
  name_mem : s.name ∈ ts
  name_kind : s.name.kind = .ident
  fields : ∀ f ∈ s.fields, f.BuiltFrom ts

theorem FieldTree.BuiltFrom.of_suffix {ts more : List Token} {f : FieldTree}
    (h : f.BuiltFrom more) (hsuffix : more <:+ ts) : f.BuiltFrom ts := by
  obtain ⟨before, rfl⟩ := hsuffix
  obtain ⟨front, gap, back, hgap, hmore⟩ := h.written
  refine ⟨⟨before ++ front, gap, back, hgap, by rw [hmore, List.append_assoc]⟩, h.name_kind,
    h.type_kind, fun t ht => ?_, fun t ht => ?_⟩
  · exact ⟨List.mem_append_right _ (h.tag t ht).1, (h.tag t ht).2⟩
  · exact ⟨List.mem_append_right _ (h.comment t ht).1, (h.comment t ht).2⟩

theorem StructTree.BuiltFrom.of_suffix {ts more : List Token} {s : StructTree}
    (h : s.BuiltFrom more) (hsuffix : more <:+ ts) : s.BuiltFrom ts :=
  ⟨hsuffix.subset h.name_mem, h.name_kind, fun f hf => (h.fields f hf).of_suffix hsuffix⟩

/-- A trailer that is taken is a token of its kind, and what is left is a suffix. -/
theorem Trailer.builtFrom {kind : TokenKind} {ts rest : List Token} {t? : Option Token}
    (h : Trailer kind ts t? rest) :
    rest <:+ ts ∧ ∀ t, t? = some t → t ∈ ts ∧ t.kind = kind := by
  cases h with
  | taken hkind =>
    refine ⟨List.suffix_cons .., fun t ht => ?_⟩
    cases ht
    exact ⟨List.mem_cons_self, hkind⟩
  | missing _ => exact ⟨List.suffix_refl _, nofun⟩

theorem FieldAt.builtFrom {ts rest : List Token} {f : FieldTree} (h : FieldAt ts f rest) :
    rest <:+ ts ∧ f.BuiltFrom ts := by
  obtain @⟨name, gap, type, afterType, tag?, afterTag, comment?, rest, hname, hgap, htype, htag,
    hcomment⟩ := h
  obtain ⟨htagRest, htag⟩ := htag.builtFrom
  obtain ⟨hcommentRest, hcomment⟩ := hcomment.builtFrom
  -- The tag is looked for behind the type and the comment behind the tag.
  have behindType : afterType <:+ name :: (gap ++ type :: afterType) :=
    ⟨name :: gap ++ [type], by simp⟩
  refine ⟨(hcommentRest.trans htagRest).trans behindType, ⟨[], gap, afterType, hgap, rfl⟩, hname,
    htype, fun t ht => ?_, fun t ht => ?_⟩
  · exact ⟨behindType.subset (htag t ht).1, (htag t ht).2⟩
  · exact ⟨(htagRest.trans behindType).subset (hcomment t ht).1, (hcomment t ht).2⟩

theorem FieldsAt.builtFrom {ts rest : List Token} {fs : List FieldTree} (h : FieldsAt ts fs rest) :
    rest <:+ ts ∧ ∀ f ∈ fs, f.BuiltFrom ts := by
  induction h with
  | nil => exact ⟨List.suffix_refl _, List.forall_mem_nil _⟩
  | @cons gap start f more fs rest _ hf _ ih =>
    obtain ⟨hmore, hf⟩ := hf.builtFrom
    have hstart : start <:+ gap ++ start := List.suffix_append ..
    refine ⟨(ih.1.trans hmore).trans hstart, List.forall_mem_cons.2 ⟨hf.of_suffix hstart, ?_⟩⟩
    exact fun f hf => (ih.2 f hf).of_suffix (hmore.trans hstart)

theorem StructAt.builtFrom {ts rest : List Token} {s : StructTree} (h : StructAt ts s rest) :
    rest <:+ ts ∧ s.BuiltFrom ts := by
  obtain @⟨keyword, gap₁, name, gap₂, structKeyword, gap₃, opening, body, fields, gap₄, closing,
    rest, _, _, hname, _, _, _, _, hfields, _, _⟩ := h
  obtain ⟨hrest, hfields⟩ := hfields.builtFrom
  have hbody : body <:+
      keyword :: (gap₁ ++ name :: (gap₂ ++ structKeyword :: (gap₃ ++ opening :: body))) :=
    ⟨keyword :: gap₁ ++ name :: gap₂ ++ structKeyword :: gap₃ ++ [opening], by simp⟩
  have hclosing : rest <:+ gap₄ ++ closing :: rest := ⟨gap₄ ++ [closing], by simp⟩
  exact ⟨(hclosing.trans hrest).trans hbody, by simp, hname,
    fun f hf => (hfields f hf).of_suffix hbody⟩

/-- The structs of a program are built from its tokens. -/
theorem Program.builtFrom {ts : List Token} {ss : List StructTree} (h : Program ts ss) :
    ∀ s ∈ ss, s.BuiltFrom ts := by
  induction h with
  | nil _ => exact List.forall_mem_nil _
  | @cons gap start s more ss _ hs _ ih =>
    obtain ⟨hmore, hs⟩ := hs.builtFrom
    have hstart : start <:+ gap ++ start := List.suffix_append ..
    refine List.forall_mem_cons.2 ⟨hs.of_suffix hstart, ?_⟩
    exact fun s hs => (ih s hs).of_suffix (hmore.trans hstart)

end StructSchema.Grammar
