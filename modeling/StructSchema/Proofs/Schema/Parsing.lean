import StructSchema.Proofs.Schema.Grammar
import StructSchema.Schema.Parser

/-!
# The parser reads the grammar

The parser accepts the lists of tokens that the grammar derives, and gives the structs of the
derived trees. For each phase of the parser there is a condition on the tokens that may follow in it
and on the structs that they complete, and reading a token leads from the condition of one phase to
that of the next.

## Key results

- `Parser.parseFrom_cons`: reading one token after the other
- `Parser.bodyRest_cons`, `Parser.programRest_cons`: the grammar, one token after the other
- `Parser.parseFrom_eq_ok_iff`: what is accepted from any state of the parser
- `parseTokens_eq_ok_iff`: what is accepted from the start
-/

namespace StructSchema

open StructSchema.Grammar

namespace Parser

/-! ## Reading from a state -/

/-- Reads tokens up to the last one and judges the state that they lead to. -/
def parseFrom (s : State) (ts : List Token) : Except Error (List Struct) := (run s ts).bind finish

theorem parseFrom_nil (s : State) : parseFrom s [] = finish s := rfl

/-- Reading one token after the other. -/
theorem parseFrom_cons (s : State) (t : Token) (ts : List Token) :
    parseFrom s (t :: ts) = (step s t).bind fun s' => parseFrom s' ts := by
  rw [parseFrom, run]
  cases step s t with
  | error e => rfl
  | ok s' => rfl

/-- Tokens are read one after the other. -/
theorem run_append_eq_ok_iff {s s' : State} {front back : List Token} :
    run s (front ++ back) = .ok s' ↔ ∃ mid, run s front = .ok mid ∧ run mid back = .ok s' := by
  rw [run_append]
  cases run s front with
  | error e => simp [Except.bind]
  | ok mid => simp [Except.bind]

theorem run_singleton (s : State) (t : Token) : run s [t] = step s t := by
  rw [run]
  cases step s t <;> rfl

theorem parseFrom_append (s : State) (front back : List Token) :
    parseFrom s (front ++ back) = (run s front).bind fun s' => parseFrom s' back := by
  rw [parseFrom, run_append]
  cases run s front <;> rfl

/-- Reading from a phase that passes over newlines and comments and wants one of the kinds. -/
theorem stepTo_bind_eq_ok_iff {s : State} {kinds : List TokenKind} {expected : String} {t : Token}
    {next : Phase} {ts : List Token} {structs : List Struct}
    (hkinds : kinds.all (fun k => !k.isTrivia) = true) :
    ((stepTo s kinds expected t next).bind fun s' => parseFrom s' ts) = .ok structs ↔
      (t.kind.isTrivia = true ∧ parseFrom s ts = .ok structs) ∨
        (t.kind ∈ kinds ∧ parseFrom ⟨s.done, next⟩ ts = .ok structs) := by
  unfold stepTo
  by_cases htrivia : t.kind.isTrivia = true
  · have hkind : t.kind ∉ kinds := fun hmem => by
      rw [isTrivia_eq_false_of_mem hkinds hmem] at htrivia
      cases htrivia
    simp [htrivia, hkind, Except.bind]
  · by_cases hkind : t.kind ∈ kinds <;> simp [htrivia, hkind, Except.bind]

/-! ## What may follow in a phase -/

/-- Newlines and comments, then a token of one of the kinds, and what `next` says of it and of the
    tokens behind it. -/
def Skipping (kinds : List TokenKind) (next : Token → List Token → Prop) (ts : List Token) : Prop :=
  ∃ gap t rest, Trivia gap ∧ t.kind ∈ kinds ∧ next t rest ∧ ts = gap ++ t :: rest

/-- The tokens are declarations of the structs. -/
def ProgramRest (ts : List Token) (structs : List Struct) : Prop :=
  ∃ trees, Program ts trees ∧ structs = trees.map StructTree.struct

/-- The tokens go on with fields and the end of the struct, before more declarations. -/
def BodyRest (name : Token) (fields : List Field) (ts : List Token) (structs : List Struct) :
    Prop :=
  ∃ trees gap closing rest more, FieldsAt ts trees (gap ++ closing :: rest) ∧ Trivia gap ∧
    closing.kind = .rightBrace ∧ ProgramRest rest more ∧
    structs = ⟨name.text, fields.reverse ++ trees.map FieldTree.field⟩ :: more

/-- The tokens go on behind the tag of a field. -/
def TaggedRest (name : Token) (fields : List Field) (field : Field) (ts : List Token)
    (structs : List Struct) : Prop :=
  ∃ comment? rest, Trailer .comment ts comment? rest ∧
    BodyRest name
      ({ field with comment? := (comment?.map (·.text)).or field.comment? } :: fields) rest structs

/-- The tokens go on behind the type of a field. -/
def TypedRest (name : Token) (fields : List Field) (field : Field) (ts : List Token)
    (structs : List Struct) : Prop :=
  ∃ tag? rest, Trailer .tag ts tag? rest ∧
    TaggedRest name fields { field with tag? := (tag?.map (·.text)).or field.tag? } rest structs

/-- The tokens go on behind the name of a field. -/
def NamedRest (name : Token) (fields : List Field) (fieldName : Token) (ts : List Token)
    (structs : List Struct) : Prop :=
  Skipping [.ident, .modifiedType]
    (fun type rest =>
      TypedRest name fields (Field.ofSource fieldName.text type.text) rest structs) ts

/-- The tokens go on behind the word `struct` of a declaration. -/
def StructRest (name : Token) (ts : List Token) (structs : List Struct) : Prop :=
  Skipping [.leftBrace] (fun _ rest => BodyRest name [] rest structs) ts

/-- The tokens go on behind the name of a declaration. -/
def NameRest (name : Token) (ts : List Token) (structs : List Struct) : Prop :=
  Skipping [.structKeyword] (fun _ rest => StructRest name rest structs) ts

/-- The tokens go on behind the word `type` of a declaration. -/
def TypeRest (ts : List Token) (structs : List Struct) : Prop :=
  Skipping [.ident] (fun name rest => NameRest name rest structs) ts

/-- The tokens may follow in the phase and complete the structs. -/
def PhaseRest : Phase → List Token → List Struct → Prop
  | .between => ProgramRest
  | .afterType => TypeRest
  | .afterName name => NameRest name
  | .afterStruct name => StructRest name
  | .body name fields => BodyRest name fields
  | .fieldNamed name fields fieldName => NamedRest name fields fieldName
  | .fieldTyped name fields field => TypedRest name fields field
  | .fieldTagged name fields field => TaggedRest name fields field

/-! ## The grammar, one token after the other -/

theorem not_skipping_nil {kinds : List TokenKind} {next : Token → List Token → Prop} :
    ¬ Skipping kinds next [] := by
  intro h
  obtain ⟨gap, t, rest, -, -, -, h⟩ := h
  simp at h

theorem skipping_cons {kinds : List TokenKind} {next : Token → List Token → Prop} {t : Token}
    {ts : List Token} :
    Skipping kinds next (t :: ts) ↔
      (t.kind.isTrivia = true ∧ Skipping kinds next ts) ∨ (t.kind ∈ kinds ∧ next t ts) := by
  constructor
  · intro h
    obtain ⟨gap, t', rest, hgap, hkind, hnext, h⟩ := h
    -- The first token is the one that is wanted, or one of those passed over.
    cases gap with
    | nil =>
      obtain ⟨rfl, rfl⟩ := List.cons.inj h
      exact .inr ⟨hkind, hnext⟩
    | cons g gap =>
      obtain ⟨rfl, rfl⟩ := List.cons.inj h
      obtain ⟨hg, hgap⟩ := trivia_cons.1 hgap
      exact .inl ⟨hg, gap, t', rest, hgap, hkind, hnext, rfl⟩
  · intro h
    cases h with
    | inl h =>
      obtain ⟨htrivia, gap, t', rest, hgap, hkind, hnext, rfl⟩ := h
      exact ⟨t :: gap, t', rest, trivia_cons.2 ⟨htrivia, hgap⟩, hkind, hnext, rfl⟩
    | inr h => exact ⟨[], t, ts, trivia_nil, h.1, h.2, rfl⟩

/-! ### Declarations -/

theorem programRest_nil {structs : List Struct} : ProgramRest [] structs ↔ structs = [] := by
  constructor
  · intro h
    obtain ⟨trees, hprogram, rfl⟩ := h
    rcases (program_iff ..).1 hprogram with ⟨-, rfl⟩ | ⟨gap, start, s, more, ss, -, hs, -, h, -⟩
    · rfl
    · -- A declaration has a first token.
      obtain ⟨-, rfl⟩ := List.append_eq_nil_iff.1 h.symm
      cases hs
  · intro h
    subst h
    exact ⟨[], .nil trivia_nil, rfl⟩

/-- What follows the word `type` is the declaration but for that word, and more declarations. -/
theorem typeRest_iff {keyword : Token} {ts : List Token} {structs : List Struct}
    (hkeyword : keyword.kind = .typeKeyword) :
    TypeRest ts structs ↔
      ∃ s rest more, StructAt (keyword :: ts) s rest ∧ ProgramRest rest more ∧
        structs = s.struct :: more := by
  constructor
  · intro h
    obtain ⟨gap₁, name, _, hgap₁, hname, hnamed, rfl⟩ := h
    obtain ⟨gap₂, structKeyword, _, hgap₂, hstruct, hopened, rfl⟩ := hnamed
    obtain ⟨gap₃, opening, body, hgap₃, hopening, hbody, rfl⟩ := hopened
    obtain ⟨fields, gap₄, closing, rest, more, hfields, hgap₄, hclosing, hmore, rfl⟩ := hbody
    simp only [List.mem_singleton] at hname hstruct hopening
    exact ⟨⟨name, fields⟩, rest, more, .intro hkeyword hgap₁ hname hgap₂ hstruct hgap₃ hopening
      hfields hgap₄ hclosing, hmore, rfl⟩
  · intro h
    obtain ⟨s, rest, more, hs, hmore, rfl⟩ := h
    obtain ⟨_, gap₁, name, gap₂, structKeyword, gap₃, opening, body, fields, gap₄, closing, -,
      hgap₁, hname, hgap₂, hstruct, hgap₃, hopening, hfields, hgap₄, hclosing, h, rfl⟩ :=
      (structAt_iff ..).1 hs
    obtain ⟨-, rfl⟩ := List.cons.inj h
    have hbody : BodyRest name [] body (⟨name.text, fields.map FieldTree.field⟩ :: more) :=
      ⟨fields, gap₄, closing, rest, more, hfields, hgap₄, hclosing, hmore, rfl⟩
    have hopened : StructRest name _ _ :=
      ⟨gap₃, opening, body, hgap₃, by simp [hopening], hbody, rfl⟩
    have hnamed : NameRest name _ _ :=
      ⟨gap₂, structKeyword, _, hgap₂, by simp [hstruct], hopened, rfl⟩
    exact ⟨gap₁, name, _, hgap₁, by simp [hname], hnamed, rfl⟩

/-- A newline or a comment may stand in front of declarations. -/
theorem programRest_of_isTrivia {t : Token} {ts : List Token} {structs : List Struct}
    (ht : t.kind.isTrivia = true) (h : ProgramRest ts structs) : ProgramRest (t :: ts) structs := by
  obtain ⟨trees, hprogram, rfl⟩ := h
  refine ⟨trees, ?_, rfl⟩
  rcases (program_iff ..).1 hprogram with
    ⟨hts, rfl⟩ | ⟨gap, start, s, more, ss, hgap, hs, hmore, rfl, rfl⟩
  · exact .nil (trivia_cons.2 ⟨ht, hts⟩)
  · exact @Program.cons (t :: gap) start s more ss (trivia_cons.2 ⟨ht, hgap⟩) hs hmore

/-- Declarations go on with a newline or a comment, or with the word that begins a declaration. -/
theorem programRest_cons {t : Token} {ts : List Token} {structs : List Struct} :
    ProgramRest (t :: ts) structs ↔
      (t.kind.isTrivia = true ∧ ProgramRest ts structs) ∨
        (t.kind ∈ [TokenKind.typeKeyword] ∧ TypeRest ts structs) := by
  rw [List.mem_singleton]
  constructor
  · intro h
    obtain ⟨trees, hprogram, rfl⟩ := h
    rcases (program_iff ..).1 hprogram with
      ⟨htrivia, rfl⟩ | ⟨gap, start, s, more, ss, hgap, hs, hmore, h, rfl⟩
    · obtain ⟨ht, hts⟩ := trivia_cons.1 htrivia
      exact .inl ⟨ht, [], .nil hts, rfl⟩
    cases gap with
    | nil =>
      rw [List.nil_append] at h
      subst h
      have hkeyword := hs.kind_of_cons
      exact .inr ⟨hkeyword, (typeRest_iff hkeyword).2 ⟨s, more, _, hs, ⟨ss, hmore, rfl⟩, rfl⟩⟩
    | cons g gap =>
      obtain ⟨rfl, rfl⟩ := List.cons.inj h
      obtain ⟨hg, hgap⟩ := trivia_cons.1 hgap
      exact .inl ⟨hg, s :: ss, .cons hgap hs hmore, rfl⟩
  · intro h
    cases h with
    | inl h => exact programRest_of_isTrivia h.1 h.2
    | inr h =>
      obtain ⟨s, rest, _, hs, ⟨trees, hmore, rfl⟩, rfl⟩ := (typeRest_iff h.1).1 h.2
      exact ⟨s :: trees, @Program.cons [] _ _ _ _ trivia_nil hs hmore, rfl⟩

/-! ### Trailers -/

theorem trailer_nil {kind : TokenKind} {t? : Option Token} {rest : List Token} :
    Trailer kind [] t? rest ↔ t? = none ∧ rest = [] := by
  simp [trailer_iff]

/-- A trailer that is there is taken. -/
theorem trailer_of_kind {kind : TokenKind} {t : Token} {ts rest : List Token} {t? : Option Token}
    (h : t.kind = kind) : Trailer kind (t :: ts) t? rest ↔ t? = some t ∧ rest = ts := by
  constructor
  · intro htrailer
    cases htrailer with
    | taken _ => exact ⟨rfl, rfl⟩
    | missing hmissing => exact absurd h (hmissing t rfl)
  · intro htaken
    obtain ⟨rfl, rfl⟩ := htaken
    exact .taken h

theorem trailer_of_kind_ne {kind : TokenKind} {t : Token} {ts rest : List Token} {t? : Option Token}
    (h : t.kind ≠ kind) : Trailer kind (t :: ts) t? rest ↔ t? = none ∧ rest = t :: ts := by
  constructor
  · intro htrailer
    cases htrailer with
    | taken hkind => exact absurd hkind h
    | missing _ => exact ⟨rfl, rfl⟩
  · intro hmissing
    obtain ⟨rfl, rfl⟩ := hmissing
    exact .missing (by simpa using h)

theorem taggedRest_of_comment {name t : Token} {fields : List Field} {field : Field}
    {ts : List Token} {structs : List Struct} (h : t.kind = .comment) :
    TaggedRest name fields field (t :: ts) structs ↔
      BodyRest name ({ field with comment? := some t.text } :: fields) ts structs := by
  simp [TaggedRest, trailer_of_kind h, and_assoc]

theorem taggedRest_of_kind_ne {name t : Token} {fields : List Field} {field : Field}
    {ts : List Token} {structs : List Struct} (h : t.kind ≠ .comment) :
    TaggedRest name fields field (t :: ts) structs ↔
      BodyRest name (field :: fields) (t :: ts) structs := by
  simp [TaggedRest, trailer_of_kind_ne h, and_assoc]

theorem typedRest_of_tag {name t : Token} {fields : List Field} {field : Field}
    {ts : List Token} {structs : List Struct} (h : t.kind = .tag) :
    TypedRest name fields field (t :: ts) structs ↔
      TaggedRest name fields { field with tag? := some t.text } ts structs := by
  simp [TypedRest, trailer_of_kind h, and_assoc]

theorem typedRest_of_kind_ne {name t : Token} {fields : List Field} {field : Field}
    {ts : List Token} {structs : List Struct} (h : t.kind ≠ .tag) :
    TypedRest name fields field (t :: ts) structs ↔
      TaggedRest name fields field (t :: ts) structs := by
  simp [TypedRest, trailer_of_kind_ne h, and_assoc]

/-! ### Fields -/

theorem not_bodyRest_nil {name : Token} {fields : List Field} {structs : List Struct} :
    ¬ BodyRest name fields [] structs := by
  intro h
  obtain ⟨trees, gap, closing, rest, more, hfields, -, -, -, -⟩ := h
  rcases (fieldsAt_iff ..).1 hfields with ⟨-, h⟩ | ⟨gap', start, f, more, fs, -, hf, -, h, -⟩
  · simp at h
  · -- A field has a first token.
    obtain ⟨-, rfl⟩ := List.append_eq_nil_iff.1 h.symm
    cases hf

/-- What follows the name of a field is the field but for the name. -/
theorem namedRest_iff {name fieldName : Token} {fields : List Field} {ts : List Token}
    {structs : List Struct} (hname : fieldName.kind = .ident) :
    NamedRest name fields fieldName ts structs ↔
      ∃ f rest, FieldAt (fieldName :: ts) f rest ∧
        BodyRest name (f.field :: fields) rest structs := by
  constructor
  · intro h
    obtain ⟨gap, type, _, hgap, htype, htyped, rfl⟩ := h
    obtain ⟨tag?, _, htag, comment?, rest, hcomment, hrest⟩ := htyped
    refine ⟨_, rest, .intro hname hgap htype htag hcomment, ?_⟩
    simpa [FieldTree.field, Field.ofSource] using hrest
  · intro h
    obtain ⟨f, rest, hfield, hrest⟩ := h
    obtain ⟨n, gap, type, afterType, tag?, afterTag, comment?, -, hgap, htype, htag, hcomment, h,
      rfl⟩ := (fieldAt_iff ..).1 hfield
    obtain ⟨rfl, rfl⟩ := List.cons.inj h
    refine ⟨gap, type, afterType, hgap, htype, ⟨tag?, afterTag, htag, comment?, rest, hcomment, ?_⟩,
      rfl⟩
    simpa [FieldTree.field, Field.ofSource] using hrest

/-- A newline or a comment may stand in a body. -/
theorem bodyRest_of_isTrivia {name t : Token} {fields : List Field} {ts : List Token}
    {structs : List Struct} (ht : t.kind.isTrivia = true) (h : BodyRest name fields ts structs) :
    BodyRest name fields (t :: ts) structs := by
  obtain ⟨trees, gap, closing, rest, more, hfields, hgap, hclosing, hmore, rfl⟩ := h
  rcases (fieldsAt_iff ..).1 hfields with
    ⟨rfl, rfl⟩ | ⟨gap', start, f, after, fs, hgap', hf, hfs, rfl, rfl⟩
  · exact ⟨[], t :: gap, closing, rest, more, .nil, trivia_cons.2 ⟨ht, hgap⟩, hclosing, hmore, rfl⟩
  · have hfields : FieldsAt (t :: gap' ++ start) (f :: fs) _ :=
      .cons (trivia_cons.2 ⟨ht, hgap'⟩) hf hfs
    exact ⟨f :: fs, gap, closing, rest, more, hfields, hgap, hclosing, hmore, rfl⟩

/-- A field may stand in a body. -/
theorem bodyRest_of_namedRest {name t : Token} {fields : List Field} {ts : List Token}
    {structs : List Struct} (ht : t.kind = .ident) (h : NamedRest name fields t ts structs) :
    BodyRest name fields (t :: ts) structs := by
  obtain ⟨f, after, hf, hbody⟩ := (namedRest_iff ht).1 h
  obtain ⟨trees, gap, closing, rest, more, hfields, hgap, hclosing, hmore, rfl⟩ := hbody
  have hfields : FieldsAt ([] ++ t :: ts) (f :: trees) _ := .cons trivia_nil hf hfields
  exact ⟨f :: trees, gap, closing, rest, more, hfields, hgap, hclosing, hmore, by simp⟩

/-- A body goes on with a newline or a comment, or with its end, or with the name of a field. -/
theorem bodyRest_cons {name t : Token} {fields : List Field} {ts : List Token}
    {structs : List Struct} :
    BodyRest name fields (t :: ts) structs ↔
      (t.kind.isTrivia = true ∧ BodyRest name fields ts structs) ∨
        (t.kind = .rightBrace ∧
          ∃ more, ProgramRest ts more ∧ structs = ⟨name.text, fields.reverse⟩ :: more) ∨
        (t.kind = .ident ∧ NamedRest name fields t ts structs) := by
  constructor
  · intro h
    obtain ⟨trees, gap, closing, rest, more, hfields, hgap, hclosing, hmore, rfl⟩ := h
    rcases (fieldsAt_iff ..).1 hfields with
      ⟨rfl, h⟩ | ⟨gap', start, f, after, fs, hgap', hf, hfs, h, rfl⟩
    · -- Without fields, the first token is the brace or stands in front of it.
      cases gap with
      | nil =>
        obtain ⟨rfl, rfl⟩ := List.cons.inj h
        exact .inr (.inl ⟨hclosing, more, hmore, by simp⟩)
      | cons g gap =>
        obtain ⟨rfl, rfl⟩ := List.cons.inj h
        obtain ⟨hg, hgap⟩ := trivia_cons.1 hgap
        exact .inl ⟨hg, [], gap, closing, rest, more, .nil, hgap, hclosing, hmore, rfl⟩
    · -- With fields, it is the first one's name or stands in front of that.
      cases gap' with
      | nil =>
        rw [List.nil_append] at h
        subst h
        have hname := hf.kind_of_cons
        have hrest : BodyRest name (f.field :: fields) after _ :=
          ⟨fs, gap, closing, rest, more, hfs, hgap, hclosing, hmore, rfl⟩
        refine .inr (.inr ⟨hname, (namedRest_iff hname).2 ⟨f, after, hf, ?_⟩⟩)
        simpa using hrest
      | cons g gap' =>
        obtain ⟨rfl, rfl⟩ := List.cons.inj h
        obtain ⟨hg, hgap'⟩ := trivia_cons.1 hgap'
        have hfields : FieldsAt (gap' ++ start) (f :: fs) _ := .cons hgap' hf hfs
        exact .inl ⟨hg, f :: fs, gap, closing, rest, more, hfields, hgap, hclosing, hmore, rfl⟩
  · intro h
    rcases h with h | ⟨hclosing, more, hmore, rfl⟩ | h
    · exact bodyRest_of_isTrivia h.1 h.2
    · exact ⟨[], [], t, ts, more, .nil, trivia_nil, hclosing, hmore, by simp⟩
    · exact bodyRest_of_namedRest h.1 h.2

/-! ## What is accepted -/

/-- Only between declarations may the tokens end. -/
theorem phaseRest_nil {phase : Phase} {structs : List Struct} :
    PhaseRest phase [] structs ↔ phase = .between ∧ structs = [] := by
  cases phase with
  | between => simpa [PhaseRest] using programRest_nil
  | afterType | afterName | afterStruct | fieldNamed =>
    simp only [reduceCtorEq, false_and, iff_false]
    exact not_skipping_nil
  | body => simpa [PhaseRest] using not_bodyRest_nil
  | fieldTyped => simp [PhaseRest, TypedRest, TaggedRest, trailer_nil, not_bodyRest_nil]
  | fieldTagged => simp [PhaseRest, TaggedRest, trailer_nil, not_bodyRest_nil]

/-- Reading a token between two fields of a struct. -/
theorem stepBody_bind_eq_ok_iff {done : List Struct} {name t : Token} {fields : List Field}
    {ts : List Token} {structs : List Struct} :
    ((stepBody done name fields t).bind fun s' => parseFrom s' ts) = .ok structs ↔
      (t.kind.isTrivia = true ∧ parseFrom ⟨done, .body name fields⟩ ts = .ok structs) ∨
        (t.kind = .rightBrace ∧
          parseFrom ⟨⟨name.text, fields.reverse⟩ :: done, .between⟩ ts = .ok structs) ∨
        (t.kind = .ident ∧ parseFrom ⟨done, .fieldNamed name fields t⟩ ts = .ok structs) := by
  unfold stepBody
  cases t.kind <;> simp [TokenKind.isTrivia, Except.bind]

/-- What the tokens accepted from every state are, given for the tokens behind the first one. -/
def AcceptsRest (ts : List Token) : Prop :=
  ∀ (s : State) (structs : List Struct), parseFrom s ts = .ok structs ↔
    ∃ more, PhaseRest s.phase ts more ∧ structs = s.done.reverse ++ more

/-- A step from a phase that wants one of the kinds. -/
theorem acceptsRest_stepTo {s : State} {kinds : List TokenKind} {expected : String} {t : Token}
    {next : Phase} {ts : List Token} {structs : List Struct} (ih : AcceptsRest ts)
    (hkinds : kinds.all (fun k => !k.isTrivia) = true)
    (hrest : ∀ more, PhaseRest s.phase (t :: ts) more ↔
      (t.kind.isTrivia = true ∧ PhaseRest s.phase ts more) ∨
        (t.kind ∈ kinds ∧ PhaseRest next ts more)) :
    ((stepTo s kinds expected t next).bind fun s' => parseFrom s' ts) = .ok structs ↔
      ∃ more, PhaseRest s.phase (t :: ts) more ∧ structs = s.done.reverse ++ more := by
  rw [stepTo_bind_eq_ok_iff hkinds, ih, ih]
  simp only [hrest, or_and_right, exists_or, and_assoc, exists_and_left]

/-- A step between two fields of a struct. -/
theorem acceptsRest_stepBody {done : List Struct} {name t : Token} {fields : List Field}
    {ts : List Token} {structs : List Struct} (ih : AcceptsRest ts) :
    ((stepBody done name fields t).bind fun s' => parseFrom s' ts) = .ok structs ↔
      ∃ more, BodyRest name fields (t :: ts) more ∧ structs = done.reverse ++ more := by
  -- The struct that a closing brace completes moves from what is done to what is to come.
  have hdone : (∃ more, ProgramRest ts more ∧
        structs = ((⟨name.text, fields.reverse⟩ : Struct) :: done).reverse ++ more) ↔
      ∃ more', (∃ more, ProgramRest ts more ∧ more' = ⟨name.text, fields.reverse⟩ :: more) ∧
        structs = done.reverse ++ more' := by
    constructor
    · intro h
      obtain ⟨more, hmore, rfl⟩ := h
      exact ⟨_, ⟨more, hmore, rfl⟩, by simp⟩
    · intro h
      obtain ⟨_, ⟨more, hmore, rfl⟩, rfl⟩ := h
      exact ⟨more, hmore, by simp⟩
  rw [stepBody_bind_eq_ok_iff, ih, ih, ih]
  simp only [PhaseRest, hdone, bodyRest_cons, or_and_right, exists_or, and_assoc, exists_and_left]

/-- What is accepted from any state of the parser. -/
theorem parseFrom_eq_ok_iff (ts : List Token) : AcceptsRest ts := by
  induction ts with
  | nil =>
    intro s structs
    obtain ⟨done, phase⟩ := s
    simp only [parseFrom_nil, phaseRest_nil]
    cases phase <;> simp [finish, eq_comm]
  | cons t ts ih =>
    intro s structs
    obtain ⟨done, phase⟩ := s
    rw [parseFrom_cons]
    cases phase with
    | between => exact acceptsRest_stepTo ih rfl fun _ => programRest_cons
    | afterType => exact acceptsRest_stepTo ih rfl fun _ => skipping_cons
    | afterName name => exact acceptsRest_stepTo ih rfl fun _ => skipping_cons
    | afterStruct name => exact acceptsRest_stepTo ih rfl fun _ => skipping_cons
    | fieldNamed name fields fieldName =>
      exact acceptsRest_stepTo ih rfl fun _ => skipping_cons
    | body name fields => exact acceptsRest_stepBody ih
    | fieldTagged name fields field =>
      by_cases hcomment : t.kind = .comment
      · simp only [step, hcomment, PhaseRest, taggedRest_of_comment hcomment]
        exact ih _ _
      · simp only [step, PhaseRest, taggedRest_of_kind_ne hcomment]
        exact acceptsRest_stepBody ih
    | fieldTyped name fields field =>
      by_cases htag : t.kind = .tag
      · simp only [step, htag, PhaseRest, typedRest_of_tag htag]
        exact ih _ _
      by_cases hcomment : t.kind = .comment
      · simp only [step, hcomment, PhaseRest, typedRest_of_kind_ne htag,
          taggedRest_of_comment hcomment]
        exact ih _ _
      · simp only [step, PhaseRest, typedRest_of_kind_ne htag, taggedRest_of_kind_ne hcomment]
        exact acceptsRest_stepBody ih

/-- The grammar derives the accepted lists of tokens, and the trees give the structs. -/
theorem parseFrom_initial_eq_ok_iff {ts : List Token} {structs : List Struct} :
    parseFrom .initial ts = .ok structs ↔
      ∃ trees, Program ts trees ∧ structs = trees.map StructTree.struct := by
  rw [parseFrom_eq_ok_iff]
  simp [State.initial, PhaseRest, ProgramRest]

end Parser

/-! ## Lists of tokens -/

/-- Tokens behind the end of the text do not matter. -/
theorem Token.beforeEof_append_eof (tokens more : List Token) (text : String)
    (position : Text.Position) :
    beforeEof (tokens ++ ⟨.eof, text, position⟩ :: more) = beforeEof tokens := by
  induction tokens with
  | nil => rfl
  | cons t tokens ih =>
    simp only [beforeEof, List.cons_append, List.takeWhile_cons] at ih ⊢
    rw [ih]

/-- The parser accepts the lists of tokens that the grammar derives before their first end of the
    text, and gives the structs of the trees. What stands behind that end does not matter, even for
    the error. -/
theorem parseTokens_eq_ok_iff (tokens : List Token) :
    (∀ structs, parseTokens tokens = .ok structs ↔
      ∃ trees, Program (Token.beforeEof tokens) trees ∧
        structs = trees.map StructTree.struct) ∧
    ∀ text position more,
      parseTokens (tokens ++ ⟨.eof, text, position⟩ :: more) = parseTokens tokens := by
  refine ⟨fun structs => Parser.parseFrom_initial_eq_ok_iff, fun text position more => ?_⟩
  rw [parseTokens, parseTokens, Token.beforeEof_append_eof]

end StructSchema
