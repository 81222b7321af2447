import Mathlib.Data.List.Infix
import StructSchema.Proofs.Schema.Parsing
import StructSchema.Proofs.Token.Placing

/-!
# Fields and lines

A field may be spread over lines: newlines and comments between its name and its type are passed
over, so that two lines with one word each are read as one field. The name and the type of a field
stand on one line exactly if no token stands between them.

## Key results

- `Lexeme.lt_line_of_newline_mem`: a newline between two tokens takes them apart
- `Lexeme.line_eq_of_place_eq_cons`: with no token between, they stay on their line
- `name_line_eq_type_line_iff`: when the name and the type of a field are on one line
- `parse_one_word_lines`: two lines with one word each are read as one field
-/

namespace StructSchema

open StructSchema.Unicode StructSchema.Text StructSchema.Grammar

namespace Lexeme

/-! ## Tokens on later lines -/

/-- No token stands on an earlier line than the first lexeme. -/
theorem line_le_of_mem_place {p : Position} {ls : List Lexeme} {t : Token} (h : t ∈ place p ls) :
    p.line ≤ t.position.line := by
  obtain ⟨front, back, h⟩ := List.append_of_mem h
  obtain ⟨ls₁, l, ls₂, -, ht, -⟩ := exists_of_place_eq_append_cons h
  rw [position_of_token? ht, placeAfter_eq]
  exact Position.line_le_line_after p _

/-- A newline between two tokens takes them apart. -/
theorem lt_line_of_newline_mem {p : Position} {ls : List Lexeme} {front back : List Token}
    {t n : Token} (h : place p ls = front ++ t :: back) (hn : n ∈ front)
    (hkind : n.kind = .newline) : p.line < t.position.line := by
  obtain ⟨front, between, rfl⟩ := List.append_of_mem hn
  rw [List.append_assoc, List.cons_append] at h
  obtain ⟨ls₁, l, ls₂, -, hl, hback⟩ := exists_of_place_eq_append_cons h
  obtain rfl := eq_newline_of_token? hl hkind
  -- What follows the newline starts on the next line.
  have hstart : p.line ≤ (placeAfter p ls₁).line := by
    rw [placeAfter_eq]
    exact Position.line_le_line_after p _
  have hmem : t ∈ place ⟨(placeAfter p ls₁).line + 1, 1⟩ ls₂ := by
    have hmem : t ∈ between ++ t :: back := by simp
    rwa [hback] at hmem
  have hlater : (placeAfter p ls₁).line + 1 ≤ t.position.line := line_le_of_mem_place hmem
  omega

/-- A comment is followed by a newline. -/
theorem kind_after_comment {p : Position} {ls : List Lexeme} {front back : List Token}
    {c t : Token} (hls : Separated [] ls) (h : place p ls = front ++ c :: t :: back)
    (hkind : c.kind = .comment) : t.kind = .newline := by
  obtain ⟨ls₁, l, ls₂, rfl, hl, hback⟩ := exists_of_place_eq_append_cons h
  obtain ⟨body, rfl, -⟩ := eq_comment_of_token? hl hkind
  obtain ⟨-, hends, hls₂⟩ := (separated_append.1 hls).2
  cases ls₂ with
  | nil => simp at hback
  | cons next ls₂ =>
    rw [List.flatMap_cons, List.append_assoc] at hends
    obtain rfl := eq_newline_of_comment_endsBefore hls₂.1 hends
    rw [place_cons] at hback
    obtain ⟨rfl, -⟩ := List.cons.inj hback
    rfl

/-- Newlines and comments in front of another token have a newline among them. -/
theorem exists_newline_of_trivia {p : Position} {ls : List Lexeme} {front gap back : List Token}
    {t : Token} (hls : Separated [] ls) (h : place p ls = front ++ (gap ++ t :: back))
    (hgap : Trivia gap) (hne : gap ≠ []) (ht : t.kind.isTrivia = false) :
    ∃ n ∈ gap, n.kind = .newline := by
  obtain ⟨g, gap, rfl⟩ := List.exists_cons_of_ne_nil hne
  obtain ⟨hg, hgap⟩ := trivia_cons.1 hgap
  -- The first token is the newline, or a comment that a newline follows.
  by_cases hnewline : g.kind = .newline
  · exact ⟨g, List.mem_cons_self, hnewline⟩
  have hcomment : g.kind = .comment := by
    simpa [TokenKind.isTrivia, hnewline] using hg
  cases gap with
  | nil =>
    have hkind := kind_after_comment hls h hcomment
    rw [hkind] at ht
    cases ht
  | cons g' gap =>
    exact ⟨g', by simp, kind_after_comment hls h hcomment⟩

/-! ## Tokens on the same line -/

/-- In front of the first token of a run there are only blanks, which do not leave the line. -/
theorem line_eq_of_place_eq_cons {p : Position} {ls : List Lexeme} {t : Token} {back : List Token}
    (hls : ∀ l ∈ ls, l.WellFormed) (h : place p ls = t :: back) : t.position.line = p.line := by
  induction ls generalizing p with
  | nil => simp at h
  | cons l ls ih =>
    obtain ⟨hl, hrest⟩ := List.forall_mem_cons.1 hls
    rw [place_cons] at h
    cases htoken : l.token? p with
    | some t' =>
      rw [htoken] at h
      obtain ⟨rfl, -⟩ := List.cons.inj h
      rw [position_of_token? htoken]
    | none =>
      obtain ⟨c, rfl⟩ := eq_blank_of_content?_eq_none (Option.map_eq_none_iff.1 htoken)
      rw [htoken] at h
      rw [ih hrest h]
      simp [spelling, Position.next, hl.2]

/-- The name and the type of a field are on one line exactly if the type is the very next token. -/
theorem line_eq_line_iff_infix {ls : List Lexeme} {f : FieldTree} (hls : Separated [] ls)
    (hf : f.BuiltFrom (place .start ls)) :
    f.name.position.line = f.type.position.line ↔ [f.name, f.type] <:+: place .start ls := by
  constructor
  · intro hline
    obtain ⟨front, gap, back, hgap, h⟩ := hf.written
    by_cases hne : gap = []
    · exact ⟨front, back, by simp [h, hne]⟩
    -- A newline in the gap would bring the type to a later line.
    exfalso
    have htype : f.type.kind.isTrivia = false := isTrivia_eq_false_of_mem rfl hf.type_kind
    have hgapped : place .start ls = (front ++ [f.name]) ++ (gap ++ f.type :: back) := by simp [h]
    obtain ⟨n, hn, hnewline⟩ := exists_newline_of_trivia hls hgapped hgap hne htype
    obtain ⟨ls₁, l, ls₂, rfl, hl, hback⟩ := exists_of_place_eq_append_cons h
    have hlater := lt_line_of_newline_mem hback.symm hn hnewline
    have hafter := Position.line_le_line_after (placeAfter .start ls₁) l.spelling
    rw [hline.symm, position_of_token? hl] at hlater
    omega
  · intro h
    obtain ⟨front, back, h⟩ := h
    -- The name is a word and has no line break in it, and behind it there are only blanks.
    have h : place .start ls = front ++ f.name :: f.type :: back := by simp [← h]
    obtain ⟨ls₁, l, ls₂, rfl, hl, hback⟩ := exists_of_place_eq_append_cons h
    have hwf := hls.wellFormed
    obtain ⟨modifiers, name, rfl, -, -⟩ := eq_word_of_token? hl (by simp [hf.name_kind])
    have hword : '\n' ∉ (word modifiers name).spelling :=
      lineBreak_notMem_word (hwf (word modifiers name) (by simp)).2
    rw [line_eq_of_place_eq_cons (fun l hl => hwf l (by simp [hl])) hback.symm,
      position_of_token? hl, Position.after_eq_of_not_mem _ _ hword]

end Lexeme

/-! ## Fields of a text -/

/-- In a text that is read, the name and the type of a field are on one line exactly if the type is
    the very next token. -/
theorem name_line_eq_type_line_iff {text : String} {structs : List Struct}
    (h : parse text = .ok structs) :
    ∃ tokens, tokenize text = .ok tokens ∧
      (∃ trees, Program (Token.beforeEof tokens) trees) ∧
      ∀ trees, Program (Token.beforeEof tokens) trees →
        structs = trees.map StructTree.struct ∧
        ∀ s ∈ trees, ∀ f ∈ s.fields,
          (f.name.position.line = f.type.position.line ↔
            [f.name, f.type] <:+: Token.beforeEof tokens) := by
  rw [parse] at h
  cases htokens : tokenize text with
  | error e => rw [htokens] at h; cases h
  | ok tokens =>
    rw [htokens] at h
    have hparse : Parser.parseFrom .initial (Token.beforeEof tokens) = .ok structs := h
    obtain ⟨trees, hprogram, -⟩ := Parser.parseFrom_initial_eq_ok_iff.1 hparse
    refine ⟨tokens, rfl, ⟨trees, hprogram⟩, fun trees hprogram => ⟨?_, fun s hs f hf => ?_⟩⟩
    · -- The parser gives one list of structs, so every derivation gives that one.
      have hsame := Parser.parseFrom_initial_eq_ok_iff.2 ⟨trees, hprogram, rfl⟩
      rw [hparse] at hsame
      exact Except.ok.inj hsame
    · obtain ⟨ls, -, hls, rfl⟩ := tokenize_eq_ok_iff.1 htokens
      rw [Lexeme.beforeEof_place_append] at hprogram ⊢
      exact Lexeme.line_eq_line_iff_infix hls ((hprogram.builtFrom s hs).fields f hf)

/-- One field on a line and one over two lines. -/
theorem name_line_eq_type_line_iff_split :
    parse "type A struct \x7b\n B C // d\n E\n F\n\x7d" =
      .ok [⟨"A", [{ Field.ofSource "B" "C" with comment? := some "d" }, Field.ofSource "E" "F"]⟩] ∧
    ∃ tokens, tokenize "type A struct \x7b\n B C // d\n E\n F\n\x7d" = .ok tokens ∧
      (∃ trees, Program (Token.beforeEof tokens) trees) ∧
      ∀ trees, Program (Token.beforeEof tokens) trees →
        [⟨"A", [{ Field.ofSource "B" "C" with comment? := some "d" }, Field.ofSource "E" "F"]⟩] =
          trees.map StructTree.struct ∧
        ∀ s ∈ trees, ∀ f ∈ s.fields,
          (f.name.position.line = f.type.position.line ↔
            [f.name, f.type] <:+: Token.beforeEof tokens) := by
  have hparse : parse "type A struct \x7b\n B C // d\n E\n F\n\x7d" =
      .ok [⟨"A", [{ Field.ofSource "B" "C" with comment? := some "d" },
        Field.ofSource "E" "F"]⟩] := by
    decide +kernel
  exact ⟨hparse, name_line_eq_type_line_iff hparse⟩

/-- Two lines with one word each are read as one field. -/
theorem parse_one_word_lines :
    ∃ tokens name type,
      tokenize "type A struct \x7b\n B\n C\n\x7d" = .ok tokens ∧
      parse "type A struct \x7b\n B\n C\n\x7d" = .ok [⟨"A", [Field.ofSource "B" "C"]⟩] ∧
      Program (Token.beforeEof tokens) [⟨⟨.ident, "A", ⟨1, 6⟩⟩, [⟨name, type, none, none⟩]⟩] ∧
      name.position.line = 2 ∧ type.position.line = 3 := by
  refine ⟨[⟨.typeKeyword, "type", ⟨1, 1⟩⟩, ⟨.ident, "A", ⟨1, 6⟩⟩,
    ⟨.structKeyword, "struct", ⟨1, 8⟩⟩, ⟨.leftBrace, "\x7b", ⟨1, 15⟩⟩, ⟨.newline, "\n", ⟨1, 16⟩⟩,
    ⟨.ident, "B", ⟨2, 2⟩⟩, ⟨.newline, "\n", ⟨2, 3⟩⟩, ⟨.ident, "C", ⟨3, 2⟩⟩,
    ⟨.newline, "\n", ⟨3, 3⟩⟩, ⟨.rightBrace, "\x7d", ⟨4, 1⟩⟩, ⟨.eof, "", ⟨4, 2⟩⟩],
    ⟨.ident, "B", ⟨2, 2⟩⟩, ⟨.ident, "C", ⟨3, 2⟩⟩, by decide +kernel, by decide +kernel, ?_, rfl,
    rfl⟩
  have newline (position : Position) : Trivia [⟨.newline, "\n", position⟩] := by
    simp [Trivia, TokenKind.isTrivia]
  have field : FieldAt
      [⟨.ident, "B", ⟨2, 2⟩⟩, ⟨.newline, "\n", ⟨2, 3⟩⟩, ⟨.ident, "C", ⟨3, 2⟩⟩,
        ⟨.newline, "\n", ⟨3, 3⟩⟩, ⟨.rightBrace, "\x7d", ⟨4, 1⟩⟩]
      ⟨⟨.ident, "B", ⟨2, 2⟩⟩, ⟨.ident, "C", ⟨3, 2⟩⟩, none, none⟩
      [⟨.newline, "\n", ⟨3, 3⟩⟩, ⟨.rightBrace, "\x7d", ⟨4, 1⟩⟩] :=
    .intro rfl (newline _) (by simp) (.missing (by simp)) (.missing (by simp))
  have fields := FieldsAt.cons (newline ⟨1, 16⟩) field .nil
  have struct : StructAt _ ⟨⟨.ident, "A", ⟨1, 6⟩⟩, _⟩ _ :=
    @StructAt.intro ⟨.typeKeyword, "type", ⟨1, 1⟩⟩ [] _ [] ⟨.structKeyword, "struct", ⟨1, 8⟩⟩ []
      ⟨.leftBrace, "\x7b", ⟨1, 15⟩⟩ _ _ [⟨.newline, "\n", ⟨3, 3⟩⟩] ⟨.rightBrace, "\x7d", ⟨4, 1⟩⟩ []
      rfl trivia_nil rfl trivia_nil rfl trivia_nil rfl fields (newline _) rfl
  exact Program.cons trivia_nil struct (.nil trivia_nil)

end StructSchema
