import StructSchema.Proofs.Schema.Relocation
import StructSchema.Proofs.Token.Layout

/-!
# Other spellings

What a text declares depends on the kinds and the texts of its tokens and on nothing else: texts
whose tokens agree in these declare the same structs, or have the same error, at the place of the
same token. Blanks between tokens are neither kind nor text.

## Key results

- `Token.exists_eq_map_relocate`: tokens of the same kinds and texts are moved tokens
- `exists_parse_eq_relocate`: texts with such tokens declare the same structs
- `tokenize_respelled`: tokens that are spelled again, with single blanks between them or with any
-/

namespace StructSchema

open StructSchema.Unicode StructSchema.Text

namespace Token

theorem eq_relocate_of_content_eq {t t' : Token} (h : t'.content = t.content)
    {move : Position → Position} (hmove : move t.position = t'.position) :
    t' = t.relocate move := by
  obtain ⟨kind, text, position⟩ := t
  obtain ⟨kind', text', position'⟩ := t'
  obtain ⟨rfl, htext⟩ := Prod.mk.inj h
  obtain rfl : text' = text := String.toList_inj.1 htext
  rw [relocate, hmove]

/-- Tokens of the same kinds and texts are moved tokens, if places tell the tokens apart. -/
theorem exists_eq_map_relocate {ts ts' : List Token} (h : ts'.map content = ts.map content)
    (hplaces : (ts.map position).Nodup) : ∃ move, ts' = ts.map (relocate move) := by
  induction ts generalizing ts' with
  | nil => exact ⟨id, List.map_eq_nil_iff.1 h⟩
  | cons t ts ih =>
    cases ts' with
    | nil => cases h
    | cons t' ts' =>
      obtain ⟨hfirst, hrest⟩ := List.cons.inj h
      obtain ⟨hnew, hplaces⟩ := List.nodup_cons.1 hplaces
      obtain ⟨move, rfl⟩ := ih hrest hplaces
      -- The later tokens are moved as before, and the first one by itself.
      refine ⟨fun p => if p = t.position then t'.position else move p, ?_⟩
      refine List.cons_eq_cons.2 ⟨eq_relocate_of_content_eq hfirst (if_pos rfl), ?_⟩
      -- No later token stands where the first one does.
      refine List.map_congr_left fun u hu => ?_
      have hne : u.position ≠ t.position := fun heq => hnew (heq ▸ List.mem_map_of_mem hu)
      rw [relocate, relocate, if_neg hne]

end Token

theorem nodup_position_of_tokenize {text : String} {tokens : List Token}
    (h : tokenize text = .ok tokens) : (tokens.map Token.position).Nodup := by
  obtain ⟨ls, -, hls, rfl⟩ := tokenize_eq_ok_iff.1 h
  rw [List.map_append]
  exact Lexeme.nodup_position_place hls.wellFormed

theorem parse_of_tokenize {text : String} {tokens : List Token} (h : tokenize text = .ok tokens) :
    parse text = parseTokens tokens := by
  rw [parse, h]
  rfl

/-- Texts with tokens of the same kinds and texts declare the same structs, or have the same error,
    but for the places. -/
theorem exists_parse_eq_relocate {text other : String} {tokens others : List Token}
    (h : tokenize text = .ok tokens) (hother : tokenize other = .ok others)
    (hcontents : others.map Token.content = tokens.map Token.content) :
    ∃ move, others = tokens.map (Token.relocate move) ∧
      parse other = (parse text).mapError (Error.relocate move) := by
  obtain ⟨move, rfl⟩ := Token.exists_eq_map_relocate hcontents (nodup_position_of_tokenize h)
  refine ⟨move, rfl, ?_⟩
  rw [parse_of_tokenize h, parse_of_tokenize hother, parseTokens_relocate]

/-- A layout of the tokens of a text declares the same structs. -/
theorem parse_of_layout {text other : String} {tokens : List Token} {structs : List Struct}
    (h : tokenize text = .ok tokens) (hparse : parse text = .ok structs)
    (hlayout : Token.Layout (Token.beforeEof tokens) other.toList) : parse other = .ok structs := by
  obtain ⟨others, hother, hcontents⟩ := (Token.layout_iff_exists_tokenize h).1 hlayout
  obtain ⟨move, -, hmove⟩ := exists_parse_eq_relocate h hother hcontents
  rw [hmove, hparse]
  rfl

/-- The tokens of a text, spelled again with single blanks between them, are read again with the
    same kinds and texts. All texts with tokens of these kinds and texts declare the same structs,
    or have the same error, with the places of the tokens in the one text instead of those in the
    other. So any blanks between the tokens, and any that are put in between the lexemes of the text
    itself, leave what it declares. -/
theorem tokenize_respelled {text : String} {tokens : List Token} (h : tokenize text = .ok tokens) :
    (∃ again, tokenize (Token.respelled tokens) = .ok again ∧
      again.map Token.content = tokens.map Token.content) ∧
    (∀ other others, tokenize other = .ok others →
      others.map Token.content = tokens.map Token.content →
      ∃ move, others = tokens.map (Token.relocate move) ∧
        parse other = (parse text).mapError (Error.relocate move)) ∧
    ∀ structs, parse text = .ok structs →
      (∀ other, Token.Layout (Token.beforeEof tokens) other.toList → parse other = .ok structs) ∧
      ∀ blanks (items : List (Lexeme × List Char)), Blanks blanks →
        (∀ item ∈ items, Blanks item.2) → items.map Prod.fst = (Lexeme.split text.toList).1 →
        parse (String.ofList (blanks ++ items.flatMap fun item => item.1.spelling ++ item.2)) =
          .ok structs := by
  refine ⟨(Token.layout_iff_exists_tokenize h).1 (Token.layout_respelled h),
    fun other others hother hcontents => exists_parse_eq_relocate h hother hcontents,
    fun structs hparse => ⟨fun other hlayout => parse_of_layout h hparse hlayout, ?_⟩⟩
  intro blanks items hblanks hall hitems
  -- What is put in leaves a layout of the same tokens.
  have hlayout := Lexeme.layout_spread h hitems hblanks hall
  rw [← @String.toList_ofList (blanks ++ _)] at hlayout
  exact parse_of_layout h hparse hlayout

/-- A name and a modified type without a blank between them, a tag and a comment. -/
theorem tokenize_respelled_field :
    ∃ tokens again,
      tokenize "type A struct\x7bB*C`t`//d\n\x7d" = .ok tokens ∧
      Token.respelled tokens = "type A struct \x7b B *C `t` // d \n \x7d " ∧
      tokenize "type A struct \x7b B *C `t` // d \n \x7d " = .ok again ∧
      again.map Token.content = tokens.map Token.content ∧
      parse "type A struct \x7b B *C `t` // d \n \x7d " =
        .ok [⟨"A", [{ Field.ofSource "B" "*C" with tag? := some "t", comment? := some "d" }]⟩] := by
  have htokens : tokenize "type A struct\x7bB*C`t`//d\n\x7d" =
      .ok [⟨.typeKeyword, "type", ⟨1, 1⟩⟩, ⟨.ident, "A", ⟨1, 6⟩⟩,
        ⟨.structKeyword, "struct", ⟨1, 8⟩⟩, ⟨.leftBrace, "\x7b", ⟨1, 14⟩⟩,
        ⟨.ident, "B", ⟨1, 15⟩⟩, ⟨.modifiedType, "*C", ⟨1, 16⟩⟩, ⟨.tag, "t", ⟨1, 18⟩⟩,
        ⟨.comment, "d", ⟨1, 21⟩⟩, ⟨.newline, "\n", ⟨1, 24⟩⟩, ⟨.rightBrace, "\x7d", ⟨2, 1⟩⟩,
        ⟨.eof, "", ⟨2, 2⟩⟩] := by
    decide +kernel
  have hparse : parse "type A struct\x7bB*C`t`//d\n\x7d" =
      .ok [⟨"A", [{ Field.ofSource "B" "*C" with tag? := some "t", comment? := some "d" }]⟩] := by
    decide +kernel
  obtain ⟨hagain, -, hparses⟩ := tokenize_respelled htokens
  have hlayout := Token.layout_respelled htokens
  have hspelled : (tokenize "type A struct\x7bB*C`t`//d\n\x7d").map Token.respelled =
      .ok "type A struct \x7b B *C `t` // d \n \x7d " := by
    decide +kernel
  rw [htokens] at hspelled
  have hspelled := Except.ok.inj hspelled
  rw [hspelled] at hagain hlayout
  obtain ⟨again, hagain, hcontents⟩ := hagain
  exact ⟨_, again, htokens, hspelled, hagain, hcontents, (hparses _ hparse).1 _ hlayout⟩

end StructSchema
