import StructSchema.Proofs.Schema.Relocation
import StructSchema.Proofs.Token.Placing
import StructSchema.Proofs.Token.Spans

/-!
# Texts joined by a line break

A line break ends every lexeme, so a text that has tokens is cut in front of a line break as it is
cut by itself, and what stands behind the line break is cut as if it stood alone. Its tokens are
further down by as many lines as stand before them. A text that declares structs leaves the parser
between two declarations, and what stands behind is read from there.

## Key results

- `Lexeme.split_append_newline`: the cut of two texts that are joined by a line break
- `tokenize_append_newline`: the tokens of two texts that are joined by a line break
- `parse_append_newline`: the structs and the errors of two texts that are joined by a line break
-/

namespace StructSchema

open StructSchema.Text

/-! ## Further down -/

namespace Text.Position

/-- The place in the same column, further down. -/
def down (n : Nat) (p : Position) : Position := ⟨p.line + n, p.column⟩

theorem next_down (n : Nat) (p : Position) (c : Char) : (p.down n).next c = (p.next c).down n := by
  by_cases hc : c = '\n'
  · simp [next, down, hc, Nat.add_right_comm]
  · simp [next, down, hc]

theorem after_down (n : Nat) (p : Position) (span : List Char) :
    (p.down n).after span = (p.after span).down n := by
  induction span generalizing p with
  | nil => rfl
  | cons c rest ih => rw [after_cons, after_cons, next_down, ih]

/-- Behind a line break the columns start again, further down by the lines of what is before. -/
theorem start_after_append_newline (before : List Char) :
    start.after (before ++ ['\n']) = start.down (1 + before.count '\n') := by
  rw [after_append, start_after_eq, after_cons, after_nil]
  simp [next, down, start, Nat.add_comm]

end Text.Position

namespace Lexeme

theorem token?_relocate (f : Position → Position) (l : Lexeme) (p : Position) :
    l.token? (f p) = (l.token? p).map (Token.relocate f) := by
  rw [token?, token?, Option.map_map]
  rfl

/-- Further down, lexemes give the same tokens further down. -/
theorem place_down (n : Nat) (p : Position) (ls : List Lexeme) :
    place (p.down n) ls = (place p ls).map (Token.relocate (Position.down n)) := by
  induction ls generalizing p with
  | nil => rfl
  | cons l ls ih =>
    rw [place_cons, place_cons, Position.after_down, ih, token?_relocate (Position.down n),
      List.map_append]
    cases l.token? p <;> rfl

end Lexeme

theorem lexicalError_relocate (f : Position → Position) (p : Position) (cs : List Char) :
    lexicalError (f p) cs = (lexicalError p cs).relocate f := by
  rw [lexicalError, lexicalError]
  split <;> rfl

/-! ## Cutting at a line break -/

namespace Lexeme

/-- Lexemes may stand in front of a line break wherever they may stand. -/
theorem Separated.lineBreak {cs : List Char} {ls : List Lexeme} (h : Separated cs ls)
    (rest : List Char) : Separated ('\n' :: rest) ls :=
  h.of_getLast? fun l _ _ => l.endsBefore_lineBreak rest

/-- Two texts that are joined by a line break are cut one after the other. -/
theorem split_append_newline {front : List Char} {ls : List Lexeme} (h : split front = (ls, []))
    (back : List Char) :
    split (front ++ '\n' :: back) = (ls ++ .newline :: (split back).1, (split back).2) := by
  obtain ⟨hfront, hls, -⟩ := split_eq_iff.1 h
  have hback : Separated (split back).2 (.newline :: (split back).1) :=
    ⟨trivial, trivial, separated_split back⟩
  refine split_eq_iff.2 ⟨?_, separated_append.2 ⟨hls.lineBreak _, hback⟩, read?_split back⟩
  rw [List.append_nil] at hfront
  rw [List.flatMap_append, List.append_assoc, hfront, List.flatMap_cons, List.append_assoc,
    spelling_append_split]
  rfl

/-! ## Placing behind a line break -/

section

variable (front : List Char) {ls : List Lexeme} (hspelling : ls.flatMap spelling = front)

include hspelling

/-- Behind a line break the places start again, further down. -/
theorem placeAfter_append_newline (back : List Lexeme) :
    placeAfter .start (ls ++ .newline :: back) =
      (placeAfter .start back).down (1 + front.count '\n') := by
  rw [placeAfter_eq, List.flatMap_append, hspelling, List.flatMap_cons, ← List.append_assoc,
    Position.after_append]
  show (Position.start.after (front ++ ['\n'])).after _ = _
  rw [Position.start_after_append_newline, Position.after_down, placeAfter_eq]

/-- Behind a line break lexemes give the tokens that they give at the start, further down. -/
theorem place_append_newline (back : List Lexeme) :
    place .start (ls ++ .newline :: back) =
      place .start ls ++ ⟨.newline, "\n", Position.start.after front⟩ ::
        (place .start back).map (Token.relocate (Position.down (1 + front.count '\n'))) := by
  have hstart : (Position.start.after front).after newline.spelling =
      Position.start.down (1 + front.count '\n') := by
    rw [← Position.after_append]
    exact Position.start_after_append_newline front
  rw [place_append, placeAfter_eq, hspelling, place_cons, hstart, place_down]
  rfl

end

end Lexeme

/-- The tokens of two texts that are joined by a line break: those of the first, one for the line
    break and those of the second, which are further down. -/
theorem tokenize_append_newline {a : String} {tokens : List Token} (h : tokenize a = .ok tokens)
    (b : String) :
    tokenize (a ++ "\n" ++ b) =
      ((tokenize b).map fun more =>
        Token.beforeEof tokens ++ ⟨.newline, "\n", Position.start.after a.toList⟩ ::
          more.map (Token.relocate (Position.down (1 + a.toList.count '\n')))).mapError
        (Error.relocate (Position.down (1 + a.toList.count '\n'))) := by
  obtain ⟨ls, hspelling, separated, rfl⟩ := tokenize_eq_ok_iff.1 h
  have hfront := separated.split_eq hspelling
  have htext : (a ++ "\n" ++ b).toList = a.toList ++ '\n' :: b.toList := by simp
  simp only [tokenize, htext, Lexeme.split_append_newline hfront,
    Lexeme.placeAfter_append_newline a.toList hspelling,
    Lexeme.place_append_newline a.toList hspelling, Lexeme.beforeEof_place_append]
  -- The text is cut to its end exactly if the second one is.
  split
  · simp [Except.map, Except.mapError, Token.relocate]
  · simp [Except.map, Except.mapError, lexicalError_relocate (Position.down _)]

/-! ## Reading on -/

/-- Tokens that declare structs leave the parser between two declarations. -/
theorem Parser.run_of_parseFrom_eq_ok {s : State} {ts : List Token} {structs : List Struct}
    (h : parseFrom s ts = .ok structs) : run s ts = .ok ⟨structs.reverse, .between⟩ := by
  unfold parseFrom at h
  cases hrun : run s ts with
  | error e => rw [hrun] at h; cases h
  | ok s' =>
    rw [hrun] at h
    obtain ⟨done, phase⟩ := s'
    cases phase with
    | between =>
      obtain rfl := Except.ok.inj h
      rw [List.reverse_reverse]
    | _ => cases h

/-- Tokens that declare structs, a line break and moved tokens declare the structs of both, and an
    error moves along. -/
theorem parseTokens_append_newline {front : List Token} {structs : List Struct}
    {f : Position → Position} (h : parseTokens front = .ok structs) (p : Position)
    (back : List Token) :
    parseTokens (Token.beforeEof front ++ ⟨.newline, "\n", p⟩ :: back.map (Token.relocate f)) =
      ((parseTokens back).map (structs ++ ·)).mapError (Error.relocate f) := by
  have hfront : Parser.run .initial (Token.beforeEof front) = .ok ⟨structs.reverse, .between⟩ :=
    Parser.run_of_parseFrom_eq_ok h
  have hback := Parser.parseFrom_relocate f structs.reverse .initial (Token.beforeEof back)
  rw [List.reverse_reverse, ← Token.beforeEof_map_relocate] at hback
  -- The newline is passed over, and the structs that are complete stay in front.
  rw [parseTokens, Token.beforeEof_append fun _ ht => Token.kind_ne_eof_of_mem_beforeEof ht,
    Parser.run_append, hfront]
  exact hback

/-- The structs of two texts that are joined by a line break are those of the one and those of the
    other, and an error in the second is further down. -/
theorem parse_append_newline {a : String} {as : List Struct} (h : parse a = .ok as) (b : String) :
    parse (a ++ "\n" ++ b) =
      ((parse b).map (as ++ ·)).mapError
        (Error.relocate (Position.down (1 + a.toList.count '\n'))) := by
  rw [parse] at h
  cases htokens : tokenize a with
  | error e => rw [htokens] at h; cases h
  | ok tokens =>
    rw [htokens] at h
    rw [parse, parse, tokenize_append_newline htokens]
    cases tokenize b with
    | error e => rfl
    | ok more => exact parseTokens_append_newline h _ more

/-- What a text declares behind a text that declares structs: its own structs behind those, or its
    own error, further down by the lines of the text in front and the line break. -/
theorem parse_joined {a : String} {as : List Struct} (h : parse a = .ok as) (b : String) :
    (∀ bs, parse b = .ok bs → parse (a ++ "\n" ++ b) = .ok (as ++ bs)) ∧
      ∀ e, parse b = .error e →
        parse (a ++ "\n" ++ b) =
          .error (e.relocate (Position.down (1 + a.toList.count '\n'))) := by
  rw [parse_append_newline h b]
  constructor
  · intro bs hbs
    rw [hbs]
    rfl
  · intro e he
    rw [he]
    rfl

/-- A text with a tag of two lines and a comment at its end, and three texts behind it. -/
theorem parse_joined_comment :
    parse "type A struct \x7b\n X []*int `a\nb`\n\x7d // end" =
      .ok [⟨"A", [⟨"X", "X", "int", true, true, true, false, some "a\nb", none⟩]⟩] ∧
    parse ("type A struct \x7b\n X []*int `a\nb`\n\x7d // end" ++ "\n" ++
        "type B struct \x7b\x7d") =
      .ok ([⟨"A", [⟨"X", "X", "int", true, true, true, false, some "a\nb", none⟩]⟩] ++
        [⟨"B", []⟩]) ∧
    parse ("type A struct \x7b\n X []*int `a\nb`\n\x7d // end" ++ "\n" ++
        "type B struct \x7b\n") =
      .error (.unterminatedBlock ⟨.ident, "B", ⟨5, 6⟩⟩) ∧
    parse ("type A struct \x7b\n X []*int `a\nb`\n\x7d // end" ++ "\n" ++ "\n ?!") =
      .error (.unreadable "?!" ⟨6, 2⟩) := by
  have hfront : parse "type A struct \x7b\n X []*int `a\nb`\n\x7d // end" =
      .ok [⟨"A", [⟨"X", "X", "int", true, true, true, false, some "a\nb", none⟩]⟩] := by
    decide +kernel
  have hgood : parse "type B struct \x7b\x7d" = .ok [⟨"B", []⟩] := by decide +kernel
  have hopen : parse "type B struct \x7b\n" =
      .error (.unterminatedBlock ⟨.ident, "B", ⟨1, 6⟩⟩) := by decide +kernel
  have hstrange : parse "\n ?!" = .error (.unreadable "?!" ⟨2, 2⟩) := by decide +kernel
  exact ⟨hfront, (parse_joined hfront _).1 _ hgood, (parse_joined hfront _).2 _ hopen,
    (parse_joined hfront _).2 _ hstrange⟩

end StructSchema
