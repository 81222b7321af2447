import StructSchema.Proofs.Json.Printing
import StructSchema.Proofs.Schema.Places

/-!
# Why tokens are rejected

A list of tokens is viable if some more tokens make it acceptable. The parser reads a list for as
long as it is viable: from every state of it some tokens lead to acceptance. So the token that is
reported as unexpected is the first one behind which the list cannot be saved any more, and a list
that is viable as a whole is rejected for the declaration that is open at its end, in its header or
in its body.

## Key results

- `Parser.run_eq_error_iff`: the token at which a run stops
- `Parser.parseFrom_completion`: from every state some tokens lead to acceptance
- `viable_iff_exists_run`: the viable lists are those that are read to their end
- `exists_step_of_unexpectedToken`: the token that is reported as unexpected stops the parser
- `parseTokens_error_iff`: the errors of the parser, and when each is given
-/

namespace StructSchema

open StructSchema.Grammar

/-- More tokens make the list acceptable. -/
def Viable (ts : List Token) : Prop := ∃ more structs, parseTokens (ts ++ more) = .ok structs

/-- The kinds of tokens that can be unexpected, which newlines, comments and the end of the text
    cannot, with what a message calls a token of the kind that has no text to quote. -/
def unexpectedNames : List (TokenKind × String) :=
  [(.typeKeyword, "\"type\""), (.structKeyword, "\"struct\""), (.leftBrace, "\"\x7b\""),
    (.rightBrace, "\"\x7d\""), (.ident, "identifier"), (.modifiedType, "type"),
    (.tag, "struct tag")]

namespace Parser

/-! ## Errors of a run -/

/-- A run fails at the first token that is not read. -/
theorem run_eq_error_iff {s : State} {ts : List Token} {e : Error} :
    run s ts = .error e ↔
      ∃ front t back s', ts = front ++ t :: back ∧ run s front = .ok s' ∧ step s' t = .error e := by
  constructor
  · intro h
    induction ts generalizing s with
    | nil => cases h
    | cons t ts ih =>
      rw [run] at h
      cases hstep : step s t with
      | error e' =>
        rw [hstep] at h
        obtain rfl := Except.error.inj h
        exact ⟨[], t, ts, s, rfl, rfl, hstep⟩
      | ok mid =>
        rw [hstep] at h
        obtain ⟨front, u, back, s', rfl, hfront, hu⟩ := ih h
        refine ⟨t :: front, u, back, s', rfl, ?_, hu⟩
        rw [run, hstep]
        exact hfront
  · intro h
    obtain ⟨front, t, back, s', rfl, hfront, ht⟩ := h
    rw [run_append, hfront]
    show run s' (t :: back) = _
    rw [run, ht]

/-! ## Viable lists -/

/-- Tokens that bring the declaration at hand to its end. -/
def completion : Phase → List Token
  | .between => []
  | .body .. | .fieldTyped .. | .fieldTagged .. => [⟨.rightBrace, "\x7d", .start⟩]
  | .fieldNamed .. => [⟨.ident, "T", .start⟩, ⟨.rightBrace, "\x7d", .start⟩]
  | .afterStruct _ => [⟨.leftBrace, "\x7b", .start⟩, ⟨.rightBrace, "\x7d", .start⟩]
  | .afterName _ =>
    [⟨.structKeyword, "struct", .start⟩, ⟨.leftBrace, "\x7b", .start⟩,
      ⟨.rightBrace, "\x7d", .start⟩]
  | .afterType =>
    [⟨.ident, "T", .start⟩, ⟨.structKeyword, "struct", .start⟩, ⟨.leftBrace, "\x7b", .start⟩,
      ⟨.rightBrace, "\x7d", .start⟩]

/-- From every state some tokens lead to acceptance. -/
theorem parseFrom_completion (s : State) :
    ∃ structs, parseFrom s (completion s.phase) = .ok structs := by
  obtain ⟨done, phase⟩ := s
  cases phase <;> exact ⟨_, rfl⟩

theorem beforeEof_completion (phase : Phase) :
    Token.beforeEof (completion phase) = completion phase := by
  cases phase <;> rfl

end Parser

/-- The viable lists are those that the parser reads to their end. -/
theorem viable_iff_exists_run {ts : List Token} (hts : ∀ t ∈ ts, t.kind ≠ .eof) :
    Viable ts ↔ ∃ s, Parser.run .initial ts = .ok s := by
  constructor
  · intro h
    -- A token that stops the parser stops it whatever stands behind.
    obtain ⟨more, structs, h⟩ := h
    rw [parseTokens, Token.beforeEof_append hts, Parser.run_append] at h
    cases hrun : Parser.run .initial ts with
    | error e => rw [hrun] at h; cases h
    | ok s => exact ⟨s, rfl⟩
  · intro h
    -- Where the parser stands after the tokens, there are some that lead on to acceptance.
    obtain ⟨s, hrun⟩ := h
    obtain ⟨structs, hcompletion⟩ := Parser.parseFrom_completion s
    refine ⟨Parser.completion s.phase, structs, ?_⟩
    rw [parseTokens, Token.beforeEof_append hts, Parser.beforeEof_completion, Parser.run_append,
      hrun]
    exact hcompletion

/-! ## Errors of the parser -/

section

variable {tokens : List Token}

/-- A list that is viable as a whole is judged by the state it leads to. -/
theorem parseTokens_of_run {s : Parser.State}
    (hrun : Parser.run .initial (Token.beforeEof tokens) = .ok s) :
    parseTokens tokens = Parser.finish s := by
  rw [parseTokens, hrun]
  rfl

/-- A list that is not viable is rejected for an unexpected token. -/
theorem parseTokens_of_run_eq_error {e : Error}
    (hrun : Parser.run .initial (Token.beforeEof tokens) = .error e) :
    ∃ expected t, e = .unexpectedToken expected t ∧ parseTokens tokens = .error e := by
  obtain ⟨front, t, back, s, -, -, hstep⟩ := Parser.run_eq_error_iff.1 hrun
  obtain ⟨expected, he⟩ := Parser.step_eq_error hstep
  refine ⟨expected, t, he, ?_⟩
  rw [parseTokens, hrun]
  rfl

theorem viable_beforeEof_iff :
    Viable (Token.beforeEof tokens) ↔
      ∃ s, Parser.run .initial (Token.beforeEof tokens) = .ok s :=
  viable_iff_exists_run fun _ ht => Token.kind_ne_eof_of_mem_beforeEof ht

/-- An error that is not about a token is one about where a viable list ends. -/
theorem parseTokens_eq_error_iff_finish {e : Error}
    (he : ∀ expected t, e ≠ .unexpectedToken expected t) :
    parseTokens tokens = .error e ↔
      ∃ s, Parser.run .initial (Token.beforeEof tokens) = .ok s ∧ Parser.finish s = .error e := by
  constructor
  · intro h
    cases hrun : Parser.run .initial (Token.beforeEof tokens) with
    | ok s => exact ⟨s, rfl, parseTokens_of_run hrun ▸ h⟩
    | error e' =>
      obtain ⟨expected, t, rfl, herror⟩ := parseTokens_of_run_eq_error hrun
      rw [herror] at h
      exact absurd (Except.error.inj h).symm (he expected t)
  · intro h
    obtain ⟨s, hrun, hfinish⟩ := h
    rw [parseTokens_of_run hrun, hfinish]

/-- The tokens are read, or the error is of one of three kinds. -/
theorem parseTokens_cases (tokens : List Token) :
    (∃ structs, parseTokens tokens = .ok structs) ∨
      (∃ expected t, parseTokens tokens = .error (.unexpectedToken expected t)) ∨
      parseTokens tokens = .error .noMoreTokens ∨
      ∃ name, parseTokens tokens = .error (.unterminatedBlock name) := by
  cases hrun : Parser.run .initial (Token.beforeEof tokens) with
  | error e =>
    obtain ⟨expected, t, rfl, h⟩ := parseTokens_of_run_eq_error hrun
    exact .inr (.inl ⟨expected, t, h⟩)
  | ok s =>
    rw [parseTokens_of_run hrun, Parser.finish_eq]
    cases s.phase.place with
    | outside => exact .inl ⟨_, rfl⟩
    | beforeName => exact .inr (.inr (.inl rfl))
    | beforeBrace name => exact .inr (.inr (.inl rfl))
    | body name => exact .inr (.inr (.inr ⟨name, rfl⟩))

/-- The token that is reported as unexpected is the one that stops the parser. -/
theorem exists_step_of_unexpectedToken {expected : String} {t : Token}
    (h : parseTokens tokens = .error (.unexpectedToken expected t)) :
    ∃ front back s, Token.beforeEof tokens = front ++ t :: back ∧
      Parser.run .initial front = .ok s ∧
      Parser.step s t = .error (.unexpectedToken expected t) := by
  cases hrun : Parser.run .initial (Token.beforeEof tokens) with
  | ok s =>
    rw [parseTokens_of_run hrun] at h
    exact absurd h (Parser.finish_ne_unexpectedToken s expected t)
  | error e =>
    obtain ⟨-, -, -, herror⟩ := parseTokens_of_run_eq_error hrun
    obtain rfl := Except.error.inj (herror.symm.trans h)
    obtain ⟨front, u, back, s, hsplit, hfront, hstep⟩ := Parser.run_eq_error_iff.1 hrun
    -- A step that fails reports the token that it was to read.
    obtain ⟨_, hu⟩ := Parser.step_eq_error hstep
    obtain ⟨-, rfl⟩ := Error.unexpectedToken.inj hu
    exact ⟨front, back, s, hsplit, hfront, hstep⟩

/-- The token that is reported as unexpected is the first one behind which nothing can make the list
    acceptable. -/
theorem parseTokens_eq_unexpectedToken_iff {t : Token} :
    (∃ expected, parseTokens tokens = .error (.unexpectedToken expected t)) ↔
      ∃ front back, Token.beforeEof tokens = front ++ t :: back ∧ Viable front ∧
        ¬ Viable (front ++ [t]) := by
  -- No part of the tokens that are read holds an end of the text.
  have hkinds {front back : List Token} (hsplit : Token.beforeEof tokens = front ++ back) :
      ∀ u ∈ front, u.kind ≠ .eof := fun u hu =>
    Token.kind_ne_eof_of_mem_beforeEof (hsplit ▸ List.mem_append_left back hu)
  have hmore {front back : List Token} (hsplit : Token.beforeEof tokens = front ++ t :: back) :
      ∀ u ∈ front ++ [t], u.kind ≠ .eof :=
    hkinds (hsplit.trans (List.append_cons front t back))
  constructor
  · intro h
    obtain ⟨expected, h⟩ := h
    obtain ⟨front, back, s, hsplit, hfront, hstep⟩ := exists_step_of_unexpectedToken h
    refine ⟨front, back, hsplit, (viable_iff_exists_run (hkinds hsplit)).2 ⟨s, hfront⟩, ?_⟩
    -- A list that is viable with the token would be read beyond it.
    intro hviable
    obtain ⟨s', hrun'⟩ := (viable_iff_exists_run (hmore hsplit)).1 hviable
    obtain ⟨mid, hmid, hlast⟩ := Parser.run_append_eq_ok_iff.1 hrun'
    obtain rfl := Except.ok.inj (hfront.symm.trans hmid)
    rw [Parser.run_singleton, hstep] at hlast
    cases hlast
  · intro h
    obtain ⟨front, back, hsplit, hviable, hnot⟩ := h
    obtain ⟨s, hfront⟩ := (viable_iff_exists_run (hkinds hsplit)).1 hviable
    cases hstep : Parser.step s t with
    | ok s' =>
      -- A token that is read leaves the list viable.
      refine absurd ((viable_iff_exists_run (hmore hsplit)).2 ⟨s', ?_⟩) hnot
      exact Parser.run_append_eq_ok_iff.2 ⟨s, hfront, (Parser.run_singleton s t).trans hstep⟩
    | error e =>
      obtain ⟨expected, rfl⟩ := Parser.step_eq_error hstep
      have hrun := Parser.run_eq_error_iff.2 ⟨front, t, back, s, hsplit, hfront, hstep⟩
      obtain ⟨-, -, -, herror⟩ := parseTokens_of_run_eq_error hrun
      exact ⟨expected, herror⟩

/-- The token that is reported as unexpected is no newline, no comment and no end of the text. -/
theorem mem_unexpectedNames {expected : String} {t : Token}
    (h : parseTokens tokens = .error (.unexpectedToken expected t)) :
    (t.kind, t.kind.describe) ∈ unexpectedNames := by
  obtain ⟨front, back, s, hsplit, -, hstep⟩ := exists_step_of_unexpectedToken h
  have heof : t.kind ≠ .eof := Token.kind_ne_eof_of_mem_beforeEof (by rw [hsplit]; simp)
  have htrivia : ¬ t.kind.isTrivia = true := by
    intro htrivia
    obtain ⟨s', hread⟩ := Parser.exists_step_eq_ok_of_isTrivia s htrivia
    rw [hread] at hstep
    cases hstep
  revert heof htrivia
  cases t.kind <;> decide

/-- More tokens are missed exactly behind a viable list that ends in a header. -/
theorem parseTokens_eq_noMoreTokens_iff :
    parseTokens tokens = .error .noMoreTokens ↔
      Viable (Token.beforeEof tokens) ∧ InHeader (Token.beforeEof tokens) := by
  rw [parseTokens_eq_error_iff_finish (by simp), viable_beforeEof_iff]
  constructor
  · intro h
    obtain ⟨s, hrun, hfinish⟩ := h
    refine ⟨⟨s, hrun⟩, ?_⟩
    rcases Parser.finish_eq_noMoreTokens_iff.1 hfinish with hplace | ⟨name, hplace⟩
    · exact .inl ((Parser.at_iff_place hrun).2 hplace)
    · exact .inr ⟨name, (Parser.at_iff_place hrun).2 hplace⟩
  · intro h
    obtain ⟨⟨s, hrun⟩, hheader⟩ := h
    refine ⟨s, hrun, Parser.finish_eq_noMoreTokens_iff.2 ?_⟩
    rcases hheader with hname | ⟨name, hbrace⟩
    · exact .inl (Parser.place_of_beforeName hrun hname)
    · exact .inr ⟨name, Parser.place_of_beforeBrace hrun hbrace⟩

/-- A struct is reported as open exactly behind a viable list that ends in its body. -/
theorem parseTokens_eq_unterminatedBlock_iff {name : Token} :
    parseTokens tokens = .error (.unterminatedBlock name) ↔
      Viable (Token.beforeEof tokens) ∧ InBody name (Token.beforeEof tokens) := by
  rw [parseTokens_eq_error_iff_finish (by simp), viable_beforeEof_iff]
  constructor
  · intro h
    obtain ⟨s, hrun, hfinish⟩ := h
    have hplace := Parser.finish_eq_unterminatedBlock_iff.1 hfinish
    exact ⟨⟨s, hrun⟩, (Parser.at_iff_place hrun).2 hplace⟩
  · intro h
    obtain ⟨⟨s, hrun⟩, hbody⟩ := h
    exact ⟨s, hrun,
      Parser.finish_eq_unterminatedBlock_iff.2 (Parser.place_of_inBody hrun hbody)⟩

end

/-- The errors of the parser are of three kinds. An unexpected token is the first one behind which
    nothing makes the list acceptable, and a viable list is rejected for the declaration at its end:
    in the header for want of tokens, in the body with the name of the struct. The message about a
    token shows its text in quotes, from which the text can be read back, or the name of its kind if
    it has no text, and gives its line and column; the one about a struct gives its name with the
    line and column of that. -/
theorem parseTokens_error_iff (tokens : List Token) :
    ((∃ structs, parseTokens tokens = .ok structs) ∨
      (∃ expected t, parseTokens tokens = .error (.unexpectedToken expected t)) ∨
      parseTokens tokens = .error .noMoreTokens ∨
      ∃ name, parseTokens tokens = .error (.unterminatedBlock name)) ∧
    (∀ t, (∃ expected, parseTokens tokens = .error (.unexpectedToken expected t)) ↔
      ∃ front back, Token.beforeEof tokens = front ++ t :: back ∧ Viable front ∧
        ¬ Viable (front ++ [t])) ∧
    (parseTokens tokens = .error .noMoreTokens ↔
      Viable (Token.beforeEof tokens) ∧ InHeader (Token.beforeEof tokens)) ∧
    (∀ name, parseTokens tokens = .error (.unterminatedBlock name) ↔
      Viable (Token.beforeEof tokens) ∧ InBody name (Token.beforeEof tokens)) ∧
    (∀ expected t, parseTokens tokens = .error (.unexpectedToken expected t) →
      ∃ kindName, (t.kind, kindName) ∈ unexpectedNames ∧
        t.shown = (if t.text = "" then kindName else Text.quoted t.text) ∧
        (t.text ≠ "" → ∀ value, Json.IsTextOf t.shown value ↔ value = .string t.text) ∧
        (Error.unexpectedToken expected t).message =
          "Expected " ++ expected ++ " but found " ++ t.shown ++ " at line " ++
            toString t.position.line ++ ", column " ++ toString t.position.column) ∧
    (∀ name, parseTokens tokens = .error (.unterminatedBlock name) →
      (Error.unterminatedBlock name).message =
        "Type " ++ name.text ++ " opened at line " ++ toString name.position.line ++ ", column " ++
          toString name.position.column ++ " is missing its closing \"\x7d\"") := by
  refine ⟨parseTokens_cases tokens, fun _ => parseTokens_eq_unexpectedToken_iff,
    parseTokens_eq_noMoreTokens_iff, fun _ => parseTokens_eq_unterminatedBlock_iff, ?_, ?_⟩
  · intro expected t h
    refine ⟨t.kind.describe, mem_unexpectedNames h, t.shown_eq, ?_, ?_⟩
    · intro htext value
      rw [t.shown_eq, if_neg htext]
      exact Json.isTextOf_quoted_iff
    · show "Expected " ++ expected ++ " but found " ++ t.shown ++ " at " ++
        Error.placeText t.position = _
      simp only [Error.placeText, String.append_assoc]
      rfl
  · intro name _
    show "Type " ++ name.text ++ " opened at " ++ Error.placeText name.position ++
      " is missing its closing \"\x7d\"" = _
    simp only [Error.placeText, String.append_assoc]
    rfl

/-- A tag without text stands where a field should begin: no text can be quoted, and the message
    names its kind. -/
theorem parseTokens_error_iff_emptyTag :
    parseTokens [⟨.typeKeyword, "type", ⟨1, 1⟩⟩, ⟨.ident, "A", ⟨1, 6⟩⟩,
        ⟨.structKeyword, "struct", ⟨1, 8⟩⟩, ⟨.leftBrace, "\x7b", ⟨1, 15⟩⟩, ⟨.tag, "", ⟨1, 17⟩⟩] =
      .error (.unexpectedToken "field name or \"\x7d\"" ⟨.tag, "", ⟨1, 17⟩⟩) ∧
    (Error.unexpectedToken "field name or \"\x7d\"" ⟨.tag, "", ⟨1, 17⟩⟩).message =
      "Expected field name or \"\x7d\" but found struct tag at line 1, column 17" := by
  have hparse : parseTokens [⟨.typeKeyword, "type", ⟨1, 1⟩⟩, ⟨.ident, "A", ⟨1, 6⟩⟩,
        ⟨.structKeyword, "struct", ⟨1, 8⟩⟩, ⟨.leftBrace, "\x7b", ⟨1, 15⟩⟩, ⟨.tag, "", ⟨1, 17⟩⟩] =
      .error (.unexpectedToken "field name or \"\x7d\"" ⟨.tag, "", ⟨1, 17⟩⟩) := rfl
  obtain ⟨-, -, -, -, hshown, -⟩ := parseTokens_error_iff [⟨.typeKeyword, "type", ⟨1, 1⟩⟩,
    ⟨.ident, "A", ⟨1, 6⟩⟩, ⟨.structKeyword, "struct", ⟨1, 8⟩⟩, ⟨.leftBrace, "\x7b", ⟨1, 15⟩⟩,
    ⟨.tag, "", ⟨1, 17⟩⟩]
  obtain ⟨kindName, hname, hfound, -, hmessage⟩ := hshown _ _ hparse
  -- The table has one name for each kind.
  have hkind : kindName = "struct tag" := by
    simpa only [unexpectedNames, List.mem_cons, Prod.mk.injEq, reduceCtorEq, false_and, true_and,
      false_or, or_false, List.not_mem_nil] using hname
  subst hkind
  rw [hfound] at hmessage
  exact ⟨hparse, hmessage⟩

end StructSchema
