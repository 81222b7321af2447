import StructSchema.Proofs.Schema.Parsing
import StructSchema.Proofs.Token.Placing

/-!
# Newlines and comments between tokens

The parser looks at a newline only to see that a field ends there, never at its place. Behind it the
parser is in a settled state, in which no newline and no comment changes anything.

## Key results

- `parse_of_split`: what a text declares, by its cut
- `Parser.parseFrom_map_loosen`: the places of newlines do not matter
- `Parser.settled_of_step_newline`: a newline settles the parser
- `Parser.parseFrom_append_trivia_append`: where the parser is settled, newlines and comments may be
  put in
-/

namespace StructSchema

open StructSchema.Text StructSchema.Grammar

/-- What a text declares, or its error, by its cut. -/
theorem parse_of_split {text : String} {ls : List Lexeme} {rest : List Char}
    (h : Lexeme.split text.toList = (ls, rest)) :
    parse text =
      if rest = [] then Parser.parseFrom .initial (Lexeme.place .start ls)
      else .error (lexicalError (Lexeme.placeAfter .start ls) rest) := by
  rw [parse, tokenize_of_split h]
  split
  · show parseTokens _ = _
    rw [parseTokens, Lexeme.beforeEof_place_append]
    rfl
  · rfl

/-! ## The places of newlines -/

/-- The token, a newline at no place in particular. -/
def Token.loosen (t : Token) : Token :=
  if t.kind = .newline then { t with position := .start } else t

theorem Token.loosen_of_kind_ne {t : Token} (h : t.kind ≠ .newline) : t.loosen = t := if_neg h

namespace Parser

/-- The place of a newline does not matter. -/
theorem step_loosen (s : State) (t : Token) : step s t.loosen = step s t := by
  by_cases h : t.kind = .newline
  · -- In every phase a newline is passed over or ends a field.
    obtain ⟨kind, text, position⟩ := t
    obtain rfl : kind = .newline := h
    obtain ⟨done, phase⟩ := s
    cases phase <;> rfl
  · rw [Token.loosen_of_kind_ne h]

/-- The places of newlines do not matter. -/
theorem parseFrom_map_loosen (s : State) (ts : List Token) :
    parseFrom s (ts.map Token.loosen) = parseFrom s ts := by
  induction ts generalizing s with
  | nil => rfl
  | cons t ts ih =>
    rw [List.map_cons, parseFrom_cons, parseFrom_cons, step_loosen]
    cases step s t with
    | error e => rfl
    | ok s' => exact ih s'

/-! ## Settled states -/

/-- The next token cannot belong to a field that is complete up to its tag or its comment. -/
def Phase.Settled : Phase → Prop
  | .fieldTyped .. | .fieldTagged .. => False
  | _ => True

/-- A newline settles the parser. -/
theorem settled_of_step_newline {s s' : State} {t : Token} (ht : t.kind = .newline)
    (h : step s t = .ok s') : s'.phase.Settled := by
  obtain ⟨kind, text, position⟩ := t
  obtain rfl : kind = .newline := ht
  obtain ⟨done, phase⟩ := s
  cases phase <;> (obtain rfl := Except.ok.inj h; trivial)

/-- In a settled state a newline and a comment change nothing. -/
theorem step_of_settled {s : State} (hs : s.phase.Settled) {t : Token}
    (ht : t.kind.isTrivia = true) : step s t = .ok s := by
  obtain ⟨done, phase⟩ := s
  -- Only behind a type or a tag could a comment belong to a field.
  cases phase with
  | fieldTyped name fields field => exact hs.elim
  | fieldTagged name fields field => exact hs.elim
  | _ => exact if_pos ht

/-- A settled parser passes over newlines and comments. -/
theorem parseFrom_trivia_append {s : State} (hs : s.phase.Settled) {gap : List Token}
    (hgap : Trivia gap) (ts : List Token) : parseFrom s (gap ++ ts) = parseFrom s ts := by
  induction gap with
  | nil => rfl
  | cons t gap ih =>
    obtain ⟨ht, hgap⟩ := trivia_cons.1 hgap
    rw [List.cons_append, parseFrom_cons, step_of_settled hs ht]
    exact ih hgap

/-- Where the parser is settled, newlines and comments may be put in. -/
theorem parseFrom_append_trivia_append {s : State} {front gap : List Token}
    (hfront : ∀ s', run s front = .ok s' → s'.phase.Settled) (hgap : Trivia gap)
    (back : List Token) : parseFrom s (front ++ (gap ++ back)) = parseFrom s (front ++ back) := by
  rw [parseFrom_append, parseFrom_append]
  cases hrun : run s front with
  | error e => rfl
  | ok s' => exact parseFrom_trivia_append (hfront s' hrun) hgap back

end Parser

end StructSchema
