import StructSchema.Text.Position
import StructSchema.Text.Quoted

/-!
# Tokens

The smallest parts of a struct declaration that carry meaning, each with its text and its place.
-/

namespace StructSchema

/-- The kinds of tokens. -/
inductive TokenKind where
  /-- The word `type`. -/
  | typeKeyword
  /-- The word `struct`. -/
  | structKeyword
  | leftBrace
  | rightBrace
  /-- A word that is no keyword and has no modifier. -/
  | ident
  /-- A type name behind a `[]` or `*` modifier. -/
  | modifiedType
  /-- What stands between the backticks of a struct tag. -/
  | tag
  /-- What follows `//`, without the white space around it. -/
  | comment
  | newline
  /-- The end of the text. -/
  | eof
deriving DecidableEq, Repr

/-- What a message calls a token of the kind. -/
def TokenKind.describe : TokenKind → String
  | .typeKeyword => "\"type\""
  | .structKeyword => "\"struct\""
  | .leftBrace => "\"\x7b\""
  | .rightBrace => "\"\x7d\""
  | .ident => "identifier"
  | .modifiedType => "type"
  | .tag => "struct tag"
  | .comment => "comment"
  | .newline => "newline"
  | .eof => "end of input"

/-- Newlines and comments separate tokens and mean nothing by themselves. -/
def TokenKind.isTrivia (kind : TokenKind) : Bool := kind == .newline || kind == .comment

/-- A token: its kind, its text and the place of its first character. -/
structure Token where
  kind : TokenKind
  text : String
  position : Text.Position
deriving DecidableEq, Repr

namespace Token

/-- How a message shows the token: its text in quotes or, if it has none, its kind. -/
def shown (t : Token) : String :=
  if t.text.isEmpty then t.kind.describe else Text.quoted t.text

/-- A token without text is shown by its kind, and every other one by its text. -/
theorem shown_eq (t : Token) :
    t.shown = if t.text = "" then t.kind.describe else Text.quoted t.text := by
  simp only [shown, String.isEmpty_iff]

/-- The tokens before the end of the text. -/
def beforeEof (tokens : List Token) : List Token := tokens.takeWhile (·.kind != .eof)

theorem kind_ne_eof_of_mem_beforeEof {tokens : List Token} {t : Token} (h : t ∈ beforeEof tokens) :
    t.kind ≠ .eof :=
  bne_iff_ne.1 (List.all_eq_true.1 List.all_takeWhile t h)

theorem beforeEof_cons {t : Token} (h : t.kind ≠ .eof) (rest : List Token) :
    beforeEof (t :: rest) = t :: beforeEof rest :=
  List.takeWhile_cons_of_pos (bne_iff_ne.2 h)

/-- Behind tokens none of which is the end of the text, the end is still to come. -/
theorem beforeEof_append {front : List Token} (h : ∀ t ∈ front, t.kind ≠ .eof)
    (back : List Token) : beforeEof (front ++ back) = front ++ beforeEof back :=
  List.takeWhile_append_of_pos fun t ht => bne_iff_ne.2 (h t ht)

end Token

end StructSchema
