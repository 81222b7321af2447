import StructSchema.Schema.TypeModifiers
import StructSchema.Text.Trim
import StructSchema.Token
import StructSchema.Unicode.Letter
import StructSchema.Unicode.Number

/-!
# Lexemes

The pieces that a text is cut into: each is written in one way, stands for one token or, if it is a
blank, for none, and is read off the front of a text by one lexical rule.

## Key results

- `Lexeme.spelling_append_of_read?`: the lexeme read off a text and what it leaves make up the text
- `Lexeme.spelling_ne_nil_of_read?`: no lexeme that is read is empty
- `Lexeme.length_lt_of_read?`: hence every lexeme leaves a shorter text
-/

namespace StructSchema

open StructSchema.Unicode StructSchema.Text

/-- A piece of a text. -/
inductive Lexeme where
  /-- A white space character that is no line end. -/
  | blank (c : Char)
  | newline
  | leftBrace
  | rightBrace
  /-- Two slashes and the rest of the line. -/
  | comment (body : List Char)
  /-- Text between backticks, possibly over several lines. -/
  | tag (body : List Char)
  /-- A name, perhaps behind type modifiers. -/
  | word (modifiers : TypeModifiers) (name : List Char)
deriving DecidableEq, Repr

/-- The backtick, which opens and closes a struct tag. -/
def backtick : Char := '\x60'

/-- A character that a name may start with. -/
def isWordStart (c : Char) : Bool := isLetter c || c == '_'

/-- A character that a name may go on with. A dot joins a package name and a type name. -/
def isWordChar (c : Char) : Bool := isLetter c || isNumber c || c == '_' || c == '.'

theorem isWordChar_of_isWordStart {c : Char} (h : isWordStart c = true) : isWordChar c = true := by
  simp only [isWordStart, Bool.or_eq_true] at h
  simp only [isWordChar, Bool.or_eq_true]
  rcases h with h | h
  · exact .inl (.inl (.inl h))
  · exact .inl (.inr h)

namespace Lexeme

/-- The characters that a lexeme is written with. -/
def spelling : Lexeme → List Char
  | .blank c => [c]
  | .newline => ['\n']
  | .leftBrace => ['\x7b']
  | .rightBrace => ['\x7d']
  | .comment body => '/' :: '/' :: body
  | .tag body => backtick :: (body ++ [backtick])
  | .word modifiers name => modifiers.spelling ++ name

/-- The kind of a word: a keyword has no modifier, and a modifier makes it a modified type. -/
def wordKind (modifiers : TypeModifiers) (name : List Char) : TokenKind :=
  if modifiers.isSlice || modifiers.isPointer then .modifiedType
  else if name = "type".toList then .typeKeyword
  else if name = "struct".toList then .structKeyword
  else .ident

/-- The kind and the text of the token that a lexeme stands for. -/
def content? : Lexeme → Option (TokenKind × List Char)
  | .blank _ => none
  | .newline => some (.newline, ['\n'])
  | .leftBrace => some (.leftBrace, ['\x7b'])
  | .rightBrace => some (.rightBrace, ['\x7d'])
  | .comment body => some (.comment, trim body)
  | .tag body => some (.tag, body)
  | .word modifiers name => some (wordKind modifiers name, modifiers.spelling ++ name)

/-- The token that a lexeme at a position stands for. -/
def token? (l : Lexeme) (position : Position) : Option Token :=
  l.content?.map fun content => ⟨content.1, String.ofList content.2, position⟩

/-- Reads a struct tag, given the text after its opening backtick. -/
def readTag? (cs : List Char) : Option (Lexeme × List Char) :=
  match cs.dropWhile (· != backtick) with
  | [] => none
  | _ :: rest => some (.tag (cs.takeWhile (· != backtick)), rest)

/-- Reads the longest word at the front of a text. -/
def readWord? (cs : List Char) : Option (Lexeme × List Char) :=
  let (modifiers, body) := TypeModifiers.read cs
  if body.head?.any isWordStart then
    some (.word modifiers (body.takeWhile isWordChar), body.dropWhile isWordChar)
  else none

/-- Reads a comment, given the text after its two slashes. -/
def readComment (cs : List Char) : Lexeme × List Char :=
  (.comment (cs.takeWhile (· != '\n')), cs.dropWhile (· != '\n'))

/-- Reads one lexeme off the front of a text, by the one rule that applies there. -/
def read? : List Char → Option (Lexeme × List Char)
  | [] => none
  | '\n' :: rest => some (.newline, rest)
  | '\x7b' :: rest => some (.leftBrace, rest)
  | '\x7d' :: rest => some (.rightBrace, rest)
  | '/' :: '/' :: rest => some (readComment rest)
  | '\x60' :: rest => readTag? rest
  | c :: rest => if isWhiteSpace c then some (.blank c, rest) else readWord? (c :: rest)

/-- Only the backtick opens a tag, and the tag ends at the next one. -/
theorem spelling_append_of_readTag? {cs rest : List Char} {l : Lexeme}
    (h : readTag? cs = some (l, rest)) : l.spelling ++ rest = backtick :: cs := by
  unfold readTag? at h
  split at h
  · cases h
  · next c after hdrop =>
    obtain ⟨rfl, rfl⟩ := Prod.mk.inj (Option.some.inj h)
    have hc : (c != backtick) = false := by
      have := List.head?_dropWhile_not (· != backtick) cs
      rw [hdrop] at this
      simpa using this
    have hc : c = backtick := by simpa using hc
    -- The text is the body, the backtick that ends it, and the rest.
    have whole := List.takeWhile_append_dropWhile (p := (· != backtick)) (l := cs)
    rw [hdrop, hc] at whole
    rw [spelling, List.cons_append, List.append_assoc]
    exact congrArg (backtick :: ·) whole

theorem spelling_append_of_readWord? {cs rest : List Char} {l : Lexeme}
    (h : readWord? cs = some (l, rest)) : l.spelling ++ rest = cs := by
  simp only [readWord?] at h
  split at h
  · obtain ⟨rfl, rfl⟩ := Prod.mk.inj (Option.some.inj h)
    rw [spelling, List.append_assoc, List.takeWhile_append_dropWhile,
      TypeModifiers.spelling_append_rest]
  · cases h

theorem spelling_ne_nil_of_readWord? {cs rest : List Char} {l : Lexeme}
    (h : readWord? cs = some (l, rest)) : l.spelling ≠ [] := by
  simp only [readWord?] at h
  split at h
  · next hstart =>
    obtain ⟨rfl, rfl⟩ := Prod.mk.inj (Option.some.inj h)
    cases hbody : (TypeModifiers.read cs).2 with
    | nil => simp [hbody] at hstart
    | cons c tail =>
      have hc : isWordStart c = true := by simpa [hbody] using hstart
      simp [spelling, isWordChar_of_isWordStart hc]
  · cases h

/-- The lexeme read off a text and what it leaves make up the text. -/
theorem spelling_append_of_read? {cs rest : List Char} {l : Lexeme}
    (h : read? cs = some (l, rest)) : l.spelling ++ rest = cs := by
  unfold read? at h
  split at h
  · cases h
  · cases h; rfl
  · cases h; rfl
  · cases h; rfl
  · cases h
    simp [spelling, List.takeWhile_append_dropWhile]
  · exact spelling_append_of_readTag? h
  · split at h
    · cases h; rfl
    · exact spelling_append_of_readWord? h

/-- No lexeme that is read is empty. -/
theorem spelling_ne_nil_of_read? {cs rest : List Char} {l : Lexeme}
    (h : read? cs = some (l, rest)) : l.spelling ≠ [] := by
  cases l with
  | word modifiers name =>
    unfold read? at h
    split at h <;> try (cases h)
    · simp only [readTag?] at h
      split at h <;> cases h
    · split at h
      · cases h
      · exact spelling_ne_nil_of_readWord? h
  | _ => simp [spelling]

/-- Every lexeme that is read leaves a shorter text. -/
theorem length_lt_of_read? {cs rest : List Char} {l : Lexeme}
    (h : read? cs = some (l, rest)) : rest.length < cs.length := by
  have whole := congrArg List.length (spelling_append_of_read? h)
  have := List.length_pos_iff.2 (spelling_ne_nil_of_read? h)
  simp only [List.length_append] at whole
  omega

end Lexeme

end StructSchema
