import StructSchema.Error

/-!
# Cursors

A place between two characters of a text, which moves forward only. A cursor keeps the characters on
both sides, so that together they always are the text.

## Key results

- `Cursor.text_advance`, `Cursor.text_next`, `Cursor.text_seekPast`, `Cursor.text_seek`: moving
  leaves the text as it is
-/

namespace StructSchema.Text

/-- A place in a text. -/
structure Cursor where
  /-- The characters before the place, the nearest first. -/
  passed : List Char
  /-- The characters after the place. -/
  unread : List Char
deriving DecidableEq, Repr

namespace Cursor

/-- The place before the first character of a text. -/
def ofText (text : String) : Cursor := ⟨[], text.toList⟩

/-- The characters of the text. -/
def text (c : Cursor) : List Char := c.passed.reverse ++ c.unread

/-- How many characters stand before the place. -/
def position (c : Cursor) : Nat := c.passed.length

/-- Whether a character stands after the place. -/
def hasNext (c : Cursor) : Bool := !c.unread.isEmpty

/-- The character `n` characters after the place. -/
def peekNth? (c : Cursor) (n : Nat) : Option Char := (c.unread.drop n).head?

/-- The character after the place. -/
def peek? (c : Cursor) : Option Char := c.unread.head?

/-- The characters from position `start` up to position `stop`, as far as the text has them. -/
def slice (c : Cursor) (start stop : Nat) : List Char := (c.text.take stop).drop start

/-- The characters after the place. -/
def rest (c : Cursor) : List Char := c.unread

/-- The place after the next `n` characters, or the end of the text if there are fewer. -/
def advance (c : Cursor) (n : Nat) : Cursor :=
  ⟨(c.unread.take n).reverse ++ c.passed, c.unread.drop n⟩

/-- Reads the next character. -/
def next (c : Cursor) : Except Error Char × Cursor :=
  match c.unread with
  | [] => (.error .endOfInput, c)
  | x :: rest => (.ok x, ⟨x :: c.passed, rest⟩)

/-- Steps over the next character, whatever it is, and goes on to the next `target` after it. -/
def seek (target : Char) (c : Cursor) : Except Error Unit × Cursor :=
  match c.unread with
  | [] => (.error .endOfInput, c)
  | _ :: rest =>
    let found := c.advance (1 + (rest.takeWhile (· != target)).length)
    (if found.unread.isEmpty then .error (.missingDelimiter target) else .ok (), found)

/-- Steps over the next character, whatever it is, and goes past the next `target` after it. -/
def seekPast (target : Char) (c : Cursor) : Except Error Unit × Cursor :=
  let (result, found) := c.seek target
  match result with
  | .ok () => (.ok (), found.advance 1)
  | .error e => (.error e, found)

/-- Moving ahead leaves the text as it is. -/
@[simp] theorem text_advance (c : Cursor) (n : Nat) : (c.advance n).text = c.text := by
  simp [text, advance, List.take_append_drop]

/-- Reading a character leaves the text as it is. -/
@[simp] theorem text_next (c : Cursor) : c.next.2.text = c.text := by
  obtain ⟨passed, unread⟩ := c
  cases unread with
  | nil => rfl
  | cons x rest => simp [text, Cursor.next]

/-- Searching leaves the text as it is. -/
@[simp] theorem text_seek (target : Char) (c : Cursor) : (c.seek target).2.text = c.text := by
  obtain ⟨passed, unread⟩ := c
  cases unread with
  | nil => rfl
  | cons x rest => exact text_advance _ _

/-- Searching leaves the text as it is. -/
@[simp] theorem text_seekPast (target : Char) (c : Cursor) :
    (c.seekPast target).2.text = c.text := by
  unfold seekPast
  cases h : (c.seek target).1 <;> simp [h]

end Cursor

end StructSchema.Text
