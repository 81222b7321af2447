/-!
# Quoted text

A text in double quotes, in the form of a JSON string: the quote, the backslash and the control
characters below the blank are escaped, all else stands as it is.
-/

namespace StructSchema.Text

/-- How a character is written between quotes. -/
def quotedChar (c : Char) : List Char :=
  if c = '"' then ['\\', '"']
  else if c = '\\' then ['\\', '\\']
  else if c = '\x08' then ['\\', 'b']
  else if c = '\x0c' then ['\\', 'f']
  else if c = '\n' then ['\\', 'n']
  else if c = '\r' then ['\\', 'r']
  else if c = '\t' then ['\\', 't']
  else if c.toNat < 0x20 then
    ['\\', 'u', '0', '0', Nat.digitChar (c.toNat / 16), Nat.digitChar (c.toNat % 16)]
  else [c]

/-- The characters of a text in quotes. -/
def quotedChars (cs : List Char) : List Char := '"' :: (cs.flatMap quotedChar ++ ['"'])

/-- A text in quotes. -/
def quoted (text : String) : String := String.ofList (quotedChars text.toList)

end StructSchema.Text
