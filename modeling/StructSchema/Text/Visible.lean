import StructSchema.Unicode.Visible

/-!
# Visible forms

A character or a text in quotes, for reports: a character that shows no mark of its own is written
by its number.
-/

namespace StructSchema.Text

open StructSchema.Unicode

/-- How a character is written between the quotes `quote`. -/
def visibleChar (quote c : Char) : List Char :=
  if c = '\x00' then ['\\', '0']
  else if c = '\t' then ['\\', 't']
  else if c = '\r' then ['\\', 'r']
  else if c = '\n' then ['\\', 'n']
  else if c = '\\' then ['\\', '\\']
  else if c = quote then ['\\', quote]
  else if isVisible c then [c]
  else '\\' :: 'u' :: '\x7b' :: (Nat.toDigits 16 c.toNat ++ ['\x7d'])

/-- A character in single quotes. -/
def visibleCharText (c : Char) : String := String.ofList ('\'' :: (visibleChar '\'' c ++ ['\'']))

/-- A text in double quotes. -/
def visibleText (text : String) : String :=
  String.ofList ('"' :: (text.toList.flatMap (visibleChar '"') ++ ['"']))

end StructSchema.Text
