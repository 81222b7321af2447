import StructSchema.Token
import StructSchema.Text.Visible

/-!
# Errors

Why a text, a list of tokens or a look-up is refused, with the message for people and the report
that names every detail.
-/

namespace StructSchema

open StructSchema.Text

/-- The reasons for refusing an input. -/
inductive Error where
  /-- No lexical rule applies to the text at the position, which goes on with `run` up to the next
      blank. -/
  | unreadable (run : String) (position : Position)
  /-- A character was asked for after the last one. -/
  | endOfInput
  /-- A token was asked for after the last one. -/
  | noMoreTokens
  /-- The character does not occur in the rest of the text. -/
  | missingDelimiter (delimiter : Char)
  /-- A token stands where something else is expected. -/
  | unexpectedToken (expected : String) (found : Token)
  /-- The struct with this name is not closed. -/
  | unterminatedBlock (name : Token)
  /-- The struct has no field of this name. -/
  | fieldNotFound (name : String)
deriving DecidableEq, Repr

namespace Error

/-- The name of the reason. -/
def label : Error → String
  | .unreadable .. => "ParseError"
  | .endOfInput => "EndOfInput"
  | .noMoreTokens => "NoMoreTokens"
  | .missingDelimiter _ => "DelimiterNotFound"
  | .unexpectedToken .. => "UnexpectedToken"
  | .unterminatedBlock _ => "UnterminatedBlock"
  | .fieldNotFound _ => "FieldNotFound"

/-- What is wrong with a text to which no lexical rule applies. -/
def unreadableText (run : String) : String := "Syntax error: " ++ quoted run

/-- A position inside a message. -/
def placeText (p : Position) : String :=
  "line " ++ toString p.line ++ ", column " ++ toString p.column

/-- The message for people. -/
def message : Error → String
  | .unreadable run position =>
    "Parse error at " ++ placeText position ++ ": " ++ unreadableText run
  | .endOfInput => "Unexpected end of input"
  | .noMoreTokens => "No more tokens"
  | .missingDelimiter delimiter => "Cannot jump to " ++ visibleCharText delimiter
  | .unexpectedToken expected found =>
    "Expected " ++ expected ++ " but found " ++ found.shown ++ " at " ++ placeText found.position
  | .unterminatedBlock name =>
    "Type " ++ name.text ++ " opened at " ++ placeText name.position ++
      " is missing its closing \"\x7d\""
  | .fieldNotFound name => "No such field " ++ quoted name

/-- A label with named details in braces. -/
def detailed (label : String) (details : List (String × String)) : String :=
  label ++ " \x7b " ++ ", ".intercalate (details.map fun d => d.1 ++ ": " ++ d.2) ++ " \x7d"

/-- The details of a position. -/
def placeDetails (p : Position) : List (String × String) :=
  [("line", toString p.line), ("column", toString p.column)]

/-- The report: the label of the reason and every detail, texts in their visible form. -/
def report (e : Error) : String :=
  match e with
  | .unreadable run position =>
    detailed e.label (("msg", visibleText (unreadableText run)) :: placeDetails position)
  | .endOfInput | .noMoreTokens => e.label
  | .missingDelimiter delimiter => e.label ++ "(" ++ visibleCharText delimiter ++ ")"
  | .unexpectedToken expected found =>
    detailed e.label
      (("expected", visibleText expected) :: ("found", visibleText found.shown) ::
        placeDetails found.position)
  | .unterminatedBlock name =>
    detailed e.label (("name", visibleText name.text) :: placeDetails name.position)
  | .fieldNotFound name => e.label ++ "(" ++ visibleText (quoted name) ++ ")"

end Error

end StructSchema
