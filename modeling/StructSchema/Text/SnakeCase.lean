import StructSchema.Unicode.Case

/-!
# Snake case

A name in lower case with `_` between its words. Runs of uppercase characters stay together, so that
an abbreviation is one word: `sessionID` becomes `session_id` and `HTTPServer` becomes
`http_server`.
-/

namespace StructSchema.Text

open StructSchema.Unicode

/-- Whether an uppercase character begins a new word after `previous` and before `next`: it does
    after a character that is neither uppercase nor `_`, and inside a run of uppercase ones if a
    lowercase one follows. -/
def beginsWord (previous next : Option Char) : Bool :=
  match previous with
  | none => false
  | some p => if isUppercase p then next.any isLowercase else p != '_'

/-- The separator in front of an uppercase character, if one is needed. -/
def separator (previous next : Option Char) : List Char :=
  if beginsWord previous next then ['_'] else []

/-- The rest of a name in snake case, after the character `previous`. -/
def snakeCaseAfter (previous : Option Char) : List Char → List Char
  | [] => []
  | c :: rest =>
    if isUppercase c then
      separator previous rest.head? ++ lowercase c ++ snakeCaseAfter (some c) rest
    else c :: snakeCaseAfter (some c) rest

/-- A name in snake case. -/
def snakeCase (name : String) : String := String.ofList (snakeCaseAfter none name.toList)

end StructSchema.Text
