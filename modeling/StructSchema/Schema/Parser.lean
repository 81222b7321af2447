import StructSchema.Schema.Struct
import StructSchema.Token.Lexer

/-!
# From tokens to structs

A declaration is `type Name struct {`, then fields, then `}`. A field is a name and a type; a struct
tag and a comment belong to it if they follow it directly, the tag first. Newlines and comments may
stand between any two of the other tokens.

The parser is an automaton: a `Phase` says what has been read of the declaration at hand,
`Parser.step` reads one token and `Parser.finish` judges the phase in which the tokens end.

## Key results

- `Parser.run_append`: reading tokens one after the other
-/

namespace StructSchema

namespace Parser

/-- What has been read of a declaration. Fields are kept with the latest first. -/
inductive Phase where
  /-- Nothing: the next token begins a declaration. -/
  | between
  | afterType
  | afterName (name : Token)
  | afterStruct (name : Token)
  /-- The opening brace and some fields. -/
  | body (name : Token) (fields : List Field)
  /-- The name of the next field. -/
  | fieldNamed (name : Token) (fields : List Field) (fieldName : Token)
  /-- The latest field up to its type: a tag or a comment directly after it belongs to it. -/
  | fieldTyped (name : Token) (fields : List Field) (field : Field)
  /-- The latest field up to its tag: a comment directly after it belongs to it. -/
  | fieldTagged (name : Token) (fields : List Field) (field : Field)
deriving DecidableEq, Repr

/-- The declarations that are complete, the latest first, and the one being read. -/
structure State where
  done : List Struct
  phase : Phase
deriving DecidableEq, Repr

/-- Nothing has been read. -/
def State.initial : State := ⟨[], .between⟩

/-- Reads a token between two fields of a struct. -/
def stepBody (done : List Struct) (name : Token) (fields : List Field) (t : Token) :
    Except Error State :=
  if t.kind.isTrivia then .ok ⟨done, .body name fields⟩
  else match t.kind with
    | .rightBrace => .ok ⟨⟨name.text, fields.reverse⟩ :: done, .between⟩
    | .ident => .ok ⟨done, .fieldNamed name fields t⟩
    | _ => .error (.unexpectedToken "field name or \"\x7d\"" t)

/-- Reads a token in a phase that passes over newlines and comments and wants one of the kinds. -/
def stepTo (s : State) (kinds : List TokenKind) (expected : String) (t : Token) (next : Phase) :
    Except Error State :=
  if t.kind.isTrivia then .ok s
  else if t.kind ∈ kinds then .ok ⟨s.done, next⟩
  else .error (.unexpectedToken expected t)

/-- Reads one token. -/
def step (s : State) (t : Token) : Except Error State :=
  match s.phase with
  | .between => stepTo s [.typeKeyword] TokenKind.typeKeyword.describe t .afterType
  | .afterType => stepTo s [.ident] "type name" t (.afterName t)
  | .afterName name =>
    stepTo s [.structKeyword] TokenKind.structKeyword.describe t (.afterStruct name)
  | .afterStruct name => stepTo s [.leftBrace] TokenKind.leftBrace.describe t (.body name [])
  | .body name fields => stepBody s.done name fields t
  | .fieldNamed name fields fieldName =>
    stepTo s [.ident, .modifiedType] "field type" t
      (.fieldTyped name fields (Field.ofSource fieldName.text t.text))
  | .fieldTyped name fields field =>
    -- Nothing is passed over here: a newline ends the field.
    match t.kind with
    | .tag => .ok ⟨s.done, .fieldTagged name fields { field with tag? := some t.text }⟩
    | .comment => .ok ⟨s.done, .body name ({ field with comment? := some t.text } :: fields)⟩
    | _ => stepBody s.done name (field :: fields) t
  | .fieldTagged name fields field =>
    match t.kind with
    | .comment => .ok ⟨s.done, .body name ({ field with comment? := some t.text } :: fields)⟩
    | _ => stepBody s.done name (field :: fields) t

/-- Reads tokens one after the other. -/
def run : State → List Token → Except Error State
  | s, [] => .ok s
  | s, t :: rest =>
    match step s t with
    | .ok s' => run s' rest
    | .error e => .error e

/-- Judges the state in which the tokens end: an open declaration is an error, after its brace one
    that names the struct. -/
def finish (s : State) : Except Error (List Struct) :=
  match s.phase with
  | .between => .ok s.done.reverse
  | .afterType | .afterName _ | .afterStruct _ => .error .noMoreTokens
  | .body name _ | .fieldNamed name _ _ | .fieldTyped name _ _ | .fieldTagged name _ _ =>
    .error (.unterminatedBlock name)

/-- Reading tokens one after the other. -/
theorem run_append (s : State) (front back : List Token) :
    run s (front ++ back) = (run s front).bind fun s' => run s' back := by
  induction front generalizing s with
  | nil => rfl
  | cons t rest ih =>
    simp only [List.cons_append, run]
    cases step s t with
    | error e => rfl
    | ok s' => exact ih s'

end Parser

/-- The structs that the tokens before the end of the text declare, in their order. -/
def parseTokens (tokens : List Token) : Except Error (List Struct) :=
  (Parser.run .initial (Token.beforeEof tokens)).bind Parser.finish

/-- The structs that a text declares, in their order. -/
def parse (text : String) : Except Error (List Struct) :=
  (tokenize text).bind parseTokens

end StructSchema
