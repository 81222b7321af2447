import StructSchema.Proofs.Schema.Parsing

/-!
# Reading tokens elsewhere

The parser carries the positions of tokens along and never looks at them: tokens that are moved to
other places are read as before, and only the position in an error moves with them. Nor does it look
at the structs that are complete: what is read behind some structs is read as at the start.

## Key results

- `Parser.step_relocate`, `Parser.parseFrom_relocate`: reading moved tokens behind other structs
- `parseTokens_relocate`: moved tokens declare the same structs, and errors move along
-/

namespace StructSchema

open StructSchema.Text

/-! ## Moving positions -/

/-- The token at another place. -/
def Token.relocate (f : Position → Position) (t : Token) : Token :=
  { t with position := f t.position }

/-- The error with the place it names, if it names one, moved. -/
def Error.relocate (f : Position → Position) : Error → Error
  | .unreadable run position => .unreadable run (f position)
  | .unexpectedToken expected found => .unexpectedToken expected (found.relocate f)
  | .unterminatedBlock name => .unterminatedBlock (name.relocate f)
  | e => e

namespace Token

variable {f : Position → Position}

@[simp] theorem relocate_kind (t : Token) : (t.relocate f).kind = t.kind := rfl

theorem beforeEof_map_relocate (ts : List Token) :
    beforeEof (ts.map (relocate f)) = (beforeEof ts).map (relocate f) :=
  List.takeWhile_map ..

end Token

namespace Parser

/-- The phase with the tokens it keeps at other places. -/
def Phase.relocate (f : Position → Position) : Phase → Phase
  | .between => .between
  | .afterType => .afterType
  | .afterName name => .afterName (name.relocate f)
  | .afterStruct name => .afterStruct (name.relocate f)
  | .body name fields => .body (name.relocate f) fields
  | .fieldNamed name fields fieldName =>
    .fieldNamed (name.relocate f) fields (fieldName.relocate f)
  | .fieldTyped name fields field => .fieldTyped (name.relocate f) fields field
  | .fieldTagged name fields field => .fieldTagged (name.relocate f) fields field

/-- The state with the tokens it keeps at other places, behind structs that are complete before. -/
def State.relocate (f : Position → Position) (before : List Struct) (s : State) : State :=
  ⟨s.done ++ before, s.phase.relocate f⟩

/-- What comes out when the state is relocated, and with it the place that an error names. -/
def relocated (f : Position → Position) (before : List Struct) (result : Except Error State) :
    Except Error State :=
  (result.map (State.relocate f before)).mapError (Error.relocate f)

/-! ## Reading moved tokens -/

section

variable (f : Position → Position) (before : List Struct)

theorem stepTo_relocate (s : State) (kinds : List TokenKind) (expected : String) (t : Token)
    (next : Phase) :
    stepTo (s.relocate f before) kinds expected (t.relocate f) (next.relocate f) =
      relocated f before (stepTo s kinds expected t next) := by
  -- What is done depends on the kind of the token alone.
  rw [stepTo, stepTo, Token.relocate_kind]
  split
  · rfl
  · split <;> rfl

theorem stepBody_relocate (done : List Struct) (name t : Token) (fields : List Field) :
    stepBody (done ++ before) (name.relocate f) fields (t.relocate f) =
      relocated f before (stepBody done name fields t) := by
  obtain ⟨kind, text, position⟩ := t
  cases kind <;> rfl

/-- A moved token is read as before. -/
theorem step_relocate (s : State) (t : Token) :
    step (s.relocate f before) (t.relocate f) = relocated f before (step s t) := by
  obtain ⟨done, phase⟩ := s
  cases phase with
  | between => exact stepTo_relocate f before ⟨done, .between⟩ _ _ t .afterType
  | afterType => exact stepTo_relocate f before ⟨done, .afterType⟩ _ _ t (.afterName t)
  | afterName name =>
    exact stepTo_relocate f before ⟨done, .afterName name⟩ _ _ t (.afterStruct name)
  | afterStruct name =>
    exact stepTo_relocate f before ⟨done, .afterStruct name⟩ _ _ t (.body name [])
  | fieldNamed name fields fieldName =>
    exact stepTo_relocate f before ⟨done, .fieldNamed name fields fieldName⟩ _ _ t
      (.fieldTyped name fields (Field.ofSource fieldName.text t.text))
  | body name fields => exact stepBody_relocate f before done name t fields
  | fieldTyped name fields field =>
    -- A tag and a comment give the field their texts, all else is read as between two fields.
    simp only [step, State.relocate, Phase.relocate, Token.relocate_kind]
    split
    · rfl
    · rfl
    · exact stepBody_relocate f before done name t (field :: fields)
  | fieldTagged name fields field =>
    simp only [step, State.relocate, Phase.relocate, Token.relocate_kind]
    split
    · rfl
    · exact stepBody_relocate f before done name t (field :: fields)

theorem finish_relocate (s : State) :
    finish (s.relocate f before) =
      ((finish s).map (before.reverse ++ ·)).mapError (Error.relocate f) := by
  obtain ⟨done, phase⟩ := s
  cases phase with
  | between =>
    -- The latest struct comes first, so the earlier ones are turned round in front.
    exact congrArg Except.ok List.reverse_append
  | _ => rfl

/-- Moved tokens are read as before: their structs stand behind those before them, and an error
    moves along. -/
theorem parseFrom_relocate (s : State) (ts : List Token) :
    parseFrom (s.relocate f before) (ts.map (Token.relocate f)) =
      ((parseFrom s ts).map (before.reverse ++ ·)).mapError (Error.relocate f) := by
  induction ts generalizing s with
  | nil => exact finish_relocate f before s
  | cons t ts ih =>
    rw [List.map_cons, parseFrom_cons, parseFrom_cons, step_relocate]
    cases step s t with
    | error e => rfl
    | ok s' => exact ih s'

/-- Moved tokens are read from the start as before, and an error moves along. -/
theorem parseFrom_initial_relocate (ts : List Token) :
    parseFrom .initial (ts.map (Token.relocate f)) =
      (parseFrom .initial ts).mapError (Error.relocate f) := by
  refine (parseFrom_relocate f [] .initial ts).trans ?_
  show ((parseFrom .initial ts).map ([] ++ ·)).mapError _ = _
  cases parseFrom .initial ts <;> rfl

end

end Parser

/-- Moved tokens declare the same structs, and errors move along. -/
theorem parseTokens_relocate (f : Position → Position) (ts : List Token) :
    parseTokens (ts.map (Token.relocate f)) = (parseTokens ts).mapError (Error.relocate f) := by
  have hmoved := Parser.parseFrom_initial_relocate f (Token.beforeEof ts)
  rw [← Token.beforeEof_map_relocate] at hmoved
  exact hmoved

end StructSchema
