import StructSchema.Proofs.Schema.Trivia
import StructSchema.Proofs.Token.Delivery
import StructSchema.Proofs.Token.Scanning

/-!
# Reading declarations from a stream

Structs can be read from a stream in rounds: between two declarations a round looks whether a token
is left and reads the head of a declaration, and in a body it reads a field or the closing brace.
The tag and the comment of a field are the very next tokens. Tokens that end in a body leave the
struct open, and in a head they are missed. The parser gives the same for the same tokens.

## Key results

- `Parser.parseStream_expect`: a phase that wants a token is a call that expects it
- `Parser.parseStream_take_tag`, `Parser.parseStream_take_comment`: the tokens that go with a field
- `Reader.parseStream_round`: a round takes the parser from the one state to the other
- `Reader.read_start`: reading the tokens in rounds is parsing them
- `Reader.parse_eq_read`: a text is parsed by a cursor and a stream
-/

namespace StructSchema

open StructSchema.Grammar

/-! ## The reader -/

/-- Where a reader stands between two rounds. -/
inductive Stage where
  /-- Between two declarations. -/
  | between
  /-- In the body of a declaration, behind some of its fields, the latest first. -/
  | inBody (name : Token) (fields : List Field)
deriving DecidableEq, Repr

/-- The tokens that are left, the declarations that are complete, the latest first, and the one that
    is being read. -/
structure Reader where
  stream : Stream
  done : List Struct
  stage : Stage
deriving DecidableEq, Repr

namespace Reader

/-- Nothing has been read. -/
def start (tokens : List Token) : Reader := ⟨⟨tokens⟩, [], .between⟩

/-- The token that a call reads, and the stream behind it. Its error is passed on as `onError`
    says. -/
def demand (onError : Error → Error) (call : Except Error Token × Stream) :
    Except Error (Token × Stream) :=
  match call with
  | (.ok t, s) => .ok (t, s)
  | (.error e, _) => .error (onError e)

/-- Tokens that end in the body of a struct leave it open. -/
def leftOpen (name : Token) : Error → Error
  | .noMoreTokens => .unterminatedBlock name
  | e => e

/-- Reads the head of a declaration, up to its opening brace. -/
def head (s : Stream) : Except Error (Token × Stream) := do
  let (_, s) ← demand id (s.expect [.typeKeyword] TokenKind.typeKeyword.describe)
  let (name, s) ← demand id (s.expect [.ident] "type name")
  let (_, s) ← demand id (s.expect [.structKeyword] TokenKind.structKeyword.describe)
  let (_, s) ← demand id (s.expect [.leftBrace] TokenKind.leftBrace.describe)
  return (name, s)

/-- Reads a field behind its name. -/
def field (name fieldName : Token) (s : Stream) : Except Error (Field × Stream) := do
  let (type, s) ← demand (leftOpen name) (s.expect [.ident, .modifiedType] "field type")
  let (tag?, s) := s.take? .tag
  let (comment?, s) := s.take? .comment
  return ({ Field.ofSource fieldName.text type.text with
    tag? := tag?.map (·.text), comment? := comment?.map (·.text) }, s)

/-- Makes a round, if there is another one. -/
def round (r : Reader) : Except Error (Option Reader) := do
  match r.stage with
  | .between =>
    let (more, s) := r.stream.hasNext
    if more then
      let (name, s) ← head s
      return some ⟨s, r.done, .inBody name []⟩
    else return none
  | .inBody name fields =>
    let (t, s) ← demand (leftOpen name) r.stream.next
    if t.kind = .rightBrace then
      return some ⟨s, ⟨name.text, fields.reverse⟩ :: r.done, .between⟩
    else if t.kind ≠ .ident then
      throw (.unexpectedToken "field name or \"\x7d\"" t)
    else
      let (f, s) ← field name t s
      return some ⟨s, r.done, .inBody name (f :: fields)⟩

/-! ## Every round reads a token -/

theorem exists_of_bind_eq_ok {α β : Type} {x : Except Error α} {f : α → Except Error β} {b : β}
    (h : x >>= f = .ok b) : ∃ a, x = .ok a ∧ f a = .ok b := by
  cases x with
  | error e => cases h
  | ok a => exact ⟨a, rfl, h⟩

variable {s s' : Stream} {t : Token}

theorem eq_of_demand {onError : Error → Error} {call : Except Error Token × Stream}
    (h : demand onError call = .ok (t, s')) : call = (.ok t, s') := by
  obtain ⟨result, rest⟩ := call
  cases result with
  | error e => cases h
  | ok u =>
    obtain ⟨rfl, rfl⟩ := Prod.mk.inj (Except.ok.inj h)
    rfl

theorem length_lt_of_demand_expect {onError : Error → Error} {kinds : List TokenKind}
    {expected : String} (h : demand onError (s.expect kinds expected) = .ok (t, s')) :
    s'.unread.length < s.unread.length :=
  Stream.length_lt_of_expect (eq_of_demand h)

theorem length_lt_of_head {name : Token} (h : head s = .ok (name, s')) :
    s'.unread.length < s.unread.length := by
  obtain ⟨⟨_, s₁⟩, hkeyword, h⟩ := exists_of_bind_eq_ok h
  obtain ⟨⟨_, s₂⟩, hname, h⟩ := exists_of_bind_eq_ok h
  obtain ⟨⟨_, s₃⟩, hstruct, h⟩ := exists_of_bind_eq_ok h
  obtain ⟨⟨_, s₄⟩, hbrace, h⟩ := exists_of_bind_eq_ok h
  obtain ⟨-, rfl⟩ := Prod.mk.inj (Except.ok.inj h)
  have := length_lt_of_demand_expect hkeyword
  have := length_lt_of_demand_expect hname
  have := length_lt_of_demand_expect hstruct
  have := length_lt_of_demand_expect hbrace
  omega

theorem length_lt_of_field {name fieldName : Token} {f : Field}
    (h : field name fieldName s = .ok (f, s')) : s'.unread.length < s.unread.length := by
  obtain ⟨⟨type, s₁⟩, htype, h⟩ := exists_of_bind_eq_ok h
  have hrest : ((s₁.take? .tag).2.take? .comment).2 = s' := congrArg Prod.snd (Except.ok.inj h)
  subst hrest
  have := length_lt_of_demand_expect htype
  have := (s₁.take?_suffix .tag).length_le
  have := ((s₁.take? .tag).2.take?_suffix .comment).length_le
  omega

/-- Every round reads a token. -/
theorem length_lt_of_round {r r' : Reader} (h : r.round = .ok (some r')) :
    r'.stream.unread.length < r.stream.unread.length := by
  obtain ⟨s, done, stage⟩ := r
  cases stage with
  | between =>
    have := s.hasNext_suffix.length_le
    simp only [round] at h
    split at h
    · obtain ⟨⟨name, s'⟩, hhead, hr⟩ := exists_of_bind_eq_ok h
      obtain rfl := Option.some.inj (Except.ok.inj hr)
      have := length_lt_of_head hhead
      show s'.unread.length < s.unread.length
      omega
    · cases h
  | inBody name fields =>
    obtain ⟨⟨t, s₁⟩, hnext, h⟩ := exists_of_bind_eq_ok h
    have hlt := Stream.length_lt_of_next (eq_of_demand hnext)
    simp only at h
    split at h
    · obtain rfl := Option.some.inj (Except.ok.inj h)
      exact hlt
    · split at h
      · cases h
      · obtain ⟨⟨f, s₂⟩, hfield, hr⟩ := exists_of_bind_eq_ok h
        obtain rfl := Option.some.inj (Except.ok.inj hr)
        exact Nat.lt_trans (length_lt_of_field hfield) hlt

/-- Makes rounds for as long as there is another one. -/
def read (r : Reader) : Except Error (List Struct) :=
  match _h : r.round with
  | .error e => .error e
  | .ok none => .ok r.done.reverse
  | .ok (some r') => r'.read
termination_by r.stream.unread.length
decreasing_by exact length_lt_of_round _h

end Reader

/-! ## The parser on a stream -/

namespace Parser

variable {st : State} {s s' : Stream} {t : Token}

/-- What the parser gives for the tokens that are left, up to the end of the text. -/
def parseStream (st : State) (s : Stream) : Except Error (List Struct) :=
  parseFrom st (Token.beforeEof s.unread)

/-- A settled parser passes over the newlines and comments in front. -/
theorem parseStream_skipTrivia (hst : st.phase.Settled) (s : Stream) :
    parseStream st s.skipTrivia = parseStream st s := by
  obtain ⟨gap, hgap, hsplit, -⟩ := s.exists_skipTrivia
  rw [parseStream, parseStream, hsplit, Stream.beforeEof_trivia_append hgap,
    parseFrom_trivia_append hst hgap]

/-- A settled parser is at its end where nothing but newlines and comments is left. -/
theorem parseStream_of_exhausted (hst : st.phase.Settled) (hs : s.Exhausted) :
    parseStream st s = finish st := by
  have hparse := parseFrom_trivia_append hst hs []
  rwa [List.append_nil] at hparse

/-- A settled parser goes on with the next token. -/
theorem parseStream_of_next (hst : st.phase.Settled) (h : s.next = (.ok t, s')) :
    t.kind.isTrivia = false ∧
      parseStream st s = step st t >>= fun st' => parseStream st' s' := by
  rcases s.next_cases with ⟨-, hnext⟩ | ⟨gap, u, rest, hgap, hu, heof, hsplit, hnext⟩
  · rw [hnext] at h
    cases h
  · rw [hnext] at h
    cases h
    refine ⟨hu, ?_⟩
    rw [parseStream, hsplit, Stream.beforeEof_trivia_append hgap, parseFrom_trivia_append hst hgap,
      Token.beforeEof_cons heof, parseFrom_cons]
    rfl

/-- A phase that passes over newlines and comments and wants one of the kinds is a call that expects
    one of them. -/
theorem parseStream_expect {kinds : List TokenKind} {expected : String} (next : Token → Phase)
    {onError : Error → Error} (hst : st.phase.Settled)
    (hstep : ∀ t, step st t = stepTo st kinds expected t (next t))
    (hend : s.Exhausted → finish st = .error (onError .noMoreTokens))
    (hother : ∀ t, onError (.unexpectedToken expected t) = .unexpectedToken expected t) :
    parseStream st s = Reader.demand onError (s.expect kinds expected) >>= fun read =>
      parseStream ⟨st.done, next read.1⟩ read.2 := by
  rcases s.next_cases with ⟨hs, hnext⟩ | ⟨gap, t, rest, -, -, -, -, hnext⟩
  · rw [parseStream_of_exhausted hst hs, hend hs, Stream.expect, hnext]
    rfl
  · obtain ⟨ht, hparse⟩ := parseStream_of_next hst hnext
    rw [hparse, hstep, stepTo, if_neg (by simp [ht]), Stream.expect, hnext]
    by_cases hkind : t.kind ∈ kinds
    · simp only [if_pos hkind, Except.bind]
      rfl
    · simp only [if_neg hkind, Except.bind]
      rw [Reader.demand, hother]
      rfl

/-- A state that may take a token of one kind, and else is as good as another state, is a call that
    takes the very next token. -/
theorem parseStream_take {kind : TokenKind} {taken : Token → State} {left : State}
    (hkind : kind ≠ .eof) (htaken : ∀ t, t.kind = kind → step st t = .ok (taken t))
    (hleft : ∀ t, t.kind ≠ kind → step st t = step left t) (hend : finish st = finish left) :
    parseStream st s = parseStream ((s.take? kind).1.elim left taken) (s.take? kind).2 := by
  obtain ⟨unread⟩ := s
  cases unread with
  | nil => exact hend
  | cons t rest =>
    by_cases ht : t.kind = kind
    · have htake : Stream.take? kind ⟨t :: rest⟩ = (some t, ⟨rest⟩) := if_pos ht
      rw [htake, parseStream, Token.beforeEof_cons (ht ▸ hkind), parseFrom_cons, htaken t ht]
      rfl
    · have htake : Stream.take? kind ⟨t :: rest⟩ = (none, ⟨t :: rest⟩) := if_neg ht
      rw [htake]
      show parseFrom st _ = parseFrom left _
      by_cases heof : t.kind = .eof
      · have hnil : Token.beforeEof (t :: rest) = [] := by simp [Token.beforeEof, heof]
        rw [hnil]
        exact hend
      · rw [Token.beforeEof_cons heof, parseFrom_cons, parseFrom_cons, hleft t ht]

/-- Behind the type of a field, its tag is the very next token. -/
theorem parseStream_take_tag (done : List Struct) (name : Token) (fields : List Field) (f : Field)
    (s : Stream) : parseStream ⟨done, .fieldTyped name fields f⟩ s =
      parseStream ⟨done, .fieldTagged name fields
        { f with tag? := ((s.take? .tag).1.map (·.text)).or f.tag? }⟩ (s.take? .tag).2 := by
  have htake : parseStream ⟨done, .fieldTyped name fields f⟩ s =
      parseStream ((s.take? .tag).1.elim ⟨done, .fieldTagged name fields f⟩ fun t =>
        ⟨done, .fieldTagged name fields { f with tag? := some t.text }⟩) (s.take? .tag).2 := by
    apply parseStream_take
    · decide
    · intro t ht
      simp only [step, ht]
    · intro t ht
      obtain ⟨kind, text, position⟩ := t
      cases kind with
      | tag => exact absurd rfl ht
      | _ => rfl
    · rfl
  rw [htake]
  cases (s.take? .tag).1 <;> rfl

/-- Behind its tag, or its type, the comment of a field is the very next token. -/
theorem parseStream_take_comment (done : List Struct) (name : Token) (fields : List Field)
    (f : Field) (s : Stream) : parseStream ⟨done, .fieldTagged name fields f⟩ s =
      parseStream ⟨done, .body name
        ({ f with comment? := ((s.take? .comment).1.map (·.text)).or f.comment? } :: fields)⟩
        (s.take? .comment).2 := by
  have htake : parseStream ⟨done, .fieldTagged name fields f⟩ s =
      parseStream ((s.take? .comment).1.elim ⟨done, .body name (f :: fields)⟩ fun t =>
        ⟨done, .body name ({ f with comment? := some t.text } :: fields)⟩)
        (s.take? .comment).2 := by
    apply parseStream_take
    · decide
    · intro t ht
      simp only [step, ht]
    · intro t ht
      obtain ⟨kind, text, position⟩ := t
      cases kind with
      | comment => exact absurd rfl ht
      | _ => rfl
    · rfl
  rw [htake]
  cases (s.take? .comment).1 <;> rfl

end Parser

/-! ## Rounds of the reader -/

namespace Reader

/-- The state of the parser that has read the same. -/
def state (r : Reader) : Parser.State :=
  ⟨r.done, match r.stage with
    | .between => .between
    | .inBody name fields => .body name fields⟩

/-- The head of a declaration leads into its body. -/
theorem parseStream_head (done : List Struct) {s : Stream} (hs : ¬ s.Exhausted) :
    Parser.parseStream ⟨done, .between⟩ s = head s >>= fun read =>
      Parser.parseStream ⟨done, .body read.1 []⟩ read.2 := by
  have hkeyword : Parser.parseStream ⟨done, .between⟩ s =
      demand id (s.expect [.typeKeyword] TokenKind.typeKeyword.describe) >>= fun read =>
        Parser.parseStream ⟨done, .afterType⟩ read.2 :=
    Parser.parseStream_expect (fun _ => .afterType) trivial (fun _ => rfl)
      (fun hexhausted => absurd hexhausted hs) fun _ => rfl
  have hname (s : Stream) : Parser.parseStream ⟨done, .afterType⟩ s =
      demand id (s.expect [.ident] "type name") >>= fun read =>
        Parser.parseStream ⟨done, .afterName read.1⟩ read.2 :=
    Parser.parseStream_expect .afterName trivial (fun _ => rfl) (fun _ => rfl)
      fun _ => rfl
  have hstruct (name : Token) (s : Stream) : Parser.parseStream ⟨done, .afterName name⟩ s =
      demand id (s.expect [.structKeyword] TokenKind.structKeyword.describe) >>= fun read =>
        Parser.parseStream ⟨done, .afterStruct name⟩ read.2 :=
    Parser.parseStream_expect (fun _ => .afterStruct name) trivial (fun _ => rfl) (fun _ => rfl)
      fun _ => rfl
  have hbrace (name : Token) (s : Stream) : Parser.parseStream ⟨done, .afterStruct name⟩ s =
      demand id (s.expect [.leftBrace] TokenKind.leftBrace.describe) >>= fun read =>
        Parser.parseStream ⟨done, .body name []⟩ read.2 :=
    Parser.parseStream_expect (fun _ => .body name []) trivial (fun _ => rfl) (fun _ => rfl)
      fun _ => rfl
  -- The calls are made one after the other; the first that fails decides.
  rw [hkeyword, head, bind_assoc]
  refine bind_congr fun read => ?_
  rw [hname, bind_assoc]
  refine bind_congr fun name => ?_
  rw [hstruct, bind_assoc]
  refine bind_congr fun read => ?_
  rw [hbrace, bind_assoc]
  rfl

/-- A field behind its name leads on to the next one. -/
theorem parseStream_field (done : List Struct) (name fieldName : Token) (fields : List Field)
    (s : Stream) : Parser.parseStream ⟨done, .fieldNamed name fields fieldName⟩ s =
      field name fieldName s >>= fun read =>
        Parser.parseStream ⟨done, .body name (read.1 :: fields)⟩ read.2 := by
  have hexpect : Parser.parseStream ⟨done, .fieldNamed name fields fieldName⟩ s =
      demand (leftOpen name) (s.expect [.ident, .modifiedType] "field type") >>= fun read =>
        Parser.parseStream ⟨done, .fieldTyped name fields
          (Field.ofSource fieldName.text read.1.text)⟩ read.2 :=
    Parser.parseStream_expect
      (fun type => .fieldTyped name fields (Field.ofSource fieldName.text type.text)) trivial
      (fun _ => rfl) (fun _ => rfl) fun _ => rfl
  rw [hexpect, field]
  cases demand (leftOpen name) (s.expect [.ident, .modifiedType] "field type") with
  | error e => rfl
  | ok read =>
    show Parser.parseStream _ read.2 = _
    rw [Parser.parseStream_take_tag, Parser.parseStream_take_comment]
    simp only [Field.ofSource, Option.or_none]
    rfl

/-- What the parser gives behind a round. -/
def behind (done : List Struct) : Except Error (Option Reader) → Except Error (List Struct)
  | .error e => .error e
  | .ok none => .ok done.reverse
  | .ok (some r) => Parser.parseStream r.state r.stream

/-- A round between two declarations. -/
theorem parseStream_round_between (s : Stream) (done : List Struct) :
    Parser.parseStream ⟨done, .between⟩ s = behind done (round ⟨s, done, .between⟩) := by
  have hround : round ⟨s, done, .between⟩ =
      if s.hasNext.1 then
        head s.skipTrivia >>= fun read => .ok (some ⟨read.2, done, .inBody read.1 []⟩)
      else .ok none := rfl
  by_cases hs : s.Exhausted
  · rw [hround, if_neg fun hmore => s.hasNext_fst_iff.1 hmore hs]
    exact Parser.parseStream_of_exhausted trivial hs
  · rw [hround, if_pos (s.hasNext_fst_iff.2 hs)]
    -- The head is read behind the newlines and comments that looking ahead has passed over.
    have hskipped : ¬ s.skipTrivia.Exhausted := by
      obtain ⟨gap, hgap, hsplit, -⟩ := s.exists_skipTrivia
      rwa [← Stream.exhausted_iff_of_eq_append hgap hsplit]
    have hsettled : (Parser.State.mk done .between).phase.Settled := trivial
    rw [← Parser.parseStream_skipTrivia hsettled s, parseStream_head done hskipped]
    cases head s.skipTrivia <;> rfl

/-- A round in the body of a declaration. -/
theorem parseStream_round_inBody (s : Stream) (done : List Struct) (name : Token)
    (fields : List Field) :
    Parser.parseStream ⟨done, .body name fields⟩ s =
      behind done (round ⟨s, done, .inBody name fields⟩) := by
  have hsettled : (Parser.State.mk done (.body name fields)).phase.Settled := trivial
  rcases s.next_cases with ⟨hs, hnext⟩ | ⟨gap, t, rest, -, -, -, -, hnext⟩
  · have hround : round ⟨s, done, .inBody name fields⟩ = .error (.unterminatedBlock name) := by
      simp only [round, hnext]
      rfl
    rw [hround]
    exact Parser.parseStream_of_exhausted hsettled hs
  · obtain ⟨ht, hparse⟩ := Parser.parseStream_of_next hsettled hnext
    have hround : round ⟨s, done, .inBody name fields⟩ =
        if t.kind = .rightBrace then
          .ok (some ⟨⟨rest⟩, ⟨name.text, fields.reverse⟩ :: done, .between⟩)
        else if t.kind ≠ .ident then .error (.unexpectedToken "field name or \"\x7d\"" t)
        else field name t ⟨rest⟩ >>= fun read =>
          .ok (some ⟨read.2, done, .inBody name (read.1 :: fields)⟩) := by
      simp only [round, hnext]
      rfl
    rw [hround, hparse]
    obtain ⟨kind, text, position⟩ := t
    cases kind with
    | newline | comment => cases ht
    | ident =>
      show Parser.parseStream ⟨done, .fieldNamed name fields _⟩ ⟨rest⟩ = _
      rw [parseStream_field]
      cases field name ⟨.ident, text, position⟩ ⟨rest⟩ <;> rfl
    | _ => rfl

/-- A round takes the parser from the state of the reader to that behind the round. -/
theorem parseStream_round (r : Reader) :
    Parser.parseStream r.state r.stream = behind r.done r.round := by
  obtain ⟨s, done, stage⟩ := r
  cases stage with
  | between => exact parseStream_round_between s done
  | inBody name fields => exact parseStream_round_inBody s done name fields

/-- Reading in rounds is parsing from the state of the reader. -/
theorem read_eq (r : Reader) : r.read = Parser.parseStream r.state r.stream := by
  fun_induction read r with
  | case1 r e h => rw [parseStream_round, h, behind]
  | case2 r h => rw [parseStream_round, h, behind]
  | case3 r r' h ih => rw [parseStream_round, h, behind, ih]

/-- Reading tokens in rounds is parsing them. -/
theorem read_start (tokens : List Token) : (start tokens).read = parseTokens tokens :=
  read_eq (start tokens)

/-- Parsing a text is scanning it with a cursor and reading the tokens in rounds. -/
theorem parse_eq_read (text : String) :
    parse text = (Scan.start text).run.bind fun tokens => (start tokens).read := by
  have hread : (fun tokens => (start tokens).read) = parseTokens := funext read_start
  rw [parse, Scan.run_start, hread]

end Reader

end StructSchema
