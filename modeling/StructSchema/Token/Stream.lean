import StructSchema.Error

/-!
# Streams of tokens

Reading tokens one by one, for callers that look at each as they go. Newlines and comments are
passed over, except where the very next token is asked for, and the end of the text is not read as a
token.

## Key results

- `Stream.hasNext_suffix`, `Stream.take?_suffix`: looking at a token never moves back
- `Stream.length_lt_of_next`, `Stream.length_lt_of_expect`: reading one moves forward
-/

namespace StructSchema

/-- The tokens that have not been read. -/
structure Stream where
  unread : List Token
deriving DecidableEq, Repr

namespace Stream

/-- The stream from its first token that is no newline and no comment. -/
def skipTrivia (s : Stream) : Stream := ⟨s.unread.dropWhile (·.kind.isTrivia)⟩

/-- Whether a token other than newlines, comments and the end of the text is left. The newlines and
    comments in front of it are passed over, whatever the answer. -/
def hasNext (s : Stream) : Bool × Stream :=
  let s' := s.skipTrivia
  (s'.unread.head?.any (·.kind != .eof), s')

/-- Reads the next token that is no newline and no comment. -/
def next (s : Stream) : Except Error Token × Stream :=
  match s.skipTrivia with
  | ⟨t :: rest⟩ => if t.kind = .eof then (.error .noMoreTokens, ⟨t :: rest⟩) else (.ok t, ⟨rest⟩)
  | ⟨[]⟩ => (.error .noMoreTokens, ⟨[]⟩)

/-- Reads the very next token if it has the kind. -/
def take? (kind : TokenKind) (s : Stream) : Option Token × Stream :=
  match s.unread with
  | t :: rest => if t.kind = kind then (some t, ⟨rest⟩) else (none, s)
  | [] => (none, s)

/-- Reads the next token and refuses it if it has none of the kinds. It is read all the same. -/
def expect (kinds : List TokenKind) (expected : String) (s : Stream) :
    Except Error Token × Stream :=
  let (result, rest) := s.next
  (result.bind fun t =>
    if t.kind ∈ kinds then .ok t else .error (.unexpectedToken expected t), rest)

/-! ## Reading moves forward -/

theorem skipTrivia_suffix (s : Stream) : s.skipTrivia.unread <:+ s.unread :=
  List.dropWhile_suffix _

theorem hasNext_suffix (s : Stream) : s.hasNext.2.unread <:+ s.unread :=
  s.skipTrivia_suffix

/-- A token that is read leaves fewer tokens. -/
theorem length_lt_of_next {s s' : Stream} {t : Token} (h : s.next = (.ok t, s')) :
    s'.unread.length < s.unread.length := by
  have hskipped := s.skipTrivia_suffix.length_le
  unfold next at h
  split at h
  · next u rest hskip =>
    rw [hskip] at hskipped
    split at h
    · cases h
    · obtain ⟨-, rfl⟩ := Prod.mk.inj h
      exact hskipped
  · cases h

/-- A token that is expected and read leaves fewer tokens. -/
theorem length_lt_of_expect {s s' : Stream} {kinds : List TokenKind} {expected : String} {t : Token}
    (h : s.expect kinds expected = (.ok t, s')) : s'.unread.length < s.unread.length := by
  rw [expect] at h
  cases hnext : s.next with
  | mk result rest =>
    rw [hnext] at h
    obtain ⟨hresult, rfl⟩ := Prod.mk.inj h
    cases result with
    | error e => cases hresult
    | ok u => exact length_lt_of_next hnext

theorem take?_suffix (kind : TokenKind) (s : Stream) : (s.take? kind).2.unread <:+ s.unread := by
  unfold take?
  split
  · next t rest h =>
    split
    · exact h ▸ List.suffix_cons t rest
    · exact List.suffix_refl _
  · exact List.suffix_refl _

end Stream

end StructSchema
