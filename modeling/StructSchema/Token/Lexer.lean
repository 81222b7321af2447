import StructSchema.Error
import StructSchema.Token.Lexeme

/-!
# From text to tokens

A text is cut into lexemes from its front for as long as a lexical rule applies. If nothing is left
over, the lexemes give the tokens, each at the place where its lexeme starts; otherwise the text is
refused for what stands where no rule applies.

## Key results

- `Lexeme.split_of_read?`, `Lexeme.split_of_read?_eq_none`: how a text is cut, lexeme by lexeme
- `Lexeme.spelling_append_split`: the lexemes and what is left over make up the text
- `Lexeme.read?_split`: no rule applies to what is left over
- `Lexeme.place_cons`, `Lexeme.place_append`: how lexemes give tokens
-/

namespace StructSchema

open StructSchema.Unicode StructSchema.Text

namespace Lexeme

/-! ## Cutting -/

/-- Cuts lexemes off the front of a text, onto those cut before, the latest first. -/
def splitOnto (done : List Lexeme) (cs : List Char) : List Lexeme × List Char :=
  match _h : read? cs with
  | none => (done.reverse, cs)
  | some (l, rest) => splitOnto (l :: done) rest
termination_by cs.length
decreasing_by exact length_lt_of_read? _h

/-- The lexemes at the front of a text, and the text from where no lexical rule applies. -/
def split (cs : List Char) : List Lexeme × List Char := splitOnto [] cs

theorem splitOnto_of_read? {done : List Lexeme} {cs rest : List Char} {l : Lexeme}
    (h : read? cs = some (l, rest)) : splitOnto done cs = splitOnto (l :: done) rest := by
  rw [splitOnto]
  split
  · next h' => rw [h] at h'; cases h'
  · next h' => rw [h] at h'; cases h'; rfl

theorem splitOnto_of_read?_eq_none {done : List Lexeme} {cs : List Char} (h : read? cs = none) :
    splitOnto done cs = (done.reverse, cs) := by
  rw [splitOnto]
  split
  · rfl
  · next h' => rw [h] at h'; cases h'

theorem splitOnto_eq (done : List Lexeme) (cs : List Char) :
    splitOnto done cs = (done.reverse ++ (split cs).1, (split cs).2) := by
  suffices ∀ n, ∀ done cs, cs.length = n →
      splitOnto done cs = (done.reverse ++ (split cs).1, (split cs).2) from this _ done cs rfl
  intro n
  induction n using Nat.strongRecOn with
  | ind n ih =>
    intro done cs hn
    cases h : read? cs with
    | none => simp [split, splitOnto_of_read?_eq_none h]
    | some read =>
      obtain ⟨l, rest⟩ := read
      have shorter : rest.length < n := hn ▸ length_lt_of_read? h
      -- Both sides put the lexeme on top and go on with the rest.
      rw [split, splitOnto_of_read? h, splitOnto_of_read? h, ih _ shorter (l :: done) rest rfl,
        ih _ shorter [l] rest rfl]
      simp

/-- Where a rule applies, its lexeme is the first. -/
theorem split_of_read? {cs rest : List Char} {l : Lexeme} (h : read? cs = some (l, rest)) :
    split cs = (l :: (split rest).1, (split rest).2) := by
  rw [split, splitOnto_of_read? h, splitOnto_eq]
  rfl

/-- Where no rule applies, nothing is cut off. -/
theorem split_of_read?_eq_none {cs : List Char} (h : read? cs = none) : split cs = ([], cs) :=
  splitOnto_of_read?_eq_none h

/-- The lexemes and what is left over make up the text. -/
theorem spelling_append_split (cs : List Char) :
    (split cs).1.flatMap spelling ++ (split cs).2 = cs := by
  suffices ∀ n, ∀ cs, cs.length = n → (split cs).1.flatMap spelling ++ (split cs).2 = cs from
    this _ cs rfl
  intro n
  induction n using Nat.strongRecOn with
  | ind n ih =>
    intro cs hn
    cases h : read? cs with
    | none => rw [split_of_read?_eq_none h]; rfl
    | some read =>
      obtain ⟨l, rest⟩ := read
      have shorter : rest.length < n := hn ▸ length_lt_of_read? h
      rw [split_of_read? h, List.flatMap_cons, List.append_assoc, ih _ shorter rest rfl,
        spelling_append_of_read? h]

/-- No rule applies to what is left over. -/
theorem read?_split (cs : List Char) : read? (split cs).2 = none := by
  suffices ∀ n, ∀ cs, cs.length = n → read? (split cs).2 = none from this _ cs rfl
  intro n
  induction n using Nat.strongRecOn with
  | ind n ih =>
    intro cs hn
    cases h : read? cs with
    | none => rw [split_of_read?_eq_none h]; exact h
    | some read =>
      obtain ⟨l, rest⟩ := read
      rw [split_of_read? h]
      exact ih _ (hn ▸ length_lt_of_read? h) rest rfl

/-! ## Placing -/

/-- The place after a run of lexemes. -/
def placeAfter (p : Position) (lexemes : List Lexeme) : Position :=
  lexemes.foldl (fun p l => p.after l.spelling) p

/-- Adds the tokens of a run of lexemes to those before it, the latest first. -/
def placeOnto (done : List Token) (p : Position) : List Lexeme → List Token
  | [] => done.reverse
  | l :: rest => placeOnto ((l.token? p).toList ++ done) (p.after l.spelling) rest

/-- The tokens of a run of lexemes, the first of which starts at `p`. -/
def place (p : Position) (lexemes : List Lexeme) : List Token := placeOnto [] p lexemes

theorem placeOnto_eq (done : List Token) (p : Position) (lexemes : List Lexeme) :
    placeOnto done p lexemes = done.reverse ++ place p lexemes := by
  induction lexemes generalizing done p with
  | nil => simp [place, placeOnto]
  | cons l rest ih =>
    rw [place, placeOnto, placeOnto, ih, ih (_ ++ [])]
    cases l.token? p <;> simp

@[simp] theorem place_nil (p : Position) : place p [] = [] := rfl

/-- A lexeme gives its token, if it stands for one, and moves the place past its spelling. -/
theorem place_cons (p : Position) (l : Lexeme) (rest : List Lexeme) :
    place p (l :: rest) = (l.token? p).toList ++ place (p.after l.spelling) rest := by
  rw [place, placeOnto, placeOnto_eq]
  cases l.token? p <;> rfl

theorem place_append (p : Position) (front back : List Lexeme) :
    place p (front ++ back) = place p front ++ place (placeAfter p front) back := by
  induction front generalizing p with
  | nil => rfl
  | cons l rest ih =>
    rw [List.cons_append, place_cons, place_cons, ih, List.append_assoc]
    rfl

end Lexeme

/-! ## Tokens -/

/-- Why a text that starts at `p` and to whose front no lexical rule applies is refused: its struct
    tag is not closed, or no rule knows its first character. -/
def lexicalError (p : Position) (cs : List Char) : Error :=
  if cs.head? = some backtick then .missingDelimiter backtick
  else .unreadable (String.ofList (cs.takeWhile fun c => !isWhiteSpace c)) p

/-- The tokens of a text, the last of which marks its end. -/
def tokenize (text : String) : Except Error (List Token) :=
  let (lexemes, rest) := Lexeme.split text.toList
  let stop := Lexeme.placeAfter .start lexemes
  if rest.isEmpty then .ok (Lexeme.place .start lexemes ++ [⟨.eof, "", stop⟩])
  else .error (lexicalError stop rest)

end StructSchema
