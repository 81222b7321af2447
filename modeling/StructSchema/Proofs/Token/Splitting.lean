import StructSchema.Token.Lexeme.Grammar
import StructSchema.Token.Lexer

/-!
# The one way to cut a text

The lexer cuts a text into lexemes that spell it, each of them well formed and ending where it may.
No other lexemes do, so lexemes that may stand one after the other are found again in the text that
they spell.

## Key results

- `Lexeme.split_eq_iff`: the cut of a text, said without the lexer
- `Lexeme.Separated.of_getLast?`: what may follow a run of lexemes
- `tokenize_of_split`: the tokens of a text, or its error, by its cut
- `tokenize_eq_ok_iff`: the texts that have tokens, and the tokens they have
-/

namespace StructSchema

open StructSchema.Unicode StructSchema.Text

namespace Lexeme

/-- The lexemes may stand one after the other in front of `rest`: each is well formed and ends where
    it may. -/
def Separated (rest : List Char) : List Lexeme → Prop
  | [] => True
  | l :: ls => l.WellFormed ∧ l.EndsBefore (ls.flatMap spelling ++ rest) ∧ Separated rest ls

/-- What holds where no rule applies, and before a lexeme if it holds behind it, holds of every
    text. -/
theorem read?_induction {motive : List Char → Prop}
    (stuck : ∀ cs, read? cs = none → motive cs)
    (step : ∀ cs l rest, read? cs = some (l, rest) → motive rest → motive cs)
    (cs : List Char) : motive cs := by
  cases h : read? cs with
  | none => exact stuck cs h
  | some read =>
    obtain ⟨l, rest⟩ := read
    exact step cs l rest h (read?_induction stuck step rest)
termination_by cs.length
decreasing_by exact length_lt_of_read? h

/-- The lexemes of a text may stand one after the other. -/
theorem separated_split (cs : List Char) : Separated (split cs).2 (split cs).1 := by
  induction cs using read?_induction with
  | stuck cs h => rw [split_of_read?_eq_none h]; trivial
  | step cs l rest h ih =>
    obtain ⟨-, hl, hends⟩ := read?_eq_some_iff.1 h
    rw [split_of_read? h]
    refine ⟨hl, ?_, ih⟩
    -- What follows the lexeme is what it leaves, however that is cut.
    rwa [spelling_append_split]

/-- Lexemes that may stand one after the other are cut off the text that they spell. -/
theorem split_flatMap_spelling_append {ls : List Lexeme} {rest : List Char}
    (h : Separated rest ls) (hrest : read? rest = none) :
    split (ls.flatMap spelling ++ rest) = (ls, rest) := by
  induction ls with
  | nil => exact split_of_read?_eq_none hrest
  | cons l ls ih =>
    obtain ⟨hl, hends, hls⟩ := h
    have hread : read? ((l :: ls).flatMap spelling ++ rest) =
        some (l, ls.flatMap spelling ++ rest) := by
      rw [List.flatMap_cons, List.append_assoc]
      exact read?_eq_some_iff.2 ⟨rfl, hl, hends⟩
    rw [split_of_read? hread, ih hls]

/-- The cut of a text, said without the lexer. -/
theorem split_eq_iff {cs rest : List Char} {ls : List Lexeme} :
    split cs = (ls, rest) ↔
      ls.flatMap spelling ++ rest = cs ∧ Separated rest ls ∧ read? rest = none := by
  constructor
  · intro h
    have whole := spelling_append_split cs
    have separated := separated_split cs
    have stuck := read?_split cs
    rw [h] at whole separated stuck
    exact ⟨whole, separated, stuck⟩
  · intro h
    obtain ⟨rfl, separated, stuck⟩ := h
    exact split_flatMap_spelling_append separated stuck

/-- Lexemes that may stand one after the other are the cut of the text that they spell. -/
theorem Separated.split_eq {cs : List Char} {ls : List Lexeme} (h : Separated [] ls)
    (hspelling : ls.flatMap spelling = cs) : split cs = (ls, []) :=
  split_eq_iff.2 ⟨by rw [List.append_nil, hspelling], h, rfl⟩

/-! ## Spellings -/

/-- No word has white space in it. -/
theorem whiteSpace_notMem_word {modifiers : TypeModifiers} {name : List Char}
    (h : ∀ c ∈ name, isWordChar c = true) {c : Char} (hc : isWhiteSpace c = true) :
    c ∉ modifiers.spelling ++ name := by
  have marks : modifiers.spelling.all (fun d => !isWhiteSpace d) = true := by
    obtain ⟨isSlice, isPointer⟩ := modifiers
    cases isSlice <;> cases isPointer <;> decide
  intro hmem
  rcases List.mem_append.1 hmem with hmem | hmem
  · have hmark := List.all_eq_true.1 marks c hmem
    simp [hc] at hmark
  · have hchar := h c hmem
    rw [isWordChar_eq_false_of_isWhiteSpace hc] at hchar
    cases hchar

/-- No word has a line break in it. -/
theorem lineBreak_notMem_word {modifiers : TypeModifiers} {name : List Char}
    (h : ∀ c ∈ name, isWordChar c = true) : '\n' ∉ modifiers.spelling ++ name :=
  whiteSpace_notMem_word h (by decide)

/-- No well-formed lexeme is spelled with no characters. -/
theorem WellFormed.spelling_ne_nil {l : Lexeme} (h : l.WellFormed) : l.spelling ≠ [] := by
  cases l with
  | word modifiers name =>
    intro hnil
    rw [spelling, List.append_eq_nil_iff] at hnil
    obtain ⟨-, rfl⟩ := hnil
    simp [WellFormed] at h
  | _ => simp [spelling]

/-- Only blanks stand for no token. -/
theorem eq_blank_of_content?_eq_none {l : Lexeme} (h : l.content? = none) : ∃ c, l = .blank c := by
  cases l with
  | blank c => exact ⟨c, rfl⟩
  | _ => cases h

theorem token?_of_content? {l : Lexeme} {content : TokenKind × List Char}
    (h : l.content? = some content) (p : Position) :
    l.token? p = some ⟨content.1, String.ofList content.2, p⟩ := by
  rw [token?, h, Option.map_some]

/-! ## Runs of lexemes -/

/-- The place after a run of lexemes is the place after their spellings. -/
theorem placeAfter_eq (p : Position) (ls : List Lexeme) :
    placeAfter p ls = p.after (ls.flatMap spelling) := by
  induction ls generalizing p with
  | nil => rfl
  | cons l ls ih =>
    rw [List.flatMap_cons, Position.after_append, ← ih]
    rfl

theorem placeAfter_append (p : Position) (front back : List Lexeme) :
    placeAfter p (front ++ back) = placeAfter (placeAfter p front) back :=
  List.foldl_append

/-- Each lexeme of a run that may stand is well formed. -/
theorem Separated.wellFormed {rest : List Char} {ls : List Lexeme} (h : Separated rest ls) :
    ∀ l ∈ ls, l.WellFormed := by
  induction ls with
  | nil => simp
  | cons l ls ih =>
    obtain ⟨hl, -, hls⟩ := h
    exact List.forall_mem_cons.2 ⟨hl, ih hls⟩

/-- Two runs may stand one after the other if each may in front of what follows it. -/
theorem separated_append {rest : List Char} {front back : List Lexeme} :
    Separated rest (front ++ back) ↔
      Separated (back.flatMap spelling ++ rest) front ∧ Separated rest back := by
  induction front with
  | nil => simp [Separated]
  | cons l front ih =>
    simp only [List.cons_append, Separated, ih, List.flatMap_append, List.append_assoc, and_assoc]

/-! ## What follows a run -/

/-- Where a lexeme may end depends on the next character alone. -/
theorem endsBefore_congr {l : Lexeme} {cs cs' : List Char} (h : cs.head? = cs'.head?) :
    l.EndsBefore cs ↔ l.EndsBefore cs' := by
  cases l <;> simp only [EndsBefore, h]

/-- Every lexeme may end at the end of the text. -/
theorem endsBefore_nil (l : Lexeme) : l.EndsBefore [] := by
  cases l <;> simp [EndsBefore]

/-- A line break ends every lexeme. -/
theorem endsBefore_lineBreak (l : Lexeme) (rest : List Char) : l.EndsBefore ('\n' :: rest) := by
  cases l with
  | comment body => exact fun c hc => (Option.some.inj hc).symm
  | word modifiers name =>
    intro c hc
    obtain rfl := Option.some.inj hc
    decide +kernel
  | _ => trivial

/-- A lexeme starts with a character of its own. -/
theorem WellFormed.head?_append {l : Lexeme} (h : l.WellFormed) (cs : List Char) :
    (l.spelling ++ cs).head? = l.spelling.head? := by
  obtain ⟨c, tail, hspelling⟩ := List.exists_cons_of_ne_nil h.spelling_ne_nil
  simp [hspelling]

/-- Only the newline is spelled with a line break in front. -/
theorem eq_newline_of_head?_spelling {l : Lexeme} (hl : l.WellFormed)
    (h : l.spelling.head? = some '\n') : l = .newline := by
  cases l with
  | newline => rfl
  | blank c => exact absurd (by simpa [spelling] using h) hl.2
  | word modifiers name =>
    exact absurd (List.mem_of_mem_head? h) (lineBreak_notMem_word hl.2)
  | _ => simp [spelling, backtick] at h

/-- Behind a comment stands a newline. -/
theorem eq_newline_of_comment_endsBefore {body cs : List Char} {next : Lexeme}
    (hnext : next.WellFormed) (h : (comment body).EndsBefore (next.spelling ++ cs)) :
    next = .newline := by
  -- The comment ends before a line break, which starts the next lexeme.
  refine eq_newline_of_head?_spelling hnext ?_
  obtain ⟨first, tail, hspelling⟩ := List.exists_cons_of_ne_nil hnext.spelling_ne_nil
  rw [hspelling, List.head?_cons, h first (by simp [hspelling])]

/-- A run may stand in front of something else if its last lexeme may. -/
theorem Separated.of_getLast? {rest rest' : List Char} {ls : List Lexeme} (h : Separated rest ls)
    (hlast : ∀ l, ls.getLast? = some l → l.EndsBefore rest → l.EndsBefore rest') :
    Separated rest' ls := by
  induction ls with
  | nil => trivial
  | cons l ls ih =>
    obtain ⟨hl, hends, hls⟩ := h
    cases ls with
    | nil => exact ⟨hl, hlast l rfl hends, trivial⟩
    | cons next ls =>
      -- What follows the first lexeme starts with the next one, as before.
      refine ⟨hl, (endsBefore_congr ?_).1 hends, ih hls fun l hl => hlast l (by simpa using hl)⟩
      simp only [List.flatMap_cons, List.append_assoc, hls.1.head?_append]

/-- A run that may stand in front of a text may stand alone. -/
theorem Separated.nil_of {rest : List Char} {ls : List Lexeme} (h : Separated rest ls) :
    Separated [] ls :=
  h.of_getLast? fun l _ _ => l.endsBefore_nil

/-- Where a run may stand depends on the next character alone. -/
theorem Separated.congr {rest rest' : List Char} {ls : List Lexeme} (h : Separated rest ls)
    (hhead : rest.head? = rest'.head?) : Separated rest' ls :=
  h.of_getLast? fun _ _ hends => (endsBefore_congr hhead).1 hends

end Lexeme

/-- The tokens of a text, or its error, by its cut. -/
theorem tokenize_of_split {text : String} {ls : List Lexeme} {rest : List Char}
    (h : Lexeme.split text.toList = (ls, rest)) :
    tokenize text =
      if rest = [] then
        .ok (Lexeme.place .start ls ++ [⟨.eof, "", Lexeme.placeAfter .start ls⟩])
      else .error (lexicalError (Lexeme.placeAfter .start ls) rest) := by
  simp only [tokenize, h, List.isEmpty_iff]

/-- The texts that have tokens are those that lexemes spell, and the lexemes give the tokens. -/
theorem tokenize_eq_ok_iff {text : String} {tokens : List Token} :
    tokenize text = .ok tokens ↔
      ∃ ls : List Lexeme, ls.flatMap Lexeme.spelling = text.toList ∧ Lexeme.Separated [] ls ∧
        tokens = Lexeme.place .start ls ++ [⟨.eof, "", Lexeme.placeAfter .start ls⟩] := by
  constructor
  · intro h
    rcases hcut : Lexeme.split text.toList with ⟨ls, rest⟩
    rw [tokenize_of_split hcut] at h
    obtain ⟨whole, separated, -⟩ := Lexeme.split_eq_iff.1 hcut
    -- Only a text that is cut as a whole has tokens.
    split at h
    · next hrest =>
      subst hrest
      exact ⟨ls, by simpa using whole, separated, (Except.ok.inj h).symm⟩
    · cases h
  · intro h
    obtain ⟨ls, whole, separated, rfl⟩ := h
    simp [tokenize, separated.split_eq whole]

end StructSchema
