import StructSchema.Token.Lexeme

/-!
# The grammar of lexemes

Which lexemes there are and where each may end, said without the reader.

## Key results

- `Lexeme.read?_eq_some_iff`: the reader takes exactly the lexemes of the grammar, each up to where
  it may end
-/

namespace StructSchema

open StructSchema.Unicode StructSchema.Text

/-- No word has white space in it. -/
theorem isWordChar_eq_false_of_isWhiteSpace {c : Char} (h : isWhiteSpace c = true) :
    isWordChar c = false := by
  have letter : isLetter c = false :=
    CodeRange.eq_false_of_covers (p := CodeRange.covers letterRanges) whiteSpaceRanges_ordered
      (by decide +kernel) h
  have number : isNumber c = false :=
    CodeRange.eq_false_of_covers (p := CodeRange.covers numberRanges) whiteSpaceRanges_ordered
      (by decide +kernel) h
  have mark : (c == '_') = false ∧ (c == '.') = false := by
    constructor <;>
      · rw [beq_eq_false_iff_ne]
        rintro rfl
        revert h
        decide
  simp [isWordChar, letter, number, mark]

/-- White space starts no word. -/
theorem isWordStart_eq_false_of_isWhiteSpace {c : Char} (h : isWhiteSpace c = true) :
    isWordStart c = false := by
  rw [Bool.eq_false_iff]
  intro hstart
  have hchar := isWordChar_of_isWordStart hstart
  rw [isWordChar_eq_false_of_isWhiteSpace h] at hchar
  cases hchar

namespace Lexeme

/-- What a lexeme of each form is made of. -/
def WellFormed : Lexeme → Prop
  | .blank c => isWhiteSpace c = true ∧ c ≠ '\n'
  | .newline | .leftBrace | .rightBrace => True
  | .comment body => '\n' ∉ body
  | .tag body => backtick ∉ body
  | .word _ name => name.head?.any isWordStart = true ∧ ∀ c ∈ name, isWordChar c = true

/-- Where a lexeme may end: a comment before a line end and a word before a character that does not
    go on with it, both at the end of the text, and all others anywhere. -/
def EndsBefore (rest : List Char) : Lexeme → Prop
  | .comment _ => ∀ c, rest.head? = some c → c = '\n'
  | .word _ _ => ∀ c, rest.head? = some c → isWordChar c = false
  | _ => True

theorem head?_dropWhile_eq_false {p : Char → Bool} {cs : List Char} {c : Char}
    (h : (cs.dropWhile p).head? = some c) : p c = false := by
  have := List.head?_dropWhile_not p cs
  rw [h] at this
  simpa using this

/-- A run that satisfies a predicate, before a character that does not, is what `takeWhile` takes
    and `dropWhile` leaves out. -/
theorem takeWhile_dropWhile_append {p : Char → Bool} {run rest : List Char}
    (hrun : ∀ c ∈ run, p c = true) (hrest : ∀ c, rest.head? = some c → p c = false) :
    (run ++ rest).takeWhile p = run ∧ (run ++ rest).dropWhile p = rest := by
  rw [List.takeWhile_append_of_pos hrun, List.dropWhile_append_of_pos hrun]
  cases rest with
  | nil => simp
  | cons c tail => simp [hrest c rfl]

theorem readWord?_eq_some_iff {cs rest : List Char} {l : Lexeme} :
    readWord? cs = some (l, rest) ↔
      ∃ m name, l = .word m name ∧ l.spelling ++ rest = cs ∧ l.WellFormed ∧ l.EndsBefore rest := by
  constructor
  · intro h
    have whole := spelling_append_of_readWord? h
    simp only [readWord?] at h
    split at h
    · next hstart =>
      obtain ⟨rfl, rfl⟩ := Prod.mk.inj (Option.some.inj h)
      refine ⟨_, _, rfl, whole, ⟨?_, List.all_eq_true.1 List.all_takeWhile⟩,
        fun c hc => head?_dropWhile_eq_false hc⟩
      cases hbody : (TypeModifiers.read cs).2 with
      | nil => simp [hbody] at hstart
      | cons c tail =>
        have hc : isWordStart c = true := by simpa [hbody] using hstart
        simp [isWordChar_of_isWordStart hc, hc]
    · cases h
  · rintro ⟨m, name, rfl, rfl, ⟨hstart, hname⟩, hrest⟩
    cases name with
    | nil => simp at hstart
    | cons c tail =>
      have hc : isWordStart c = true := by simpa using hstart
      have marks : TypeModifiers.read (m.spelling ++ ((c :: tail) ++ rest)) =
          (m, (c :: tail) ++ rest) := by
        apply TypeModifiers.read_spelling_append <;>
          · simp only [List.cons_append, List.head?_cons, ne_eq, Option.some.injEq]
            rintro rfl
            revert hc
            decide +kernel
      -- Behind the modifiers, the name is the longest run of its characters.
      obtain ⟨taken, dropped⟩ := takeWhile_dropWhile_append hname hrest
      rw [spelling, List.append_assoc, readWord?, marks]
      simp only
      rw [taken, dropped]
      simp [hc]

/-- A character that starts neither a word nor a modifier starts no word. -/
theorem readWord?_cons_eq_none {c : Char} (rest : List Char) (hstart : isWordStart c = false)
    (hslice : c ≠ '[') (hpointer : c ≠ '*') : readWord? (c :: rest) = none := by
  have marks := TypeModifiers.read_spelling_append ⟨false, false⟩ (c :: rest)
    (by simpa using hslice) (by simpa using hpointer)
  rw [readWord?, show TypeModifiers.read (c :: rest) = (⟨false, false⟩, c :: rest) from marks]
  simp [hstart]

/-- No other rule applies where a word starts. -/
theorem read?_of_readWord? {cs rest : List Char} {l : Lexeme}
    (h : readWord? cs = some (l, rest)) : read? cs = some (l, rest) := by
  have none_of {c : Char} {tail : List Char} (he : readWord? (c :: tail) = some (l, rest))
      (hstart : isWordStart c = false) (hslice : c ≠ '[') (hpointer : c ≠ '*') : False := by
    rw [readWord?_cons_eq_none tail hstart hslice hpointer] at he
    cases he
  unfold read?
  split
  · cases h
  · exact (none_of h (by decide +kernel) (by decide) (by decide)).elim
  · exact (none_of h (by decide +kernel) (by decide) (by decide)).elim
  · exact (none_of h (by decide +kernel) (by decide) (by decide)).elim
  · exact (none_of h (by decide +kernel) (by decide) (by decide)).elim
  · exact (none_of h (by decide +kernel) (by decide) (by decide)).elim
  · split
    · next hblank =>
      refine (none_of h (isWordStart_eq_false_of_isWhiteSpace hblank) ?_ ?_).elim <;>
        · rintro rfl
          revert hblank
          decide
    · exact h

theorem readTag?_eq_some_iff {cs rest : List Char} {l : Lexeme} :
    readTag? cs = some (l, rest) ↔
      ∃ body, l = .tag body ∧ l.spelling ++ rest = backtick :: cs ∧ l.WellFormed := by
  constructor
  · intro h
    have whole := spelling_append_of_readTag? h
    simp only [readTag?] at h
    split at h
    · cases h
    · obtain ⟨rfl, rfl⟩ := Prod.mk.inj (Option.some.inj h)
      refine ⟨_, rfl, whole, fun hmem => ?_⟩
      simpa using List.all_eq_true.1 List.all_takeWhile _ hmem
  · rintro ⟨body, rfl, whole, hbody⟩
    rw [spelling, List.cons_append, List.append_assoc] at whole
    obtain rfl := (List.cons.inj whole).2
    have inside : ∀ c ∈ body, (c != backtick) = true := fun c hc => by
      simpa using fun e : c = backtick => hbody (e ▸ hc)
    have outside : ∀ c, (backtick :: rest).head? = some c → (c != backtick) = false := by simp
    obtain ⟨taken, dropped⟩ := takeWhile_dropWhile_append inside outside
    rw [List.singleton_append, readTag?, dropped, taken]

theorem readComment_eq_iff {cs rest : List Char} {l : Lexeme} :
    readComment cs = (l, rest) ↔
      ∃ body, l = .comment body ∧ body ++ rest = cs ∧ l.WellFormed ∧ l.EndsBefore rest := by
  constructor
  · intro h
    obtain ⟨rfl, rfl⟩ := Prod.mk.inj h
    refine ⟨_, rfl, List.takeWhile_append_dropWhile, fun hmem => ?_, fun c hc => ?_⟩
    · simpa using List.all_eq_true.1 List.all_takeWhile _ hmem
    · simpa using head?_dropWhile_eq_false hc
  · rintro ⟨body, rfl, rfl, hbody, hrest⟩
    have inside : ∀ c ∈ body, (c != '\n') = true := fun c hc => by
      simpa using fun e : c = '\n' => hbody (e ▸ hc)
    have outside : ∀ c, rest.head? = some c → (c != '\n') = false := fun c hc => by
      simp [hrest c hc]
    obtain ⟨taken, dropped⟩ := takeWhile_dropWhile_append inside outside
    rw [readComment, dropped, taken]

/-- The reader takes exactly the lexemes of the grammar, each up to where it may end. -/
theorem read?_eq_some_iff {cs rest : List Char} {l : Lexeme} :
    read? cs = some (l, rest) ↔ l.spelling ++ rest = cs ∧ l.WellFormed ∧ l.EndsBefore rest := by
  constructor
  · intro h
    have whole := spelling_append_of_read? h
    refine ⟨whole, ?_⟩
    unfold read? at h
    split at h
    · cases h
    · cases h; exact ⟨trivial, trivial⟩
    · cases h; exact ⟨trivial, trivial⟩
    · cases h; exact ⟨trivial, trivial⟩
    · obtain ⟨_, rfl, -, hl, hrest⟩ := readComment_eq_iff.1 (Option.some.inj h)
      exact ⟨hl, hrest⟩
    · obtain ⟨_, rfl, -, hl⟩ := readTag?_eq_some_iff.1 h
      exact ⟨hl, trivial⟩
    · next c tail hnewline _ _ _ _ =>
      split at h
      · next hblank =>
        cases h
        exact ⟨⟨hblank, hnewline⟩, trivial⟩
      · obtain ⟨_, _, rfl, -, hl, hrest⟩ := readWord?_eq_some_iff.1 h
        exact ⟨hl, hrest⟩
  · rintro ⟨rfl, hl, hrest⟩
    cases l with
    | blank c =>
      obtain ⟨hblank, hnewline⟩ := hl
      -- No character of another rule is white space.
      have other {d : Char} (hd : isWhiteSpace d = false) : c ≠ d := by
        rintro rfl
        rw [hd] at hblank
        cases hblank
      have leftBrace : c ≠ '\x7b' := other (by decide)
      have rightBrace : c ≠ '\x7d' := other (by decide)
      have slash : c ≠ '/' := other (by decide)
      have tick : c ≠ '\x60' := other (by decide)
      rw [spelling, List.singleton_append]
      unfold read?
      split <;> simp_all
    | newline | leftBrace | rightBrace => rfl
    | comment body =>
      exact congrArg some (readComment_eq_iff.2 ⟨body, rfl, rfl, hl, hrest⟩)
    | tag body =>
      exact readTag?_eq_some_iff.2 ⟨body, rfl, rfl, hl⟩
    | word m name =>
      exact read?_of_readWord? (readWord?_eq_some_iff.2 ⟨m, name, rfl, rfl, hl, hrest⟩)

end Lexeme

end StructSchema
