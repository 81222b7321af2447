import StructSchema.Proofs.Token.Spans
import StructSchema.Proofs.Token.WholeLines

/-!
# Why a text has no tokens

A text is cut up to where no lexical rule applies. What stands there is a tag that is not closed, or
it starts with a character that no rule knows: no white space, no brace, no tag, no comment and no
word. What stands before has tokens of its own.

## Key results

- `Lexeme.Unreadable`: the texts to whose front no lexical rule applies
- `Lexeme.read?_eq_none_iff`: where the reader stops
- `tokenize_refused`: the errors of the lexer, and where each is given
-/

namespace StructSchema

open StructSchema.Unicode StructSchema.Text

namespace Lexeme

/-- A text to whose front no lexical rule applies, other than a tag that is not closed. -/
structure Unreadable (cs : List Char) : Prop where
  /-- It starts with a visible character that is no brace and opens no tag. -/
  start : ∃ c, cs.head? = some c ∧ isWhiteSpace c = false ∧ c ∉ ['\x7b', '\x7d', backtick]
  /-- It does not start with two slashes. -/
  noComment : ¬ ['/', '/'] <+: cs
  /-- It starts with no word, behind whatever modifiers. -/
  noWord : ∀ modifiers name, (word modifiers name).WellFormed →
    ¬ (word modifiers name).spelling <+: cs

/-! ## Where the reader stops -/

/-- A tag is read exactly if it is closed. -/
theorem read?_backtick_eq_none_iff {cs : List Char} :
    read? (backtick :: cs) = none ↔ backtick ∉ cs := by
  show readTag? cs = none ↔ _
  constructor
  · intro h hmem
    obtain ⟨body, rest, rfl, hbody⟩ := List.eq_append_cons_of_mem hmem
    have hread : readTag? (body ++ backtick :: rest) = some (.tag body, rest) :=
      readTag?_eq_some_iff.2 ⟨body, rfl, by simp [spelling], by simpa [WellFormed] using hbody⟩
    rw [h] at hread
    cases hread
  · intro h
    cases hread : readTag? cs with
    | none => rfl
    | some read =>
      obtain ⟨l, rest⟩ := read
      obtain ⟨body, rfl, hspelling, -⟩ := readTag?_eq_some_iff.1 hread
      -- The backtick that ends the tag would stand in the text.
      rw [spelling, List.cons_append, List.append_assoc] at hspelling
      obtain ⟨-, rfl⟩ := List.cons.inj hspelling
      simp at h

/-- Where a word starts, one is read. -/
theorem exists_read?_of_word {modifiers : TypeModifiers} {name cs : List Char}
    (hword : (word modifiers name).WellFormed) (h : (word modifiers name).spelling <+: cs) :
    ∃ read, read? cs = some read := by
  obtain ⟨rest, rfl⟩ := h
  obtain ⟨hstart, hname⟩ := hword
  -- The word that is read may go on behind the one that is given.
  refine ⟨(word modifiers (name ++ rest.takeWhile isWordChar), rest.dropWhile isWordChar),
    read?_eq_some_iff.2 ⟨?_, ⟨?_, ?_⟩, ?_⟩⟩
  · simp [spelling]
  · cases name with
    | nil => cases hstart
    | cons c name => exact hstart
  · intro c hc
    rcases List.mem_append.1 hc with hc | hc
    · exact hname c hc
    · exact List.all_eq_true.1 List.all_takeWhile c hc
  · exact fun c hc => head?_dropWhile_eq_false hc

/-- Nothing is read off an unreadable text. -/
theorem Unreadable.read?_eq_none {cs : List Char} (h : Unreadable cs) : read? cs = none := by
  cases hread : read? cs with
  | none => rfl
  | some read =>
    exfalso
    obtain ⟨l, rest⟩ := read
    obtain ⟨rfl, hl, -⟩ := read?_eq_some_iff.1 hread
    obtain ⟨c, hhead, hvisible, hc⟩ := h.start
    rw [hl.head?_append] at hhead
    -- Words and comments are ruled out as such, all other lexemes by their first character.
    cases l with
    | word modifiers name => exact h.noWord modifiers name hl ⟨rest, rfl⟩
    | comment body => exact h.noComment ⟨body ++ rest, rfl⟩
    | blank b =>
      obtain rfl : b = c := by simpa [spelling] using hhead
      rw [hl.1] at hvisible
      cases hvisible
    | newline =>
      obtain rfl : '\n' = c := by simpa [spelling] using hhead
      revert hvisible
      decide
    | leftBrace | rightBrace | tag =>
      rw [← Option.some.inj hhead] at hc
      simp at hc

/-- A text that is not empty and opens no tag is unreadable if nothing is read off it. -/
theorem unreadable_of_read?_eq_none {cs : List Char} (h : read? cs = none) (hne : cs ≠ [])
    (htag : cs.head? ≠ some backtick) : Unreadable cs := by
  obtain ⟨c, tail, rfl⟩ := List.exists_cons_of_ne_nil hne
  -- A lexeme that could be read would have been.
  have hread {l : Lexeme} {rest : List Char} (hspelling : l.spelling ++ rest = c :: tail)
      (hl : l.WellFormed) : ¬ l.EndsBefore rest := by
    intro hends
    rw [read?_eq_some_iff.2 ⟨hspelling, hl, hends⟩] at h
    cases h
  refine ⟨⟨c, rfl, ?_, ?_⟩, ?_, ?_⟩
  · rw [Bool.eq_false_iff]
    intro hwhite
    -- White space is a line break or a blank, and each is read.
    by_cases hbreak : c = '\n'
    · exact @hread .newline tail (by simp [spelling, hbreak]) trivial trivial
    · exact @hread (.blank c) tail rfl ⟨hwhite, hbreak⟩ trivial
  · intro hmem
    simp only [List.mem_cons, List.not_mem_nil, or_false] at hmem
    rcases hmem with rfl | rfl | rfl
    · exact @hread .leftBrace tail rfl trivial trivial
    · exact @hread .rightBrace tail rfl trivial trivial
    · exact htag rfl
  · rintro ⟨rest, hrest⟩
    rw [← hrest] at h
    cases h
  · intro modifiers name hword hstart
    obtain ⟨read, hsome⟩ := exists_read?_of_word hword hstart
    rw [h] at hsome
    cases hsome

/-- Nothing is read at the end of the text, off a tag that is not closed and off an unreadable
    text. -/
theorem read?_eq_none_iff {cs : List Char} :
    read? cs = none ↔ cs = [] ∨ (∃ rest, cs = backtick :: rest ∧ backtick ∉ rest) ∨
      Unreadable cs := by
  constructor
  · intro h
    by_cases hne : cs = []
    · exact .inl hne
    by_cases htag : cs.head? = some backtick
    · obtain ⟨rest, rfl⟩ := List.head?_eq_some_iff.1 htag
      exact .inr (.inl ⟨rest, rfl, read?_backtick_eq_none_iff.1 h⟩)
    · exact .inr (.inr (unreadable_of_read?_eq_none h hne htag))
  · rintro (rfl | ⟨rest, rfl, hrest⟩ | h)
    · rfl
    · exact read?_backtick_eq_none_iff.2 hrest
    · exact h.read?_eq_none

end Lexeme

/-! ## The error of a text -/

/-- An unreadable text is refused for its first visible run. -/
theorem Lexeme.Unreadable.lexicalError_eq {cs : List Char} (h : Lexeme.Unreadable cs)
    (p : Position) :
    lexicalError p cs = .unreadable (String.ofList (cs.takeWhile fun c => !isWhiteSpace c)) p := by
  refine if_neg fun htag => ?_
  obtain ⟨c, hhead, -, hc⟩ := h.start
  rw [htag] at hhead
  simp [← Option.some.inj hhead] at hc

/-- The part of a text that is cut has tokens of its own. -/
theorem exists_tokenize_of_separated {ls : List Lexeme} {rest : List Char}
    (h : Lexeme.Separated rest ls) :
    ∃ tokens, tokenize (String.ofList (ls.flatMap Lexeme.spelling)) = .ok tokens :=
  ⟨_, tokenize_eq_ok_iff.2 ⟨ls, by simp, h.nil_of, rfl⟩⟩

/-- A text that has no tokens is refused for the part of it to which no rule applies. -/
theorem exists_of_tokenize_eq_error {text : String} {e : Error} (h : tokenize text = .error e) :
    ∃ p q, text = p ++ q ∧ (∃ tokens, tokenize p = .ok tokens) ∧
      ((Lexeme.Unreadable q.toList ∧
        e = .unreadable (String.ofList (q.toList.takeWhile fun c => !isWhiteSpace c))
          (.ofIndex text.toList p.toList.length)) ∨
      ∃ r, q = "`" ++ r ∧ backtick ∉ r.toList ∧ e = .missingDelimiter backtick) := by
  rcases hcut : Lexeme.split text.toList with ⟨ls, rest⟩
  obtain ⟨whole, separated, stuck⟩ := Lexeme.split_eq_iff.1 hcut
  rw [tokenize_of_split hcut] at h
  split at h
  · cases h
  · next hne =>
    obtain rfl := Except.error.inj h
    have hplace : Position.ofIndex text.toList (ls.flatMap Lexeme.spelling).length =
        Lexeme.placeAfter .start ls := by
      rw [← whole, Position.ofIndex_length, Lexeme.placeAfter_eq]
    refine ⟨String.ofList (ls.flatMap Lexeme.spelling), String.ofList rest, ?_,
      exists_tokenize_of_separated separated, ?_⟩
    · rw [← String.toList_inj, ← whole]
      simp
    · rw [String.toList_ofList, String.toList_ofList, hplace]
      rcases (Lexeme.read?_eq_none_iff.1 stuck).resolve_left hne with ⟨r, rfl, hr⟩ | hunreadable
      · refine .inr ⟨String.ofList r, ?_, by simpa using hr, rfl⟩
        rw [← String.toList_inj]
        simp [backtick]
      · exact .inl ⟨hunreadable, hunreadable.lexicalError_eq _⟩

/-- Behind whole lines that have tokens, what no rule applies to is refused, at its place. -/
theorem tokenize_append_of_read?_eq_none {text : String} {tokens : List Token}
    (hlines : WholeLines text.toList) (h : tokenize text = .ok tokens) {q : String}
    (hne : q.toList ≠ []) (hq : Lexeme.read? q.toList = none) :
    tokenize (text ++ q) =
      .error (lexicalError (.ofIndex (text ++ q).toList text.toList.length) q.toList) := by
  obtain ⟨ls, hspelling, separated, -⟩ := tokenize_eq_ok_iff.1 h
  have hfront := separated.split_eq hspelling
  have hcut : Lexeme.split (text ++ q).toList = (ls, q.toList) := by
    rw [String.toList_append, Lexeme.split_append_of_wholeLines hfront hlines,
      Lexeme.split_of_read?_eq_none hq, List.append_nil]
  rw [tokenize_of_split hcut, if_neg hne, Lexeme.placeAfter_eq, hspelling, String.toList_append,
    Position.ofIndex_length]

/-- A text is refused where no lexical rule applies. It has tokens, or it is unreadable from some
    place on or has a tag that is not closed from some place on. In both cases what stands before
    the place has tokens, and the first one names the place and the visible run that stands there.
    Conversely, behind whole lines that have tokens each of the two is refused. -/
theorem tokenize_refused (text : String) :
    ((∃ tokens, tokenize text = .ok tokens) ∨
      (∃ run position, tokenize text = .error (.unreadable run position)) ∨
      tokenize text = .error (.missingDelimiter backtick)) ∧
    (∀ run position, tokenize text = .error (.unreadable run position) →
      ∃ p q, text = p ++ q ∧
        (∀ i ≤ text.toList.length,
          Position.ofIndex text.toList i = position ↔ i = p.toList.length) ∧
        (∃ tokens, tokenize p = .ok tokens) ∧ Lexeme.Unreadable q.toList ∧
        (Error.unreadable run position).message =
          "Parse error at " ++ Error.placeText position ++ ": " ++ ("Syntax error: " ++
            quoted (String.ofList (q.toList.takeWhile fun c => !isWhiteSpace c)))) ∧
    (tokenize text = .error (.missingDelimiter backtick) →
      ∃ p r, text = p ++ "`" ++ r ∧ (∃ tokens, tokenize p = .ok tokens) ∧ backtick ∉ r.toList) ∧
    (WholeLines text.toList → (∃ tokens, tokenize text = .ok tokens) → ∀ q : String,
      (Lexeme.Unreadable q.toList → tokenize (text ++ q) =
        .error (.unreadable (String.ofList (q.toList.takeWhile fun c => !isWhiteSpace c))
          (.ofIndex (text ++ q).toList text.toList.length))) ∧
      (backtick ∉ q.toList →
        tokenize (text ++ "`" ++ q) = .error (.missingDelimiter backtick))) := by
  refine ⟨?_, ?_, ?_, ?_⟩
  · cases h : tokenize text with
    | ok tokens => exact .inl ⟨tokens, rfl⟩
    | error e =>
      obtain ⟨p, q, -, -, ⟨-, rfl⟩ | ⟨r, -, -, rfl⟩⟩ := exists_of_tokenize_eq_error h
      · exact .inr (.inl ⟨_, _, rfl⟩)
      · exact .inr (.inr rfl)
  · intro run position h
    -- The text is refused at an unreadable part: a tag that is not closed has another error.
    obtain ⟨p, q, rfl, hp, ⟨hq, he⟩ | ⟨r, -, -, he⟩⟩ := exists_of_tokenize_eq_error h
    · obtain ⟨rfl, rfl⟩ := Error.unreadable.inj he
      -- The place is that of one character only.
      exact ⟨p, q, rfl, fun i hi => Position.ofIndex_inj hi (by simp), hp, hq, rfl⟩
    · cases he
  · intro h
    obtain ⟨p, q, rfl, hp, ⟨-, he⟩ | ⟨r, rfl, hr, -⟩⟩ := exists_of_tokenize_eq_error h
    · cases he
    · exact ⟨p, r, (String.append_assoc ..).symm, hp, hr⟩
  · rintro hlines ⟨tokens, h⟩ q
    constructor
    · intro hq
      obtain ⟨c, hhead, -⟩ := hq.start
      have hne : q.toList ≠ [] := by
        intro hnil
        simp [hnil] at hhead
      rw [tokenize_append_of_read?_eq_none hlines h hne hq.read?_eq_none, hq.lexicalError_eq]
    · intro hq
      have htag : ("`" ++ q).toList = backtick :: q.toList := by simp [backtick]
      have hread : Lexeme.read? ("`" ++ q).toList = none := by
        rw [htag]
        exact Lexeme.read?_backtick_eq_none_iff.2 hq
      rw [String.append_assoc, tokenize_append_of_read?_eq_none hlines h (by simp [htag]) hread,
        htag]
      rfl

/-- The place of an unreadable run behind a tag of two lines. -/
example : tokenize "a `x\ny` =b c" = .error (.unreadable "=b" ⟨2, 4⟩) := by decide +kernel

end StructSchema
