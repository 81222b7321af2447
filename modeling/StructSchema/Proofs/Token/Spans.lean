import Mathlib.Data.List.Forall2
import Mathlib.Data.List.Induction
import StructSchema.Proofs.Token.Splitting

/-!
# Tokens and the characters they stand for

Every token stands for a span of the text. The spans follow one another, only blanks are left
between them, and the place of a token can be read off the characters in front of its span.

## Key results

- `Text.Position.start_after_eq`: lines and columns, counted in the text alone
- `Lexeme.occupies_place`: the tokens of lexemes stand for their spellings
- `Lexeme.isBlank_of_outside_spans`: only blanks are left out
- `Token.Cover`, `tokenize_cover`: the tokens of a text cover it
-/

namespace StructSchema

open StructSchema.Unicode StructSchema.Text

/-! ## Places counted in the text -/

namespace Text

/-- The place of the character number `i` of a text: one line more than there are line breaks before
    it, one column more than there are characters since the last of them. -/
def Position.ofIndex (cs : List Char) (i : Nat) : Position :=
  ⟨1 + (cs.take i).count '\n', 1 + ((cs.take i).reverse.takeWhile (· != '\n')).length⟩

/-- Lines and columns, counted in the text alone. -/
theorem Position.start_after_eq (before : List Char) :
    start.after before =
      ⟨1 + before.count '\n', 1 + (before.reverse.takeWhile (· != '\n')).length⟩ := by
  induction before using List.reverseRecOn with
  | nil => rfl
  | append_singleton before c ih =>
    rw [after_append, ih, after_cons, after_nil, next, List.count_append, List.reverse_append,
      List.reverse_singleton, List.singleton_append]
    by_cases hc : c = '\n'
    · subst hc
      simp [Nat.add_assoc]
    · simp [hc, Nat.add_assoc]

/-- The place after a span is the place of the character behind it. -/
theorem Position.ofIndex_length (before rest : List Char) :
    ofIndex (before ++ rest) before.length = start.after before := by
  rw [start_after_eq, ofIndex, List.take_left]

theorem Position.ofIndex_ne_of_lt {cs : List Char} {i j : Nat} (h : i < j) (hj : j ≤ cs.length) :
    ofIndex cs i ≠ ofIndex cs j := by
  obtain ⟨span, hspan⟩ : cs.take i <+: cs.take j := List.take_prefix_take_left (by omega)
  have hspan' : span ≠ [] := by
    rintro rfl
    have := congrArg List.length hspan
    simp only [List.append_nil, List.length_take] at this
    omega
  have hplace (n : Nat) : ofIndex cs n = start.after (cs.take n) := (start_after_eq _).symm
  rw [hplace, hplace, ← hspan, after_append]
  exact (after_ne_self _ hspan').symm

/-- A place is that of one character. -/
theorem Position.ofIndex_inj {cs : List Char} {i j : Nat} (hi : i ≤ cs.length)
    (hj : j ≤ cs.length) : ofIndex cs i = ofIndex cs j ↔ i = j := by
  refine ⟨fun h => ?_, fun h => h ▸ rfl⟩
  rcases Nat.lt_trichotomy i j with hlt | heq | hgt
  · exact absurd h (ofIndex_ne_of_lt hlt hj)
  · exact heq
  · exact absurd h.symm (ofIndex_ne_of_lt hgt hi)

/-- A run of the characters of a text: those from number `start` on, before number `stop`. -/
structure Span where
  start : Nat
  stop : Nat
deriving DecidableEq, Repr

namespace Span

/-- The character number `i` is one of the span. -/
def Contains (s : Span) (i : Nat) : Prop := s.start ≤ i ∧ i < s.stop

/-- The characters of a span of a text. -/
def of (s : Span) (cs : List Char) : List Char := (cs.drop s.start).take (s.stop - s.start)

theorem of_append (before run rest : List Char) :
    of ⟨before.length, before.length + run.length⟩ (before ++ (run ++ rest)) = run := by
  simp [of]

/-- A character of a span is one of the characters of the span. -/
theorem mem_of {s : Span} {cs : List Char} {i : Nat} {c : Char} (hi : s.Contains i)
    (hc : cs[i]? = some c) : c ∈ s.of cs := by
  obtain ⟨hstart, hstop⟩ := hi
  have hget : (s.of cs)[i - s.start]? = some c := by
    rw [of, List.getElem?_take_of_lt (by omega), List.getElem?_drop,
      show s.start + (i - s.start) = i by omega, hc]
  exact List.mem_of_getElem? hget

end Span

end Text

/-! ## What a token stands for -/

namespace Token

/-- A token of the kind and with the text may stand for the characters `run` in front of the
    character `next?`, which is missing at the end of the text. -/
inductive Spells : TokenKind → List Char → List Char → Option Char → Prop
  | newline {next?} : Spells .newline ['\n'] ['\n'] next?
  | leftBrace {next?} : Spells .leftBrace ['\x7b'] ['\x7b'] next?
  | rightBrace {next?} : Spells .rightBrace ['\x7d'] ['\x7d'] next?
  /-- A comment takes the rest of its line; its text is trimmed. -/
  | comment {body next?} (line : '\n' ∉ body) (ends : ∀ c, next? = some c → c = '\n') :
      Spells .comment (trim body) ('/' :: '/' :: body) next?
  /-- A tag is what stands between two backticks. -/
  | tag {body next?} (inside : backtick ∉ body) :
      Spells .tag body (backtick :: (body ++ [backtick])) next?
  /-- A word is as long as it can be. -/
  | word {modifiers name next?} (starts : name.head?.any isWordStart = true)
      (goesOn : ∀ c ∈ name, isWordChar c = true)
      (ends : ∀ c, next? = some c → isWordChar c = false) :
      Spells (Lexeme.wordKind modifiers name) (modifiers.spelling ++ name)
        (modifiers.spelling ++ name) next?

/-- The token stands for the characters of the span, which are not none, and has their place. -/
structure Occupies (cs : List Char) (t : Token) (s : Span) : Prop where
  nonempty : s.start < s.stop
  within : s.stop ≤ cs.length
  place : t.position = .ofIndex cs s.start
  spells : Spells t.kind t.text.toList (s.of cs) cs[s.stop]?

/-- The tokens stand, one for one, for spans of the text that follow one another. Outside of the
    spans there are only blanks, and each line break that is not in a tag is a token. -/
structure Cover (cs : List Char) (tokens : List Token) (spans : List Span) : Prop where
  occupies : List.Forall₂ (Occupies cs) tokens spans
  increasing : spans.Pairwise fun s s' => s.stop ≤ s'.start
  blank : ∀ i c, cs[i]? = some c → (∀ s ∈ spans, ¬ s.Contains i) →
    isWhiteSpace c = true ∧ c ≠ '\n'
  lineBreak : ∀ i, cs[i]? = some '\n' → ∃ t s, (t, s) ∈ tokens.zip spans ∧ s.Contains i ∧
    (t.kind = .tag ∨ t.kind = .newline ∧ s = ⟨i, i + 1⟩)

/-- Line breaks stand in tags, or else for themselves. -/
theorem Spells.of_lineBreak_mem {kind : TokenKind} {text run : List Char} {next? : Option Char}
    (h : Spells kind text run next?) (hmem : '\n' ∈ run) :
    kind = .tag ∨ kind = .newline ∧ run = ['\n'] := by
  cases h with
  | newline => exact .inr ⟨rfl, rfl⟩
  | leftBrace | rightBrace => simp at hmem
  | comment line _ => simp [line] at hmem
  | tag _ => exact .inl rfl
  | word _ goesOn _ => exact absurd hmem (Lexeme.lineBreak_notMem_word goesOn)

/-- A token that stands for a line break is a tag or stands for nothing else. -/
theorem Occupies.of_lineBreak {cs : List Char} {t : Token} {s : Span} {i : Nat}
    (h : Occupies cs t s) (hi : s.Contains i) (hc : cs[i]? = some '\n') :
    t.kind = .tag ∨ t.kind = .newline ∧ s = ⟨i, i + 1⟩ := by
  rcases h.spells.of_lineBreak_mem (Span.mem_of hi hc) with hkind | ⟨hkind, hrun⟩
  · exact .inl hkind
  · -- A span of one character is that character.
    have hlength := congrArg List.length hrun
    have hwithin := h.within
    obtain ⟨start, stop⟩ := s
    obtain ⟨hstart, hstop⟩ := hi
    simp only [Span.of, List.length_take, List.length_drop, List.length_singleton] at *
    obtain ⟨rfl, rfl⟩ : start = i ∧ stop = i + 1 := by omega
    exact .inr ⟨hkind, rfl⟩

end Token

/-! ## The spans of lexemes -/

namespace Lexeme

/-- The spans of the tokens of a run of lexemes, the first of which starts at number `n`. -/
def spans (n : Nat) : List Lexeme → List Span
  | [] => []
  | l :: ls =>
    (l.content?.map fun _ => ⟨n, n + l.spelling.length⟩).toList ++ spans (n + l.spelling.length) ls

theorem mem_spans_cons {n : Nat} {l : Lexeme} {ls : List Lexeme} {s : Span} :
    s ∈ spans n (l :: ls) ↔
      (l.content?.isSome = true ∧ s = ⟨n, n + l.spelling.length⟩) ∨
        s ∈ spans (n + l.spelling.length) ls := by
  rw [spans, List.mem_append]
  cases l.content? <;> simp

theorem le_start_of_mem_spans {n : Nat} {ls : List Lexeme} {s : Span} (h : s ∈ spans n ls) :
    n ≤ s.start := by
  induction ls generalizing n with
  | nil => simp [spans] at h
  | cons l ls ih =>
    rcases mem_spans_cons.1 h with ⟨-, rfl⟩ | h
    · exact Nat.le_refl _
    · exact Nat.le_trans (Nat.le_add_right ..) (ih h)

/-- The spans follow one another. -/
theorem pairwise_spans (n : Nat) (ls : List Lexeme) :
    (spans n ls).Pairwise fun s s' => s.stop ≤ s'.start := by
  induction ls generalizing n with
  | nil => exact .nil
  | cons l ls ih =>
    rw [spans]
    cases l.content? with
    | none => exact ih _
    | some content => exact .cons (fun s hs => le_start_of_mem_spans hs) (ih _)

/-- A lexeme's token may stand for the lexeme's spelling. -/
theorem spells_of_content? {l : Lexeme} {kind : TokenKind} {text rest : List Char}
    (hl : l.WellFormed) (hends : l.EndsBefore rest) (h : l.content? = some (kind, text)) :
    Token.Spells kind text l.spelling rest.head? := by
  cases l with
  | blank c => cases h
  | newline => cases h; exact .newline
  | leftBrace => cases h; exact .leftBrace
  | rightBrace => cases h; exact .rightBrace
  | comment body => cases h; exact .comment hl hends
  | tag body => cases h; exact .tag hl
  | word modifiers name => cases h; exact .word hl.1 hl.2 hends

/-- The token of a lexeme stands for the lexeme's spelling. -/
theorem occupies_token {l : Lexeme} {t : Token} (before rest : List Char) (hl : l.WellFormed)
    (hends : l.EndsBefore rest) (h : l.token? (Position.start.after before) = some t) :
    Token.Occupies (before ++ (l.spelling ++ rest)) t
      ⟨before.length, before.length + l.spelling.length⟩ := by
  obtain ⟨⟨kind, text⟩, hcontent, rfl⟩ := Option.map_eq_some_iff.1 h
  refine ⟨?_, ?_, ?_, ?_⟩
  · exact Nat.lt_add_of_pos_right (List.length_pos_iff.2 hl.spelling_ne_nil)
  · simp only [List.length_append]
    omega
  · exact (Position.ofIndex_length ..).symm
  · have hnext : (before ++ (l.spelling ++ rest))[before.length + l.spelling.length]? =
        rest.head? := by
      rw [← List.append_assoc, ← List.length_append, List.getElem?_append_right (Nat.le_refl _),
        Nat.sub_self, List.head?_eq_getElem?]
    rw [Span.of_append, hnext, String.toList_ofList]
    exact spells_of_content? hl hends hcontent

/-- The tokens of lexemes stand for their spellings. -/
theorem occupies_place {ls : List Lexeme} (before : List Char) (h : Separated [] ls) :
    List.Forall₂ (Token.Occupies (before ++ ls.flatMap spelling))
      (place (Position.start.after before) ls) (spans before.length ls) := by
  induction ls generalizing before with
  | nil => exact .nil
  | cons l ls ih =>
    obtain ⟨hl, hends, hls⟩ := h
    have later := ih (before ++ l.spelling) hls
    rw [List.append_assoc, Position.after_append, List.length_append] at later
    rw [List.append_nil] at hends
    rw [List.flatMap_cons, place_cons, spans]
    cases hcontent : l.content? with
    | none => simpa [token?, hcontent] using later
    | some content =>
      have htoken := token?_of_content? hcontent (Position.start.after before)
      rw [htoken]
      exact .cons (occupies_token before _ hl hends htoken) later

/-- Only blanks are left out. -/
theorem isBlank_of_outside_spans {ls : List Lexeme} (before : List Char) (h : Separated [] ls)
    (i : Nat) (c : Char) (hi : before.length ≤ i)
    (hc : (before ++ ls.flatMap spelling)[i]? = some c)
    (outside : ∀ s ∈ spans before.length ls, ¬ s.Contains i) :
    isWhiteSpace c = true ∧ c ≠ '\n' := by
  induction ls generalizing before with
  | nil =>
    rw [List.flatMap_nil, List.append_nil, List.getElem?_eq_none hi] at hc
    cases hc
  | cons l ls ih =>
    obtain ⟨hl, -, hls⟩ := h
    rw [List.flatMap_cons, ← List.append_assoc] at hc
    by_cases hin : i < before.length + l.spelling.length
    · -- The character is one of the first lexeme, which therefore is a blank.
      cases hcontent : l.content? with
      | some content =>
        refine absurd ⟨hi, hin⟩ (outside _ (mem_spans_cons.2 (.inl ⟨?_, rfl⟩)))
        rw [hcontent, Option.isSome_some]
      | none =>
        obtain ⟨b, rfl⟩ := eq_blank_of_content?_eq_none hcontent
        obtain rfl : i = before.length := by
          simp only [spelling, List.length_singleton] at hin
          omega
        have hb : b = c := by simpa [spelling] using hc
        exact hb ▸ hl
    · have hlen : (before ++ l.spelling).length = before.length + l.spelling.length :=
        List.length_append
      refine ih (before ++ l.spelling) hls (by omega) hc fun s hs => outside s ?_
      rw [hlen] at hs
      exact mem_spans_cons.2 (.inr hs)

/-- The tokens of lexemes that spell a text cover it. -/
theorem cover_place {ls : List Lexeme} (h : Separated [] ls) :
    Token.Cover (ls.flatMap spelling) (place .start ls) (spans 0 ls) := by
  have occupies : List.Forall₂ (Token.Occupies (ls.flatMap spelling)) (place .start ls)
      (spans 0 ls) := occupies_place [] h
  have blank (i : Nat) (c : Char) := isBlank_of_outside_spans [] h i c (Nat.zero_le i)
  refine ⟨occupies, pairwise_spans 0 ls, blank, fun i hi => ?_⟩
  -- A line break is no blank, so some token stands for it.
  obtain ⟨s, hs, hin⟩ : ∃ s ∈ spans 0 ls, s.Contains i := by
    by_contra hnone
    exact (blank i '\n' hi fun s hs hin => hnone ⟨s, hs, hin⟩).2 rfl
  obtain ⟨k, hk, rfl⟩ := List.getElem_of_mem hs
  have hlength := occupies.length_eq
  have hzip : ((place .start ls)[k], (spans 0 ls)[k]) ∈ (place .start ls).zip (spans 0 ls) := by
    rw [← List.getElem_zip (h := by rw [List.length_zip]; omega)]
    exact List.getElem_mem _
  have each := (List.forall₂_iff_zip.1 occupies).2 hzip
  exact ⟨_, _, hzip, hin, each.of_lineBreak hin hi⟩

end Lexeme

/-! ## The spans of a text -/

/-- The tokens of a text cover it, but for the last one, which marks the end of the text. -/
theorem tokenize_cover {text : String} {tokens : List Token} (h : tokenize text = .ok tokens) :
    ∃ body spans, Token.Cover text.toList body spans ∧
      tokens = body ++ [⟨.eof, "", .ofIndex text.toList text.toList.length⟩] := by
  obtain ⟨ls, whole, separated, rfl⟩ := tokenize_eq_ok_iff.1 h
  refine ⟨_, _, whole ▸ Lexeme.cover_place separated, ?_⟩
  rw [Lexeme.placeAfter_eq, whole, ← Position.ofIndex_length text.toList [], List.append_nil]

/-- A tag over two lines, a word behind it and a comment that the text ends in. -/
theorem tokenize_cover_multilineTag :
    tokenize "a `x\ny` b // é" =
        .ok [⟨.ident, "a", ⟨1, 1⟩⟩, ⟨.tag, "x\ny", ⟨1, 3⟩⟩, ⟨.ident, "b", ⟨2, 4⟩⟩,
          ⟨.comment, "é", ⟨2, 6⟩⟩, ⟨.eof, "", ⟨2, 10⟩⟩] ∧
      ∃ body spans, Token.Cover "a `x\ny` b // é".toList body spans ∧
        [⟨.ident, "a", ⟨1, 1⟩⟩, ⟨.tag, "x\ny", ⟨1, 3⟩⟩, ⟨.ident, "b", ⟨2, 4⟩⟩,
          ⟨.comment, "é", ⟨2, 6⟩⟩, ⟨.eof, "", ⟨2, 10⟩⟩] =
        body ++ [⟨.eof, "", .ofIndex "a `x\ny` b // é".toList "a `x\ny` b // é".toList.length⟩] :=
  have h := by decide +kernel
  ⟨h, tokenize_cover h⟩

end StructSchema
