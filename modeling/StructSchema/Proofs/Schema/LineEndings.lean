import StructSchema.Proofs.Schema.Trivia
import StructSchema.Proofs.Token.Refusal
import StructSchema.Proofs.Token.Spacing

/-!
# Line endings

A carriage return in front of each line break is a blank. Behind a comment it is trimmed away, and
elsewhere it stands for no token. It moves nothing but the line break behind it, and the places of
newlines do not matter. A tag keeps all its characters, so this holds of texts whose tags stay on
their lines.

## Key results

- `Text.after_crlf`: behind a line break the places are the same
- `Lexeme.split_crlf`: the cut of a text with carriage returns
- `Lexeme.map_loosen_place_crlf`: its tokens
- `parse_crlf`: it declares the same structs, or has the same error
-/

namespace StructSchema

open StructSchema.Unicode StructSchema.Text

/-! ## Carriage returns -/

namespace Text

/-- The text with a carriage return in front of each line break. -/
def crlf (cs : List Char) : List Char := cs.flatMap fun c => if c = '\n' then ['\r', '\n'] else [c]

theorem crlf_lineBreak (cs : List Char) : crlf ('\n' :: cs) = '\r' :: '\n' :: crlf cs := rfl

theorem crlf_cons {c : Char} (hc : c ≠ '\n') (cs : List Char) : crlf (c :: cs) = c :: crlf cs := by
  rw [crlf, List.flatMap_cons, if_neg hc]
  rfl

theorem crlf_append (front back : List Char) : crlf (front ++ back) = crlf front ++ crlf back :=
  List.flatMap_append

theorem crlf_eq_self {cs : List Char} (h : '\n' ∉ cs) : crlf cs = cs := by
  induction cs with
  | nil => rfl
  | cons c cs ih =>
    rw [List.mem_cons, not_or] at h
    rw [crlf_cons (Ne.symm h.1), ih h.2]

theorem head?_crlf {cs : List Char} (h : cs.head? ≠ some '\n') : (crlf cs).head? = cs.head? := by
  cases cs with
  | nil => rfl
  | cons c cs => rw [crlf_cons (by simpa using h)]; rfl

theorem crlf_eq_nil_iff {cs : List Char} : crlf cs = [] ↔ cs = [] := by
  cases cs with
  | nil => simp [crlf]
  | cons c cs =>
    simp only [crlf, List.flatMap_cons, List.append_eq_nil_iff, reduceCtorEq, iff_false, not_and]
    split <;> simp

/-- A carriage return in front of a line break moves nothing behind it. -/
theorem after_crlf (p : Position) (cs : List Char) : p.after (crlf cs) = p.after cs := by
  induction cs generalizing p with
  | nil => rfl
  | cons c cs ih =>
    by_cases hc : c = '\n'
    · subst hc
      rw [crlf_lineBreak, Position.after_cons, Position.after_cons, Position.after_cons, ih]
      rfl
    · rw [crlf_cons hc, Position.after_cons, Position.after_cons, ih]

/-- The first visible run of a text ends in front of a carriage return as in front of a line
    break. -/
theorem takeWhile_crlf (cs : List Char) :
    (crlf cs).takeWhile (fun c => !isWhiteSpace c) = cs.takeWhile fun c => !isWhiteSpace c := by
  induction cs with
  | nil => rfl
  | cons c cs ih =>
    by_cases hc : c = '\n'
    · subst hc
      rfl
    · rw [crlf_cons hc, List.takeWhile_cons, List.takeWhile_cons, ih]

/-- A run without line breaks and carriage returns is not put together from both sides of one. -/
theorem prefix_of_prefix_crlf {run cs : List Char} (hbreak : '\n' ∉ run) (hreturn : '\r' ∉ run)
    (h : run <+: crlf cs) : run <+: cs := by
  induction run generalizing cs with
  | nil => exact List.nil_prefix
  | cons c run ih =>
    rw [List.mem_cons, not_or] at hbreak hreturn
    cases cs with
    | nil => exact h
    | cons d cs =>
      by_cases hd : d = '\n'
      · rw [hd, crlf_lineBreak, List.cons_prefix_cons] at h
        exact absurd h.1.symm hreturn.1
      · rw [crlf_cons hd, List.cons_prefix_cons] at h
        exact List.cons_prefix_cons.2 ⟨h.1, ih hbreak.2 hreturn.2 h.2⟩

end Text

/-! ## Lexemes -/

namespace Lexeme

/-- No tag goes on over a line break. -/
def OneLine : Lexeme → Prop
  | .tag body => '\n' ∉ body
  | _ => True

instance (l : Lexeme) : Decidable l.OneLine := by
  cases l <;> unfold OneLine <;> infer_instance

theorem lineBreak_notMem_spelling {l : Lexeme} (hl : l.WellFormed) (hline : l.OneLine)
    (hne : l ≠ .newline) : '\n' ∉ l.spelling := by
  cases l with
  | newline => exact absurd rfl hne
  | blank c => simpa [spelling] using Ne.symm hl.2
  | leftBrace | rightBrace => simp [spelling]
  | comment body =>
    have hbody : '\n' ∉ body := hl
    simpa [spelling] using hbody
  | tag body =>
    have hbody : '\n' ∉ body := hline
    simpa [spelling, backtick] using hbody
  | word modifiers name => exact lineBreak_notMem_word hl.2

/-- The carriage return in front of a newline. -/
def returnBefore : List Lexeme → List Char
  | .newline :: _ => ['\r']
  | _ => []

/-- Lexemes with the carriage returns that are put behind each. -/
def withReturns : List Lexeme → List (Lexeme × List Char)
  | [] => []
  | l :: ls => (l, returnBefore ls) :: withReturns ls

theorem returnBefore_of_ne {l : Lexeme} (h : l ≠ .newline) (ls : List Lexeme) :
    returnBefore (l :: ls) = [] := by
  cases l with
  | newline => exact absurd rfl h
  | _ => rfl

theorem blanks_returnBefore (ls : List Lexeme) : Blanks (returnBefore ls) := by
  unfold returnBefore
  split <;> decide

theorem map_fst_withReturns (ls : List Lexeme) : (withReturns ls).map Prod.fst = ls := by
  induction ls with
  | nil => rfl
  | cons l ls ih => rw [withReturns, List.map_cons, ih]

theorem blanks_of_mem_withReturns {ls : List Lexeme} :
    ∀ item ∈ withReturns ls, Blanks item.2 := by
  induction ls with
  | nil => simp [withReturns]
  | cons l ls ih => exact List.forall_mem_cons.2 ⟨blanks_returnBefore ls, ih⟩

/-- The lexemes with a carriage return in front of each newline. -/
def crlf (ls : List Lexeme) : List Lexeme :=
  (returnBefore ls).map blank ++ spread (withReturns ls)

theorem crlf_spelling {l : Lexeme} (hl : l.WellFormed) (hline : l.OneLine) (ls : List Lexeme) :
    Text.crlf l.spelling = returnBefore (l :: ls) ++ l.spelling := by
  by_cases h : l = .newline
  · rw [h]
    rfl
  · rw [Text.crlf_eq_self (lineBreak_notMem_spelling hl hline h), returnBefore_of_ne h]
    rfl

theorem spelling_crlf {ls : List Lexeme} (hls : ∀ l ∈ ls, l.WellFormed)
    (hlines : ∀ l ∈ ls, l.OneLine) :
    (crlf ls).flatMap spelling = Text.crlf (ls.flatMap spelling) := by
  rw [crlf, List.flatMap_append, spelling_map_blank, spelling_spread]
  -- The carriage return in front of a newline stands behind the lexeme before it.
  induction ls with
  | nil => rfl
  | cons l ls ih =>
    obtain ⟨hl, hls⟩ := List.forall_mem_cons.1 hls
    obtain ⟨hline, hlines⟩ := List.forall_mem_cons.1 hlines
    rw [List.flatMap_cons, Text.crlf_append, ← ih hls hlines, crlf_spelling hl hline ls,
      withReturns, List.flatMap_cons]
    simp only [List.append_assoc]

/-- A text to which no rule applies does not start with a line break. -/
theorem head?_crlf_of_read?_eq_none {cs : List Char} (h : read? cs = none) :
    (Text.crlf cs).head? = cs.head? := by
  refine head?_crlf fun hbreak => ?_
  obtain ⟨tail, rfl⟩ := List.head?_eq_some_iff.1 hbreak
  cases h

/-- No rule applies to a text with carriage returns if none applies without. -/
theorem read?_crlf_eq_none {cs : List Char} (h : read? cs = none) :
    read? (Text.crlf cs) = none := by
  rcases read?_eq_none_iff.1 h with rfl | ⟨rest, rfl, hrest⟩ | hunreadable
  · rfl
  · rw [Text.crlf_cons (by decide)]
    refine read?_backtick_eq_none_iff.2 fun hmem => hrest ?_
    -- Every character that is put in is a carriage return.
    simp only [Text.crlf, List.mem_flatMap] at hmem
    obtain ⟨c, hc, hmem⟩ := hmem
    split at hmem
    · simp [backtick] at hmem
    · rwa [List.mem_singleton.1 hmem]
  · refine Unreadable.read?_eq_none ⟨?_, fun hcomment => ?_, ?_⟩
    · rw [head?_crlf_of_read?_eq_none h]
      exact hunreadable.start
    · exact hunreadable.noComment (prefix_of_prefix_crlf (by decide) (by decide) hcomment)
    · intro modifiers name hword hstart
      have hspace {c : Char} (hc : isWhiteSpace c = true) :
          c ∉ (word modifiers name).spelling := whiteSpace_notMem_word hword.2 hc
      exact hunreadable.noWord modifiers name hword
        (prefix_of_prefix_crlf (hspace (by decide)) (hspace (by decide)) hstart)

/-- The cut of a text with carriage returns. -/
theorem split_crlf {cs rest : List Char} {ls : List Lexeme} (h : split cs = (ls, rest))
    (hlines : ∀ l ∈ ls, l.OneLine) : split (Text.crlf cs) = (crlf ls, Text.crlf rest) := by
  obtain ⟨rfl, separated, stuck⟩ := split_eq_iff.1 h
  refine split_eq_iff.2 ⟨?_, ?_, read?_crlf_eq_none stuck⟩
  · rw [spelling_crlf separated.wellFormed hlines, Text.crlf_append]
  · -- Carriage returns are blanks, and what is left over starts as before.
    refine Separated.map_blank_append ?_ (blanks_returnBefore ls)
    refine separated_spread ?_ blanks_of_mem_withReturns
    rw [map_fst_withReturns]
    exact separated.congr (head?_crlf_of_read?_eq_none stuck).symm

/-! ## Tokens -/

/-- The tokens are the same, but for the places of newlines. -/
theorem map_loosen_place_crlf {ls : List Lexeme} (p : Position) :
    (place p (crlf ls)).map Token.loosen = (place p ls).map Token.loosen := by
  induction ls generalizing p with
  | nil => rfl
  | cons l ls ih =>
    -- Behind the lexeme all is as it would be with the carriage return at the front of the rest.
    have hrest (q : Position) : place (q.after (l.spelling ++ returnBefore ls))
        (spread (withReturns ls)) = place (q.after l.spelling) (crlf ls) := by
      rw [crlf, place_map_blank_append, Position.after_append]
    rw [crlf, place_map_blank_append, withReturns, spread_cons,
      place_followedBy_append (blanks_returnBefore ls), hrest, List.map_append, ih, place_cons,
      List.map_append]
    by_cases h : l = .newline
    · rw [h]
      rfl
    · rw [returnBefore_of_ne h]
      rfl

end Lexeme

/-! ## Texts -/

/-- The error of what stands where no rule applies does not change. -/
theorem lexicalError_crlf {cs : List Char} (h : Lexeme.read? cs = none) (p : Position) :
    lexicalError p (crlf cs) = lexicalError p cs := by
  rw [lexicalError, lexicalError, Lexeme.head?_crlf_of_read?_eq_none h, takeWhile_crlf]

/-- A text whose tags stay on their lines declares the same structs, or has the same error at the
    same place, with a carriage return in front of each line break. -/
theorem parse_crlf {text : String} (h : ∀ l ∈ (Lexeme.split text.toList).1, l.OneLine) :
    parse (String.ofList (crlf text.toList)) = parse text := by
  rcases hcut : Lexeme.split text.toList with ⟨ls, rest⟩
  rw [hcut] at h
  obtain ⟨-, separated, stuck⟩ := Lexeme.split_eq_iff.1 hcut
  have hcrlf : Lexeme.split (String.ofList (crlf text.toList)).toList =
      (Lexeme.crlf ls, crlf rest) := by
    rw [String.toList_ofList, Lexeme.split_crlf hcut h]
  have hplace : Lexeme.placeAfter .start (Lexeme.crlf ls) = Lexeme.placeAfter .start ls := by
    rw [Lexeme.placeAfter_eq, Lexeme.spelling_crlf separated.wellFormed h, after_crlf,
      Lexeme.placeAfter_eq]
  have hparse : Parser.parseFrom .initial (Lexeme.place .start (Lexeme.crlf ls)) =
      Parser.parseFrom .initial (Lexeme.place .start ls) := by
    -- Only newlines have moved.
    rw [← Parser.parseFrom_map_loosen, Lexeme.map_loosen_place_crlf, Parser.parseFrom_map_loosen]
  rw [parse_of_split hcrlf, parse_of_split hcut, hparse, hplace, lexicalError_crlf stuck]
  simp only [crlf_eq_nil_iff]

/-- A tag, a comment and an unexpected token, each in front of a carriage return. -/
theorem parse_crlf_unexpected :
    (∀ l ∈ (Lexeme.split "type A struct \x7b\n B C `t` // d\n E \x7d\n".toList).1, l.OneLine) ∧
    parse "type A struct \x7b\r\n B C `t` // d\r\n E \x7d\r\n" =
      parse "type A struct \x7b\n B C `t` // d\n E \x7d\n" ∧
    parse "type A struct \x7b\n B C `t` // d\n E \x7d\n" =
      .error (.unexpectedToken "field type" ⟨.rightBrace, "\x7d", ⟨3, 4⟩⟩) := by
  have h : ∀ l ∈ (Lexeme.split "type A struct \x7b\n B C `t` // d\n E \x7d\n".toList).1,
      l.OneLine := by
    decide +kernel
  have htext : String.ofList (crlf "type A struct \x7b\n B C `t` // d\n E \x7d\n".toList) =
      "type A struct \x7b\r\n B C `t` // d\r\n E \x7d\r\n" := by
    decide +kernel
  refine ⟨h, ?_, by decide +kernel⟩
  rw [← htext]
  exact parse_crlf h

end StructSchema
