import Mathlib.Data.List.Basic
import StructSchema.Proofs.Token.Splitting

/-!
# Texts of whole lines

A text that is empty or ends in a line break leaves nothing open. If it has tokens, its last lexeme
is that line break, so that it is cut in front of any other text as it is cut by itself, and the
other text is cut as if it stood alone.

## Key results

- `Lexeme.eq_nil_or_eq_append_newline`: whole lines end in a newline
- `Lexeme.split_append_of_wholeLines`: the cut of a text behind whole lines
-/

namespace StructSchema

open StructSchema.Text

/-- The text is empty or ends in a line break. -/
def Text.WholeLines (cs : List Char) : Prop := cs = [] ∨ cs.getLast? = some '\n'

instance (cs : List Char) : Decidable (WholeLines cs) := inferInstanceAs (Decidable (_ ∨ _))

theorem Text.wholeLines_append_lineBreak (cs : List Char) : WholeLines (cs ++ ['\n']) :=
  .inr List.getLast?_concat

namespace Lexeme

/-- Only the newline is spelled with a line break at the end. -/
theorem eq_newline_of_getLast?_spelling {l : Lexeme} (hl : l.WellFormed)
    (h : l.spelling.getLast? = some '\n') : l = .newline := by
  cases l with
  | newline => rfl
  | leftBrace | rightBrace => simp [spelling] at h
  | blank c => exact absurd (by simpa [spelling] using h) hl.2
  | comment body =>
    have hmem : '\n' ∈ '/' :: '/' :: body := List.mem_of_getLast? h
    exact absurd (by simpa using hmem) hl
  | tag body =>
    rw [spelling, ← List.cons_append, List.getLast?_concat] at h
    simp [backtick] at h
  | word modifiers name =>
    exact absurd (List.mem_of_getLast? h) (lineBreak_notMem_word hl.2)

/-- Whole lines end in a newline. -/
theorem eq_nil_or_eq_append_newline {ls : List Lexeme} (hls : ∀ l ∈ ls, l.WellFormed)
    (h : WholeLines (ls.flatMap spelling)) : ls = [] ∨ ∃ front, ls = front ++ [.newline] := by
  rcases List.eq_nil_or_concat' ls with rfl | ⟨front, last, rfl⟩
  · exact .inl rfl
  · refine .inr ⟨front, ?_⟩
    have hlast : last.WellFormed := hls last (by simp)
    have hne : last.spelling ≠ [] := hlast.spelling_ne_nil
    -- The text ends as its last lexeme does.
    have hend : last.spelling.getLast? = some '\n' := by
      rcases h with h | h
      · simp [hne] at h
      · simpa [List.getLast?_append, hne] using h
    rw [eq_newline_of_getLast?_spelling hlast hend]

/-- The lexemes of whole lines may stand in front of anything. -/
theorem Separated.of_wholeLines {ls : List Lexeme} (h : Separated [] ls)
    (hlines : WholeLines (ls.flatMap spelling)) (rest : List Char) : Separated rest ls := by
  rcases eq_nil_or_eq_append_newline h.wellFormed hlines with rfl | ⟨front, rfl⟩
  · trivial
  · refine h.of_getLast? fun l hl _ => ?_
    obtain rfl : Lexeme.newline = l := by simpa using hl
    trivial

/-- Behind whole lines a text is cut as if it stood alone. -/
theorem split_append_of_wholeLines {front : List Char} {ls : List Lexeme}
    (h : split front = (ls, [])) (hlines : WholeLines front) (back : List Char) :
    split (front ++ back) = (ls ++ (split back).1, (split back).2) := by
  obtain ⟨hfront, hls, -⟩ := split_eq_iff.1 h
  rw [List.append_nil] at hfront
  rw [← hfront] at hlines
  refine split_eq_iff.2
    ⟨?_, separated_append.2 ⟨hls.of_wholeLines hlines _, separated_split back⟩, read?_split back⟩
  rw [List.flatMap_append, List.append_assoc, spelling_append_split, hfront]

end Lexeme

end StructSchema
