import StructSchema.Proofs.Schema.Concatenation
import StructSchema.Proofs.Schema.Lines
import StructSchema.Proofs.Schema.Trivia
import StructSchema.Proofs.Token.Spacing
import StructSchema.Proofs.Token.WholeLines

/-!
# Blank lines

A line with nothing on it but blanks and perhaps a comment may be put between any two lines. Its
tokens are a newline and perhaps a comment, and the line before has settled the parser, so they
change nothing: the comment belongs to no field. What stands behind moves down by a line.

## Key results

- `Text.BlankLine`: the lines that say nothing
- `Lexeme.exists_split_blankLine`: their tokens
- `Parser.settled_of_wholeLines`: whole lines leave the parser settled
- `parse_insert_blankLine`: a blank line between two lines changes nothing but places behind it
-/

namespace StructSchema

open StructSchema.Unicode StructSchema.Text StructSchema.Grammar

/-! ## Lines and places -/

namespace Text

/-- A line of nothing but blanks and perhaps a comment, without its line break. -/
inductive BlankLine : List Char → Prop
  | blank {blanks} : Blanks blanks → BlankLine blanks
  | comment {blanks body} : Blanks blanks → '\n' ∉ body → BlankLine (blanks ++ '/' :: '/' :: body)

theorem BlankLine.lineBreak_notMem {cs : List Char} (h : BlankLine cs) : '\n' ∉ cs := by
  cases h with
  | blank hblanks => exact hblanks.lineBreak_notMem
  | comment hblanks hbody => simp [hblanks.lineBreak_notMem, hbody]

namespace Position

/-- Behind whole lines the columns start again. -/
theorem start_after_of_wholeLines {cs : List Char} (h : WholeLines cs) :
    start.after cs = start.down (cs.count '\n') := by
  rcases h with rfl | h
  · rfl
  · obtain ⟨front, rfl⟩ := List.getLast?_eq_some_iff.1 h
    rw [start_after_append_newline, List.count_append, Nat.add_comm]
    rfl

theorem down_down (p : Position) (m n : Nat) : (p.down m).down n = p.down (m + n) := by
  simp [down, Nat.add_assoc]

/-- The place of a character after a line was put in behind the first `n` lines. -/
def makeRoom (n : Nat) (p : Position) : Position := if p.line ≤ n then p else p.down 1

theorem makeRoom_of_le {n : Nat} {p : Position} (h : p.line ≤ n) : makeRoom n p = p := if_pos h

theorem makeRoom_of_lt {n : Nat} {p : Position} (h : n < p.line) : makeRoom n p = p.down 1 :=
  if_neg (by omega)

end Position

end Text

/-! ## Lexemes -/

namespace Lexeme

/-- The tokens of a blank line are a newline and perhaps a comment. -/
theorem exists_split_blankLine {cs : List Char} (h : BlankLine cs) :
    ∃ ls, split (cs ++ ['\n']) = (ls, []) ∧ ∀ p, Trivia (place p ls) := by
  cases h with
  | blank hblanks =>
    have separated : Separated [] [newline] := ⟨trivial, trivial, trivial⟩
    refine ⟨cs.map blank ++ [.newline], (separated.map_blank_append hblanks).split_eq ?_,
      fun p => ?_⟩
    · simp [spelling_map_blank, spelling]
    · rw [place_map_blank_append]
      exact trivia_cons.2 ⟨rfl, trivia_nil⟩
  | @comment blanks body hblanks hbody =>
    have separated : Separated [] [comment body, newline] :=
      ⟨hbody, endsBefore_lineBreak _ _, trivial, trivial, trivial⟩
    refine ⟨blanks.map blank ++ [.comment body, .newline],
      (separated.map_blank_append hblanks).split_eq ?_, fun p => ?_⟩
    · simp [spelling_map_blank, spelling]
    · rw [place_map_blank_append]
      exact trivia_cons.2 ⟨rfl, trivia_cons.2 ⟨rfl, trivia_nil⟩⟩

section

variable {ls : List Lexeme} (hls : ∀ l ∈ ls, l.WellFormed)

include hls

/-- The tokens of whole lines stand on these lines. -/
theorem line_le_of_mem_place_wholeLines (hlines : WholeLines (ls.flatMap spelling)) {t : Token}
    (ht : t ∈ place .start ls) : t.position.line ≤ (ls.flatMap spelling).count '\n' := by
  obtain ⟨front, back, h⟩ := List.append_of_mem ht
  obtain ⟨ls₁, l, ls₂, rfl, htoken, -⟩ := exists_of_place_eq_append_cons h
  rcases eq_nil_or_eq_append_newline hls hlines with hnil | ⟨init, hinit⟩
  · simp at hnil
  · -- The newline at the end is not in front of the token.
    have hmem : Lexeme.newline ∈ l :: ls₂ := by
      have hlast : (ls₁ ++ l :: ls₂).getLast? = some .newline := by simp [hinit]
      rw [List.getLast?_append_cons] at hlast
      exact List.mem_of_getLast? hlast
    have hbreak : '\n' ∈ (l :: ls₂).flatMap spelling :=
      List.mem_flatMap.2 ⟨.newline, hmem, List.mem_singleton_self _⟩
    have hcount := List.count_pos_iff.2 hbreak
    rw [position_of_token? htoken, placeAfter_eq, Position.line_after, List.flatMap_append,
      List.count_append]
    show 1 + _ ≤ _
    omega

end

/-- The tokens of whole lines stay where they are when a line is put in behind. -/
theorem map_relocate_place_of_wholeLines {ls : List Lexeme} {n : Nat}
    (hls : ∀ l ∈ ls, l.WellFormed) (hlines : WholeLines (ls.flatMap spelling))
    (hn : (ls.flatMap spelling).count '\n' = n) :
    (place .start ls).map (Token.relocate (Position.makeRoom n)) = place .start ls := by
  refine (List.map_congr_left (g := id) fun t ht => ?_).trans (List.map_id _)
  have hline := line_le_of_mem_place_wholeLines hls hlines ht
  rw [Token.relocate, Position.makeRoom_of_le (hn ▸ hline)]
  rfl

/-- The tokens behind move down. -/
theorem map_relocate_place_down (n : Nat) (ls : List Lexeme) :
    (place (Position.start.down n) ls).map (Token.relocate (Position.makeRoom n)) =
      place (Position.start.down (n + 1)) ls := by
  rw [← Position.down_down, place_down 1]
  refine List.map_congr_left fun t ht => ?_
  have hline := line_le_of_mem_place ht
  have hlater : n < t.position.line := by
    simp only [Position.down, Position.start] at hline
    omega
  rw [Token.relocate, Position.makeRoom_of_lt hlater]
  rfl

/-- A place behind moves down. -/
theorem makeRoom_placeAfter_down (n : Nat) (ls : List Lexeme) :
    Position.makeRoom n (placeAfter (Position.start.down n) ls) =
      placeAfter (Position.start.down (n + 1)) ls := by
  have hline := Position.line_le_line_after (Position.start.down n) (ls.flatMap spelling)
  rw [placeAfter_eq, placeAfter_eq, ← Position.down_down, Position.after_down 1]
  refine Position.makeRoom_of_lt ?_
  simp only [Position.down, Position.start] at hline ⊢
  omega

end Lexeme

/-! ## Reading -/

/-- Whole lines leave the parser settled. -/
theorem Parser.settled_of_wholeLines {ls : List Lexeme} (hls : ∀ l ∈ ls, l.WellFormed)
    (hlines : WholeLines (ls.flatMap Lexeme.spelling)) {p : Position} {s : Parser.State}
    (h : Parser.run .initial (Lexeme.place p ls) = .ok s) : s.phase.Settled := by
  rcases Lexeme.eq_nil_or_eq_append_newline hls hlines with rfl | ⟨front, rfl⟩
  · obtain rfl := Except.ok.inj h
    trivial
  · -- The last token is the newline.
    rw [Lexeme.place_append] at h
    obtain ⟨mid, -, hlast⟩ := Parser.run_append_eq_ok_iff.1 h
    have hstep : Parser.run mid [⟨.newline, "\n", Lexeme.placeAfter p front⟩] = .ok s := hlast
    rw [Parser.run_singleton] at hstep
    exact Parser.settled_of_step_newline rfl hstep

/-- Between two lines a blank line may be put in. The text declares the same structs, so that a
    comment on the blank line belongs to no field, or it has the same error, at a place that is
    further down by a line if it is behind the lines in front. -/
theorem parse_insert_blankLine {a line : String} {tokens : List Token}
    (hlines : WholeLines a.toList) (h : tokenize a = .ok tokens) (hline : BlankLine line.toList)
    (b : String) :
    parse (a ++ line ++ "\n" ++ b) =
      (parse (a ++ b)).mapError
        (Error.relocate (Position.makeRoom (a.toList.count '\n'))) := by
  obtain ⟨ls, hspelling, separated, -⟩ := tokenize_eq_ok_iff.1 h
  obtain ⟨blank, hblank, htrivia⟩ := Lexeme.exists_split_blankLine hline
  have hwhole : WholeLines (ls.flatMap Lexeme.spelling) := hspelling ▸ hlines
  have hfront := separated.split_eq hspelling
  have hwholeLine := wholeLines_append_lineBreak line.toList
  rcases hb : Lexeme.split b.toList with ⟨more, rest⟩
  have hold : Lexeme.split (a ++ b).toList = (ls ++ more, rest) := by
    rw [String.toList_append, Lexeme.split_append_of_wholeLines hfront hlines, hb]
  have hnew : Lexeme.split (a ++ line ++ "\n" ++ b).toList = (ls ++ (blank ++ more), rest) := by
    have htext : (a ++ line ++ "\n" ++ b).toList =
        a.toList ++ ((line.toList ++ ['\n']) ++ b.toList) := by simp
    rw [htext, Lexeme.split_append_of_wholeLines hfront hlines,
      Lexeme.split_append_of_wholeLines hblank hwholeLine, hb]
  -- Behind the lines in front the columns start again, and behind the blank line once more.
  have hafter : Lexeme.placeAfter .start ls = Position.start.down (a.toList.count '\n') := by
    rw [Lexeme.placeAfter_eq, hspelling, Position.start_after_of_wholeLines hlines]
  have hafterLine (n : Nat) :
      Lexeme.placeAfter (Position.start.down n) blank = Position.start.down (n + 1) := by
    obtain ⟨hspells, -, -⟩ := Lexeme.split_eq_iff.1 hblank
    rw [List.append_nil] at hspells
    rw [Lexeme.placeAfter_eq, hspells, Position.after_down,
      Position.start_after_of_wholeLines hwholeLine, Position.down_down, List.count_append,
      List.count_eq_zero_of_not_mem hline.lineBreak_notMem]
    exact congrArg Position.start.down (Nat.add_comm 1 n)
  rw [parse_of_split hold, parse_of_split hnew, Lexeme.place_append, Lexeme.place_append,
    Lexeme.place_append, Lexeme.placeAfter_append, Lexeme.placeAfter_append,
    Lexeme.placeAfter_append, hafter, hafterLine]
  split
  · -- The tokens of the blank line change nothing, and all that is behind moves down.
    rw [Parser.parseFrom_append_trivia_append
      (fun s hs => Parser.settled_of_wholeLines separated.wellFormed hwhole hs) (htrivia _),
      ← Parser.parseFrom_initial_relocate, List.map_append, Lexeme.map_relocate_place_down,
      Lexeme.map_relocate_place_of_wholeLines separated.wellFormed hwhole (by rw [hspelling])]
  · rw [← Lexeme.makeRoom_placeAfter_down, lexicalError_relocate]
    rfl

/-- A comment on a line below a field, and an unexpected token below that. -/
theorem parse_insert_blankLine_unexpected :
    parse ("type A struct \x7b\nB C\n" ++ " // d" ++ "\n" ++ "\x7d\n\x7d") =
      (parse ("type A struct \x7b\nB C\n" ++ "\x7d\n\x7d")).mapError
        (Error.relocate (Position.makeRoom 2)) ∧
    parse ("type A struct \x7b\nB C\n" ++ " // d" ++ "\n" ++ "\x7d\n\x7d") =
      .error (.unexpectedToken "\"type\"" ⟨.rightBrace, "\x7d", ⟨5, 1⟩⟩) := by
  have hlines : WholeLines "type A struct \x7b\nB C\n".toList := by decide +kernel
  have htokens : tokenize "type A struct \x7b\nB C\n" =
      .ok [⟨.typeKeyword, "type", ⟨1, 1⟩⟩, ⟨.ident, "A", ⟨1, 6⟩⟩,
        ⟨.structKeyword, "struct", ⟨1, 8⟩⟩, ⟨.leftBrace, "\x7b", ⟨1, 15⟩⟩,
        ⟨.newline, "\n", ⟨1, 16⟩⟩, ⟨.ident, "B", ⟨2, 1⟩⟩, ⟨.ident, "C", ⟨2, 3⟩⟩,
        ⟨.newline, "\n", ⟨2, 4⟩⟩, ⟨.eof, "", ⟨3, 1⟩⟩] := by
    decide +kernel
  have hline : BlankLine " // d".toList :=
    @BlankLine.comment [' '] [' ', 'd'] (by decide) (by decide)
  have hcount : "type A struct \x7b\nB C\n".toList.count '\n' = 2 := by decide +kernel
  have hinsert := parse_insert_blankLine hlines htokens hline "\x7d\n\x7d"
  rw [hcount] at hinsert
  exact ⟨hinsert, by decide +kernel⟩

end StructSchema
