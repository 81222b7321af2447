/-!
# Positions in a text

Lines and columns are counted from one. A column counts characters, a line break starts a new line
and no other character does.

## Key results

- `Position.after_append`: reading two spans one after the other is reading them as one
- `Position.after_eq_of_not_mem`: a span without line breaks moves along its line
- `Position.line_after`: each line break leads to the next line
- `Position.after_ne_self`: no two characters stand at the same place
-/

namespace StructSchema.Text

/-- A place in a text: the line and the column of the character that stands there. -/
structure Position where
  line : Nat
  column : Nat
deriving DecidableEq, Repr, Inhabited

namespace Position

/-- The place of the first character. -/
def start : Position := ⟨1, 1⟩

/-- The place of the character that follows `c`. -/
def next (p : Position) (c : Char) : Position :=
  if c = '\n' then ⟨p.line + 1, 1⟩ else ⟨p.line, p.column + 1⟩

/-- The place of the character that follows a span. -/
def after (p : Position) (span : List Char) : Position := span.foldl next p

@[simp] theorem after_nil (p : Position) : p.after [] = p := rfl

@[simp] theorem after_cons (p : Position) (c : Char) (span : List Char) :
    p.after (c :: span) = (p.next c).after span := rfl

/-- Reading two spans one after the other is reading them as one. -/
theorem after_append (p : Position) (front back : List Char) :
    p.after (front ++ back) = (p.after front).after back := by
  simp [after, List.foldl_append]

/-- A span without line breaks moves along its line, one column for each character. -/
theorem after_eq_of_not_mem (p : Position) (span : List Char) (h : '\n' ∉ span) :
    p.after span = ⟨p.line, p.column + span.length⟩ := by
  induction span generalizing p with
  | nil => rfl
  | cons c rest ih =>
    have hc : c ≠ '\n' := fun e => h (e ▸ List.mem_cons_self)
    rw [after_cons, ih _ fun hm => h (List.mem_cons_of_mem c hm)]
    simp only [next, hc, if_false, List.length_cons]
    congr 1
    omega

/-- Each line break leads to the next line. -/
theorem line_after (p : Position) (span : List Char) :
    (p.after span).line = p.line + span.count '\n' := by
  induction span generalizing p with
  | nil => rfl
  | cons c rest ih =>
    rw [after_cons, ih, next, List.count_cons]
    by_cases hc : c = '\n'
    · simp only [hc, if_true, beq_self_eq_true]
      omega
    · simp [hc]

/-- Reading on leads to no earlier line. -/
theorem line_le_line_after (p : Position) (span : List Char) : p.line ≤ (p.after span).line := by
  rw [line_after]
  omega

/-- No two characters stand at the same place. -/
theorem after_ne_self (p : Position) {span : List Char} (h : span ≠ []) : p.after span ≠ p := by
  intro heq
  -- A line break between the two leads to another line, and without one they are on one line.
  by_cases hbreak : '\n' ∈ span
  · have hline := congrArg line heq
    rw [line_after] at hline
    have := List.count_pos_iff.2 hbreak
    omega
  · rw [after_eq_of_not_mem p span hbreak] at heq
    have hcolumn : p.column + span.length = p.column := congrArg column heq
    have := List.length_pos_iff.2 h
    omega

end Position

end StructSchema.Text
