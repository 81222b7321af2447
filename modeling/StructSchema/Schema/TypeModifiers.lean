/-!
# Type modifiers

The marks in front of a type name: `[]` for a slice and `*` for a pointer, in this order, each at
most once.

## Key results

- `TypeModifiers.spelling_append_rest`: the marks read off a text and what they leave make up the
  text
- `TypeModifiers.read_spelling_append_iff`: in front of which texts marks are read as they are
  written
- `TypeModifiers.read_spelling_append`: they are in front of a text that starts with none
-/

namespace StructSchema

/-- Which marks stand in front of a type name. -/
structure TypeModifiers where
  isSlice : Bool
  isPointer : Bool
deriving DecidableEq, Repr

namespace TypeModifiers

/-- How the marks are written. -/
def spelling (m : TypeModifiers) : List Char :=
  (if m.isSlice then ['[', ']'] else []) ++ (if m.isPointer then ['*'] else [])

/-- Takes a slice mark off the front of a text, if there is one. -/
def takeSlice : List Char → Bool × List Char
  | '[' :: ']' :: rest => (true, rest)
  | cs => (false, cs)

/-- Takes a pointer mark off the front of a text, if there is one. -/
def takePointer : List Char → Bool × List Char
  | '*' :: rest => (true, rest)
  | cs => (false, cs)

/-- Takes the marks off the front of a text. -/
def read (cs : List Char) : TypeModifiers × List Char :=
  let slice := takeSlice cs
  let pointer := takePointer slice.2
  (⟨slice.1, pointer.1⟩, pointer.2)

theorem takeSlice_spelling (cs : List Char) :
    (if (takeSlice cs).1 then ['[', ']'] else []) ++ (takeSlice cs).2 = cs := by
  unfold takeSlice
  split <;> simp

theorem takePointer_spelling (cs : List Char) :
    (if (takePointer cs).1 then ['*'] else []) ++ (takePointer cs).2 = cs := by
  unfold takePointer
  split <;> simp

/-- The marks read off a text and what they leave make up the text. -/
theorem spelling_append_rest (cs : List Char) : (read cs).1.spelling ++ (read cs).2 = cs := by
  calc (read cs).1.spelling ++ (read cs).2
    _ = (if (takeSlice cs).1 then ['[', ']'] else []) ++
          ((if (takePointer (takeSlice cs).2).1 then ['*'] else []) ++
            (takePointer (takeSlice cs).2).2) := List.append_assoc ..
    _ = cs := by rw [takePointer_spelling, takeSlice_spelling]

/-- A text has no slice mark taken off exactly if it starts with none. -/
theorem takeSlice_eq_self_iff (cs : List Char) :
    takeSlice cs = (false, cs) ↔ ¬ ['[', ']'] <+: cs := by
  unfold takeSlice
  split
  · simp
  · next hnone =>
    refine iff_of_true rfl ?_
    rintro ⟨rest, rfl⟩
    exact hnone rest rfl

/-- A text has no pointer mark taken off exactly if it starts with none. -/
theorem takePointer_eq_self_iff (cs : List Char) :
    takePointer cs = (false, cs) ↔ ¬ ['*'] <+: cs := by
  unfold takePointer
  split
  · simp
  · next hnone =>
    refine iff_of_true rfl ?_
    rintro ⟨rest, rfl⟩
    exact hnone rest rfl

/-- A text without marks is one that has neither mark taken off. -/
theorem read_eq_self_iff (cs : List Char) : read cs = (⟨false, false⟩, cs) ↔
    takeSlice cs = (false, cs) ∧ takePointer cs = (false, cs) := by
  constructor
  · intro h
    have hslice : (takeSlice cs).1 = false := congrArg (fun r => r.1.isSlice) h
    -- What no slice mark is taken off from is left as it is.
    have hrest : takeSlice cs = (false, cs) := by
      have hspelling := takeSlice_spelling cs
      rw [hslice] at hspelling
      exact Prod.ext hslice hspelling
    rw [read, hrest] at h
    have hpointer : (takePointer cs).1 = false := congrArg (fun r => r.1.isPointer) h
    have hleft : (takePointer cs).2 = cs := congrArg (fun r => r.2) h
    exact ⟨hrest, Prod.ext hpointer hleft⟩
  · rintro ⟨hslice, hpointer⟩
    rw [read, hslice]
    show ((⟨false, (takePointer cs).1⟩, (takePointer cs).2) : TypeModifiers × List Char) = _
    rw [hpointer]

/-- Marks are read as they are written exactly if the text behind them does not start with one that
    could stand there: a pointer mark if there is none, or a slice mark if there are no marks at
    all. -/
theorem read_spelling_append_iff (m : TypeModifiers) (cs : List Char) :
    read (m.spelling ++ cs) = (m, cs) ↔
      ¬ (m.isPointer = false ∧ ['*'] <+: cs) ∧
      ¬ (m.isSlice = false ∧ m.isPointer = false ∧ ['[', ']'] <+: cs) := by
  obtain ⟨isSlice, isPointer⟩ := m
  cases isPointer with
  | true =>
    -- Behind a pointer mark nothing is taken for a mark.
    cases isSlice <;> simp [read, spelling, takeSlice, takePointer]
  | false =>
    cases isSlice with
    | true =>
      have hread : read (spelling ⟨true, false⟩ ++ cs) =
          (⟨true, (takePointer cs).1⟩, (takePointer cs).2) := rfl
      have hpointer := takePointer_eq_self_iff cs
      rw [Prod.ext_iff] at hpointer
      simpa [hread] using hpointer
    | false =>
      show read cs = (⟨false, false⟩, cs) ↔ _
      rw [read_eq_self_iff, takeSlice_eq_self_iff, takePointer_eq_self_iff]
      simp [and_comm]

/-- Marks in front of a text that starts with none are read as they are written. -/
theorem read_spelling_append (m : TypeModifiers) (cs : List Char)
    (hslice : cs.head? ≠ some '[') (hpointer : cs.head? ≠ some '*') :
    read (m.spelling ++ cs) = (m, cs) := by
  apply (read_spelling_append_iff m cs).2
  constructor
  · rintro ⟨-, rest, rfl⟩
    exact hpointer rfl
  · rintro ⟨-, -, rest, rfl⟩
    exact hslice rfl

end TypeModifiers

end StructSchema
