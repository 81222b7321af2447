import StructSchema.Unicode.WhiteSpace

/-!
# Trimming

Taking the white space off both ends of a text.

## Key results

- `exists_append_trim`: nothing but white space is taken off
-/

namespace StructSchema.Text

open StructSchema.Unicode

/-- The text from its first character that is no white space. -/
def trimLeft (cs : List Char) : List Char := cs.dropWhile isWhiteSpace

/-- The text up to its last character that is no white space. -/
def trimRight (cs : List Char) : List Char := (cs.reverse.dropWhile isWhiteSpace).reverse

/-- The text without the white space at either end. -/
def trim (cs : List Char) : List Char := trimRight (trimLeft cs)

/-- Nothing but white space is taken off. -/
theorem exists_append_trim (cs : List Char) :
    ∃ front back, cs = front ++ trim cs ++ back ∧
      (∀ c ∈ front, isWhiteSpace c = true) ∧ (∀ c ∈ back, isWhiteSpace c = true) := by
  refine ⟨cs.takeWhile isWhiteSpace, ((trimLeft cs).reverse.takeWhile isWhiteSpace).reverse,
    ?_, List.all_eq_true.1 List.all_takeWhile, ?_⟩
  · rw [List.append_assoc, trim, trimRight, ← List.reverse_append,
      List.takeWhile_append_dropWhile, List.reverse_reverse, trimLeft,
      List.takeWhile_append_dropWhile]
  · intro c hc
    exact List.all_eq_true.1 List.all_takeWhile c (List.mem_reverse.1 hc)

end StructSchema.Text
