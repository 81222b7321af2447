import StructSchema.Text.Trim

/-!
# Trimmed texts

A text is trimmed if white space stands at neither end of it. Trimming gives trimmed texts and
leaves them as they are.

## Key results

- `trim_eq_self_iff`: which texts are trimmed
- `trim_trim`: trimming again takes nothing off
-/

namespace StructSchema.Text

open StructSchema.Unicode

theorem trimLeft_cons_of_isWhiteSpace {c : Char} (cs : List Char) (h : isWhiteSpace c = true) :
    trimLeft (c :: cs) = trimLeft cs :=
  List.dropWhile_cons_of_pos h

/-- White space in front of a text is taken off. -/
theorem trim_cons_of_isWhiteSpace {c : Char} (cs : List Char) (h : isWhiteSpace c = true) :
    trim (c :: cs) = trim cs := by
  rw [trim, trimLeft_cons_of_isWhiteSpace cs h]
  rfl

theorem isWhiteSpace_of_head?_trimLeft {cs : List Char} {c : Char}
    (h : (trimLeft cs).head? = some c) : isWhiteSpace c = false := by
  have hhead := List.head?_dropWhile_not isWhiteSpace cs
  rw [trimLeft] at h
  rw [h] at hhead
  simpa using hhead

theorem trimLeft_eq_self_iff {cs : List Char} :
    trimLeft cs = cs ↔ ∀ c, cs.head? = some c → isWhiteSpace c = false := by
  constructor
  · intro h c hc
    exact isWhiteSpace_of_head?_trimLeft (by rwa [h])
  · intro h
    cases cs with
    | nil => rfl
    | cons c cs => exact List.dropWhile_cons_of_neg (by simp [h c rfl])

theorem trimRight_eq_self_iff {cs : List Char} :
    trimRight cs = cs ↔ ∀ c, cs.getLast? = some c → isWhiteSpace c = false := by
  rw [← List.head?_reverse, ← trimLeft_eq_self_iff, trimRight, trimLeft,
    List.reverse_eq_iff]

/-- What is trimmed off the right is at the right. -/
theorem trimRight_isPrefix (cs : List Char) : trimRight cs <+: cs := by
  rw [← List.reverse_suffix, trimRight, List.reverse_reverse]
  exact List.dropWhile_suffix _

/-- White space behind a text is taken off. -/
theorem trim_append_of_isWhiteSpace (cs : List Char) {back : List Char}
    (h : ∀ c ∈ back, isWhiteSpace c = true) : trim (cs ++ back) = trim cs := by
  rw [trim, trim, trimLeft, trimLeft, List.dropWhile_append]
  split
  · next hnil =>
    -- Nothing but white space: both texts are trimmed away.
    have hback : (back ++ []).dropWhile isWhiteSpace = [] := List.dropWhile_append_of_pos h
    rw [List.append_nil] at hback
    rw [List.isEmpty_iff.1 hnil, hback]
  · have hback : ∀ c ∈ back.reverse, isWhiteSpace c = true := fun c hc => h c (by simpa using hc)
    rw [trimRight, trimRight, List.reverse_append, List.dropWhile_append_of_pos hback]

theorem trimLeft_trimLeft (cs : List Char) : trimLeft (trimLeft cs) = trimLeft cs :=
  trimLeft_eq_self_iff.2 fun _ hc => isWhiteSpace_of_head?_trimLeft hc

theorem trimRight_trimRight (cs : List Char) : trimRight (trimRight cs) = trimRight cs := by
  have h := trimLeft_trimLeft cs.reverse
  simp only [trimLeft] at h
  rw [trimRight, trimRight, List.reverse_reverse, h]

/-- White space at the left stays away while the right is trimmed. -/
theorem trimLeft_trim (cs : List Char) : trimLeft (trim cs) = trim cs := by
  refine trimLeft_eq_self_iff.2 fun c hc => ?_
  obtain ⟨taken, h⟩ := trimRight_isPrefix (trimLeft cs)
  -- What is left after trimming the right starts as before.
  have hstart : (trimLeft cs).head? = some c := by
    rw [← h, List.head?_append, show (trimRight (trimLeft cs)).head? = some c from hc]
    rfl
  exact isWhiteSpace_of_head?_trimLeft hstart

/-- Trimming again takes nothing off. -/
theorem trim_trim (cs : List Char) : trim (trim cs) = trim cs := by
  rw [trim, trimLeft_trim, trim, trimRight_trimRight]

/-- A text is trimmed if neither its first nor its last character is white space. -/
theorem trim_eq_self_iff {cs : List Char} :
    trim cs = cs ↔ (∀ c, cs.head? = some c → isWhiteSpace c = false) ∧
      ∀ c, cs.getLast? = some c → isWhiteSpace c = false := by
  rw [← trimLeft_eq_self_iff, ← trimRight_eq_self_iff]
  constructor
  · intro h
    have hleft := trimLeft_trim cs
    rw [h] at hleft
    refine ⟨hleft, ?_⟩
    rwa [trim, hleft] at h
  · intro h
    obtain ⟨hleft, hright⟩ := h
    rw [trim, hleft, hright]

/-- What is left of a text was in it. -/
theorem mem_of_mem_trim {cs : List Char} {c : Char} (h : c ∈ trim cs) : c ∈ cs := by
  obtain ⟨front, back, hcs, -, -⟩ := exists_append_trim cs
  rw [hcs]
  simp [h]

/-- What is taken off is white space. -/
theorem mem_trim_of_mem {cs : List Char} {c : Char} (h : c ∈ cs) (hc : isWhiteSpace c = false) :
    c ∈ trim cs := by
  obtain ⟨front, back, hcs, hfront, hback⟩ := exists_append_trim cs
  rw [hcs, List.mem_append, List.mem_append] at h
  rcases h with (hmem | hmem) | hmem
  · rw [hfront c hmem] at hc
    cases hc
  · exact hmem
  · rw [hback c hmem] at hc
    cases hc

end StructSchema.Text
