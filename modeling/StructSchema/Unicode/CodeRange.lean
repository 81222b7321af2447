/-!
# Ranges of code points

A property of characters is a table: a list of ranges in increasing order. Looking a code point up
stops at the first range that ends at or after it.

## Key results

- `CodeRange.covers_eq_any`: in an ordered table, looking up finds every range that contains the
  code point
-/

namespace StructSchema.Unicode

/-- The code points `first`, `first + step`, `first + 2 * step` and so on, up to `last`. -/
structure CodeRange where
  first : Nat
  last : Nat
  step : Nat
deriving DecidableEq, Repr

namespace CodeRange

/-- One code point. -/
def single (n : Nat) : CodeRange := ⟨n, n, 1⟩

/-- Every code point from `first` to `last`. -/
def run (first last : Nat) : CodeRange := ⟨first, last, 1⟩

/-- Every second code point from `first` to `last`, as where capital and small letters alternate. -/
def alternating (first last : Nat) : CodeRange := ⟨first, last, 2⟩

/-- Whether the code point is one of the range. -/
def contains (r : CodeRange) (n : Nat) : Bool :=
  decide (r.first ≤ n) && decide (n ≤ r.last) && (n - r.first) % r.step == 0

theorem contains_run {first last n : Nat} :
    (run first last).contains n = true ↔ first ≤ n ∧ n ≤ last := by
  simp only [contains, Bool.and_eq_true, decide_eq_true_eq, beq_iff_eq]
  simp [run, Nat.mod_one]

/-- Whether the first range that ends at or after the code point contains it. -/
def covers : List CodeRange → Nat → Bool
  | [], _ => false
  | r :: rest, n =>
    if n < r.first then false else if n ≤ r.last then r.contains n else covers rest n

/-- Every range starts at `low` or later, and each ends before the next one starts. -/
def orderedFrom (low : Nat) : List CodeRange → Bool
  | [] => true
  | r :: rest =>
    decide (low ≤ r.first) && decide (r.first ≤ r.last) && orderedFrom (r.last + 1) rest

/-- No range of an ordered table contains a code point below its start. -/
theorem any_contains_eq_false (table : List CodeRange) (low n : Nat)
    (h : orderedFrom low table = true) (hn : n < low) : table.any (·.contains n) = false := by
  induction table generalizing low with
  | nil => rfl
  | cons r rest ih =>
    simp only [orderedFrom, Bool.and_eq_true, decide_eq_true_eq] at h
    obtain ⟨⟨hlow, hr⟩, hrest⟩ := h
    have outside : r.contains n = false := by
      have : ¬ r.first ≤ n := by omega
      simp [contains, this]
    rw [List.any_cons, outside, Bool.false_or]
    exact ih (r.last + 1) hrest (by omega)

/-- In an ordered table, looking up finds every range that contains the code point. -/
theorem covers_eq_any (table : List CodeRange) (low n : Nat) (h : orderedFrom low table = true) :
    covers table n = table.any (·.contains n) := by
  induction table generalizing low with
  | nil => rfl
  | cons r rest ih =>
    have whole := h
    simp only [orderedFrom, Bool.and_eq_true, decide_eq_true_eq] at h
    obtain ⟨⟨_, hr⟩, hrest⟩ := h
    rw [covers]
    split
    · next below =>
      -- The code point lies before every range.
      rw [any_contains_eq_false (r :: rest) r.first n _ below]
      simp only [orderedFrom, Bool.and_eq_true, decide_eq_true_eq]
      exact ⟨⟨Nat.le_refl _, hr⟩, hrest⟩
    · split
      · next within =>
        -- Only this range can hold it: the others start later.
        rw [List.any_cons, any_contains_eq_false rest (r.last + 1) n hrest (by omega),
          Bool.or_false]
      · next above =>
        -- This range has ended: the others decide.
        have outside : r.contains n = false := by simp [contains, above]
        rw [List.any_cons, outside, Bool.false_or]
        exact ih (r.last + 1) hrest

/-- An ordered table covers every code point of its ranges. -/
theorem covers_of_mem {table : List CodeRange} {low n : Nat} {r : CodeRange}
    (h : orderedFrom low table = true) (hr : r ∈ table) (hn : r.contains n = true) :
    covers table n = true := by
  rw [covers_eq_any table low n h]
  exact List.any_eq_true.2 ⟨r, hr, hn⟩

/-- A table is disjoint from a property that fails for every code point of its ranges, one by one.
 -/
theorem eq_false_of_covers {table : List CodeRange} {low n : Nat} {p : Nat → Bool}
    (h : orderedFrom low table = true)
    (hp : (table.all fun r =>
      (List.range' r.first (r.last + 1 - r.first)).all fun k => !p k) = true)
    (hn : covers table n = true) : p n = false := by
  rw [covers_eq_any table low n h, List.any_eq_true] at hn
  obtain ⟨r, hr, hn⟩ := hn
  simp only [contains, Bool.and_eq_true, decide_eq_true_eq] at hn
  have each := List.all_eq_true.1 (List.all_eq_true.1 hp r hr) n
    (List.mem_range'_1.2 ⟨hn.1.1, by omega⟩)
  simpa using each

end CodeRange

end StructSchema.Unicode
