import StructSchema.Unicode.Case

/-!
# Tables with no character in common

Two tables of code points are told apart in one pass over both: of each range in the first, only
those ranges of the second are looked at that end after it starts and start before it ends. Capital
and small letters often alternate, so that ranges may overlap, the one with the even and the other
with the odd code points.

## Key results

- `CodeRange.any_contains_eq_false_of_apartFrom`: tables that are told apart have no code point in
  common
- `isLowercase_eq_false_of_isUppercase`: no character is both uppercase and lowercase
-/

namespace StructSchema.Unicode

namespace CodeRange

/-- Whether all code points of the range are even or all are odd. -/
def hasOneParity (r : CodeRange) : Bool := r.step == 2 || r.first == r.last

/-- Whether one range has even code points only and the other odd ones. -/
def differInParity (r s : CodeRange) : Bool :=
  r.hasOneParity && s.hasOneParity && r.first % 2 != s.first % 2

/-- Whether the tables can be told to have no code point in common. The ranges of the second that
    end before a range of the first starts need not be looked at again. -/
def apartFrom : List CodeRange → List CodeRange → Bool
  | [], _ => true
  | r :: rs, table =>
    let rest := table.dropWhile fun s => decide (s.last < r.first)
    (rest.takeWhile fun s => decide (s.first ≤ r.last)).all r.differInParity && apartFrom rs rest

theorem bounds_of_contains {r : CodeRange} {n : Nat} (h : r.contains n = true) :
    r.first ≤ n ∧ n ≤ r.last := by
  simp only [contains, Bool.and_eq_true, decide_eq_true_eq] at h
  exact h.1

theorem mod_two_of_contains {r : CodeRange} {n : Nat} (hr : r.hasOneParity = true)
    (h : r.contains n = true) : n % 2 = r.first % 2 := by
  obtain ⟨hfirst, hlast⟩ := bounds_of_contains h
  rcases Bool.or_eq_true_iff.1 hr with htwo | hone
  · simp only [contains, eq_of_beq htwo, Bool.and_eq_true, beq_iff_eq] at h
    omega
  · have hsame := eq_of_beq hone
    omega

theorem contains_eq_false_of_differInParity {r s : CodeRange} {n : Nat}
    (h : r.differInParity s = true) (hr : r.contains n = true) : s.contains n = false := by
  simp only [differInParity, Bool.and_eq_true, bne_iff_ne] at h
  obtain ⟨⟨hrparity, hsparity⟩, hne⟩ := h
  rw [Bool.eq_false_iff]
  intro hs
  rw [← mod_two_of_contains hrparity hr, ← mod_two_of_contains hsparity hs] at hne
  exact hne rfl

/-- Ranges that end before a code point need not be looked at. -/
theorem any_contains_dropWhile (table : List CodeRange) {low n : Nat} (hn : low ≤ n) :
    (table.dropWhile fun s => decide (s.last < low)).any (·.contains n) =
      table.any (·.contains n) := by
  induction table with
  | nil => rfl
  | cons s table ih =>
    by_cases hs : s.last < low
    · have houtside : s.contains n = false := by
        rw [Bool.eq_false_iff]
        intro hcontains
        have := bounds_of_contains hcontains
        omega
      rw [List.dropWhile_cons_of_pos (by simpa using hs), ih, List.any_cons, houtside,
        Bool.false_or]
    · rw [List.dropWhile_cons_of_neg (by simpa using hs)]

/-- Nor need those that start behind it, from the first of them on. -/
theorem any_contains_takeWhile {table : List CodeRange} {low high n : Nat}
    (h : orderedFrom low table = true) (hn : n ≤ high) :
    (table.takeWhile fun s => decide (s.first ≤ high)).any (·.contains n) =
      table.any (·.contains n) := by
  induction table generalizing low with
  | nil => rfl
  | cons s table ih =>
    simp only [orderedFrom, Bool.and_eq_true, decide_eq_true_eq] at h
    obtain ⟨⟨-, hs⟩, htable⟩ := h
    by_cases hfirst : s.first ≤ high
    · rw [List.takeWhile_cons_of_pos (by simpa using hfirst), List.any_cons, List.any_cons,
        ih htable]
    · have hordered : orderedFrom s.first (s :: table) = true := by
        simp only [orderedFrom, Bool.and_eq_true, decide_eq_true_eq]
        exact ⟨⟨Nat.le_refl _, hs⟩, htable⟩
      rw [List.takeWhile_cons_of_neg (by simpa using hfirst),
        any_contains_eq_false _ _ n hordered (by omega)]
      rfl

/-- The ranges from some place on are in order as well. -/
theorem exists_orderedFrom_dropWhile {table : List CodeRange} {low : Nat}
    (h : orderedFrom low table = true) (p : CodeRange → Bool) :
    ∃ low', orderedFrom low' (table.dropWhile p) = true := by
  induction table generalizing low with
  | nil => exact ⟨low, h⟩
  | cons s table ih =>
    by_cases hs : p s = true
    · rw [List.dropWhile_cons_of_pos hs]
      simp only [orderedFrom, Bool.and_eq_true] at h
      exact ih h.2
    · rw [List.dropWhile_cons_of_neg hs]
      exact ⟨low, h⟩

theorem le_first_of_mem {table : List CodeRange} {low : Nat} (h : orderedFrom low table = true)
    {r : CodeRange} (hr : r ∈ table) : low ≤ r.first := by
  induction table generalizing low with
  | nil => cases hr
  | cons s table ih =>
    simp only [orderedFrom, Bool.and_eq_true, decide_eq_true_eq] at h
    obtain ⟨⟨hlow, hs⟩, htable⟩ := h
    rcases List.mem_cons.1 hr with rfl | hr
    · exact hlow
    · have := ih htable hr
      omega

/-- Tables that are told apart have no code point in common. -/
theorem any_contains_eq_false_of_apartFrom {rs table : List CodeRange} {low low' n : Nat}
    (hrs : orderedFrom low rs = true) (htable : orderedFrom low' table = true)
    (h : apartFrom rs table = true) (hn : rs.any (·.contains n) = true) :
    table.any (·.contains n) = false := by
  induction rs generalizing low low' table with
  | nil => cases hn
  | cons r rs ih =>
    simp only [apartFrom, Bool.and_eq_true] at h
    obtain ⟨hhead, hlater⟩ := h
    simp only [orderedFrom, Bool.and_eq_true, decide_eq_true_eq] at hrs
    obtain ⟨⟨-, hr⟩, hrs⟩ := hrs
    obtain ⟨low'', hrest⟩ := exists_orderedFrom_dropWhile htable fun s => decide (s.last < r.first)
    rw [List.any_cons, Bool.or_eq_true] at hn
    rcases hn with hn | hn
    · -- Of the ranges that are left, those that meet the first one differ from it in parity.
      obtain ⟨hfirst, hlast⟩ := bounds_of_contains hn
      rw [← any_contains_dropWhile table hfirst, ← any_contains_takeWhile hrest hlast,
        List.any_eq_false]
      intro s hs
      rw [contains_eq_false_of_differInParity (List.all_eq_true.1 hhead s hs) hn]
      exact Bool.false_ne_true
    · have hfirst : r.first ≤ n := by
        obtain ⟨r', hr', hcontains⟩ := List.any_eq_true.1 hn
        have := le_first_of_mem hrs hr'
        have := bounds_of_contains hcontains
        omega
      rw [← any_contains_dropWhile table hfirst]
      exact ih hrs hrest hlater hn

end CodeRange

theorem uppercase_apartFrom_lowercase :
    CodeRange.apartFrom uppercaseRanges lowercaseRanges = true := by
  decide +kernel

/-- No character is both uppercase and lowercase. -/
theorem isLowercase_eq_false_of_isUppercase {c : Char} (h : isUppercase c = true) :
    isLowercase c = false := by
  rw [isUppercase, CodeRange.covers_eq_any _ _ _ uppercaseRanges_ordered] at h
  rw [isLowercase, CodeRange.covers_eq_any _ _ _ lowercaseRanges_ordered]
  exact CodeRange.any_contains_eq_false_of_apartFrom uppercaseRanges_ordered
    lowercaseRanges_ordered uppercase_apartFrom_lowercase h

end StructSchema.Unicode
