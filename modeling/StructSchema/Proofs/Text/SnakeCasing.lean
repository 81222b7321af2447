import StructSchema.Text.SnakeCase
import StructSchema.Unicode.WhiteSpace

/-!
# The characters of a name in snake case

Lower case forms are the characters themselves or stand behind the capital letters of ASCII, so that
snake case brings no mark into a name but `_`, and no white space.

## Key results

- `Unicode.mem_lowercase`: where lower case forms are found
- `Text.mem_snakeCase`: the characters of a name in snake case
- `Text.notMem_snakeCase`, `Text.isWhiteSpace_eq_false_of_mem_snakeCase`: what is not brought in
-/

namespace StructSchema

namespace Unicode

/-- A lower case form is the code point itself or lies among the targets of a shift. -/
theorem lowerCode_eq_or_mem_target (shifts : List LowerShift) (n : Nat) :
    lowerCode shifts n = n ∨ ∃ s ∈ shifts, s.target ≤ lowerCode shifts n ∧
      lowerCode shifts n ≤ s.target + (s.source.last - s.source.first) := by
  induction shifts with
  | nil => exact .inl rfl
  | cons s shifts ih =>
    unfold lowerCode
    -- The code point is before the shift, at the shift, or behind it.
    by_cases hbefore : n < s.source.first
    · rw [if_pos hbefore]
      exact .inl rfl
    rw [if_neg hbefore]
    by_cases hupto : n ≤ s.source.last
    · rw [if_pos hupto]
      -- A shift may leave out every second code point.
      split
      · exact .inr ⟨s, List.mem_cons_self, by omega, by omega⟩
      · exact .inl rfl
    · rw [if_neg hupto]
      rcases ih with ih | ⟨t, ht, hbounds⟩
      · exact .inl ih
      · exact .inr ⟨t, List.mem_cons_of_mem s ht, hbounds⟩

/-- The targets are characters behind the capital letters of ASCII. -/
theorem target_bounds : ∀ s ∈ lowerShifts, 0x60 < s.target ∧
    (s.target + (s.source.last - s.source.first) < 0xD800 ∨
      0xDFFF < s.target ∧ s.target + (s.source.last - s.source.first) < 0x110000) := by
  decide +kernel

theorem toNat_ofNat {n : Nat} (h : n.isValidChar) : (Char.ofNat n).toNat = n := by
  rw [Char.ofNat, dif_pos h]
  rfl

/-- The characters of a lower case form are the character itself, lie among the targets of a shift,
    or are those of the one form of two characters, `i` and a combining dot. -/
theorem mem_lowercase {c d : Char} (h : d ∈ lowercase c) : d = c ∨ d = 'i' ∨ d = '\u0307' ∨
    ∃ s ∈ lowerShifts, s.target ≤ d.toNat ∧
      d.toNat ≤ s.target + (s.source.last - s.source.first) := by
  unfold lowercase at h
  split at h
  · simp only [List.mem_cons, List.not_mem_nil, or_false] at h
    exact .inr (h.imp_right .inl)
  · rw [List.mem_singleton] at h
    subst h
    rcases lowerCode_eq_or_mem_target lowerShifts c.toNat with hsame | ⟨s, hs, hlow, hhigh⟩
    · rw [hsame, Char.ofNat_toNat]
      exact .inl rfl
    · obtain ⟨htarget, hvalid⟩ := target_bounds s hs
      -- No target is a surrogate, for which there would be no character.
      have hcode : (lowerCode lowerShifts c.toNat).isValidChar := by
        unfold Nat.isValidChar
        omega
      rw [toNat_ofNat hcode]
      exact .inr (.inr (.inr ⟨s, hs, hlow, hhigh⟩))

/-- The characters of a lower case form are the character itself or stand behind the capital letters
    of ASCII. -/
theorem lt_toNat_of_mem_lowercase {c d : Char} (h : d ∈ lowercase c) : d = c ∨ 0x60 < d.toNat := by
  rcases mem_lowercase h with hsame | rfl | rfl | ⟨s, hs, hlow, -⟩
  · exact .inl hsame
  · exact .inr (by decide)
  · exact .inr (by decide)
  · have htarget := (target_bounds s hs).1
    exact .inr (by omega)

/-- No white space lies among the targets of a shift. -/
theorem whiteSpace_outside_targets : ∀ s ∈ lowerShifts, ∀ r ∈ whiteSpaceRanges,
    r.last < s.target ∨ s.target + (s.source.last - s.source.first) < r.first := by
  decide +kernel

/-- A lower case form has no white space but the character itself. -/
theorem eq_of_isWhiteSpace_of_mem_lowercase {c d : Char} (h : d ∈ lowercase c)
    (hd : isWhiteSpace d = true) : d = c := by
  rcases mem_lowercase h with hsame | rfl | rfl | ⟨s, hs, hlow, hhigh⟩
  · exact hsame
  · exact absurd hd (by decide)
  · exact absurd hd (by decide)
  · rw [isWhiteSpace, CodeRange.covers_eq_any _ _ _ whiteSpaceRanges_ordered,
      List.any_eq_true] at hd
    obtain ⟨r, hr, hd⟩ := hd
    simp only [CodeRange.contains, Bool.and_eq_true, decide_eq_true_eq] at hd
    have hapart := whiteSpace_outside_targets s hs r hr
    omega

end Unicode

namespace Text

open StructSchema.Unicode

theorem mem_snakeCaseAfter {name : List Char} {previous : Option Char} {d : Char}
    (h : d ∈ snakeCaseAfter previous name) : d = '_' ∨ ∃ c ∈ name, d = c ∨ d ∈ lowercase c := by
  induction name generalizing previous with
  | nil => simp [snakeCaseAfter] at h
  | cons c name ih =>
    have later (hd : d ∈ snakeCaseAfter (some c) name) :
        d = '_' ∨ ∃ c' ∈ c :: name, d = c' ∨ d ∈ lowercase c' :=
      (ih hd).imp_right fun hmem => hmem.imp fun _ both => both.imp_left (List.mem_cons_of_mem c)
    unfold snakeCaseAfter at h
    split at h
    · -- An uppercase character: its separator, its lower case form, or what comes later.
      simp only [List.mem_append] at h
      rcases h with (hseparator | hlower) | hd
      · unfold separator at hseparator
        split at hseparator
        · exact .inl (List.mem_singleton.1 hseparator)
        · cases hseparator
      · exact .inr ⟨c, List.mem_cons_self, .inr hlower⟩
      · exact later hd
    · rcases List.mem_cons.1 h with hsame | hd
      · exact .inr ⟨c, List.mem_cons_self, .inl hsame⟩
      · exact later hd

/-- The characters of a name in snake case are `_` and those of the name, as they are or in lower
    case. -/
theorem mem_snakeCase {name : String} {d : Char} (h : d ∈ (snakeCase name).toList) :
    d = '_' ∨ ∃ c ∈ name.toList, d = c ∨ d ∈ lowercase c := by
  rw [snakeCase, String.toList_ofList] at h
  exact mem_snakeCaseAfter h

/-- Snake case brings no mark into a name that stands in front of the small letters, but `_`. -/
theorem notMem_snakeCase {name : String} {c : Char} (hname : c ∉ name.toList) (hne : c ≠ '_')
    (hcode : c.toNat ≤ 0x60) : c ∉ (snakeCase name).toList := by
  intro hmem
  rcases mem_snakeCase hmem with heq | ⟨d, hd, rfl | hlower⟩
  · exact hne heq
  · exact hname hd
  · rcases lt_toNat_of_mem_lowercase hlower with rfl | hbeyond
    · exact hname hd
    · omega

/-- Snake case brings no white space into a name. -/
theorem isWhiteSpace_eq_false_of_mem_snakeCase {name : String}
    (hname : ∀ c ∈ name.toList, isWhiteSpace c = false) {d : Char}
    (h : d ∈ (snakeCase name).toList) : isWhiteSpace d = false := by
  rw [Bool.eq_false_iff]
  intro hd
  have hsame : ∃ c ∈ name.toList, d = c := by
    rcases mem_snakeCase h with rfl | ⟨c, hc, hsame | hlower⟩
    · exact absurd hd (by decide)
    · exact ⟨c, hc, hsame⟩
    · exact ⟨c, hc, eq_of_isWhiteSpace_of_mem_lowercase hlower hd⟩
  obtain ⟨c, hc, rfl⟩ := hsame
  rw [hname d hc] at hd
  cases hd

/-- Only the empty name has an empty snake case. -/
theorem snakeCase_ne_empty {name : String} (h : name.toList ≠ []) :
    (snakeCase name).toList ≠ [] := by
  obtain ⟨c, rest, hname⟩ := List.exists_cons_of_ne_nil h
  rw [snakeCase, String.toList_ofList, hname, snakeCaseAfter]
  split
  · -- The lower case form of a character is not empty.
    unfold lowercase
    split <;> simp
  · simp

end Text

end StructSchema
