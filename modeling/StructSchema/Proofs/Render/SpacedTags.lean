import StructSchema.Proofs.Render.TagEntries

/-!
# Tags of spaced entries

Entries may be written with any white space in front of them, between them and behind them, or with
none. The search finds each of them where it is written and nothing inside of a value, so that a key
has the value of its first entry.

## Key results

- `StructTag.entries_spacedText`: the entries that are found are those that are written
- `StructTag.value?_spacedText`: a key has the value of the first entry that has it
-/

namespace StructSchema.StructTag

open StructSchema.Unicode

/-- An entry as it is written in a tag: some white space, a key, and a value without quotes. -/
structure SpacedEntry where
  gap : String
  key : String
  value : String
  gap_blank : ∀ c ∈ gap.toList, isWhiteSpace c = true
  key_isTagKey : IsTagKey key
  quote_notMem_value : '"' ∉ value.toList

/-- A tag of entries, some text behind them. -/
def spacedText (written : List SpacedEntry) (back : String) : String :=
  String.join (written.map fun e => e.gap ++ entryText e.key e.value) ++ back

theorem toList_spacedText_cons (e : SpacedEntry) (written : List SpacedEntry) (back : String) :
    (spacedText (e :: written) back).toList =
      e.gap.toList ++ ((entryText e.key e.value).toList ++ (spacedText written back).toList) := by
  simp [spacedText]

section

variable {back : String} (hback : ∀ c ∈ back.toList, isWhiteSpace c = true)

include hback

/-- With white space behind them, the entries that are found are those that are written. -/
theorem entries_spacedText (written : List SpacedEntry) :
    entries (spacedText written back).toList =
      written.map fun e => (e.key.toList, e.value.toList) := by
  induction written with
  | nil =>
    have hnone : entries [] = [] := by rw [entries]
    have htext : (spacedText [] back).toList = back.toList := by simp [spacedText]
    have hblank := entries_blanks_append hback []
    rw [htext, List.map_nil, ← hnone, ← hblank, List.append_nil]
  | cons e written ih =>
    -- The search passes over the white space, finds the entry and goes on behind its last quote.
    rw [toList_spacedText_cons, entries_blanks_append e.gap_blank,
      entries_entryText_append e.key_isTagKey e.quote_notMem_value, ih, List.map_cons]

/-- A key has the value of the first entry with it, if there is one. -/
theorem value?_spacedText_eq_find? (written : List SpacedEntry) (key : String) :
    value? (spacedText written back) key = (written.find? (·.key = key)).map (·.value) := by
  rw [value?, entries_spacedText hback]
  induction written with
  | nil => rfl
  | cons e written ih =>
    rw [List.map_cons, List.lookup_cons]
    by_cases hkey : e.key = key
    · simp [hkey]
    · have hne : (key.toList == e.key.toList) = false := by
        simpa [String.toList_inj] using Ne.symm hkey
      rw [hne, List.find?_cons_of_neg (by simpa using hkey)]
      exact ih

/-- A key has the value of the entry at the least index that has it, and none if no entry has it. -/
theorem value?_spacedText (written : List SpacedEntry) (key : String) :
    (∀ (i : Nat) (e : SpacedEntry), written[i]? = some e → e.key = key →
      (∀ (j : Nat) (e' : SpacedEntry), j < i → written[j]? = some e' → e'.key ≠ key) →
      value? (spacedText written back) key = some e.value) ∧
    ((∀ e ∈ written, e.key ≠ key) → value? (spacedText written back) key = none) := by
  rw [value?_spacedText_eq_find? hback]
  constructor
  · intro i e hi hkey hfirst
    obtain ⟨hlt, hget⟩ := List.getElem?_eq_some_iff.1 hi
    have hfound : written.find? (·.key = key) = some e := by
      rw [List.find?_eq_some_iff_getElem]
      refine ⟨by simpa using hkey, i, hlt, hget, fun j hj => ?_⟩
      have hother := hfirst j _ hj (List.getElem?_eq_getElem (Nat.lt_trans hj hlt))
      simpa using hother
    rw [hfound, Option.map_some]
  · intro hnone
    have hmissing : written.find? (·.key = key) = none := by
      simpa [List.find?_eq_none] using hnone
    rw [hmissing, Option.map_none]

end

/-- The key stands in an earlier value, and has two entries without white space between them. -/
theorem value?_spacedText_repeated :
    (∀ c ∈ "\n".toList, isWhiteSpace c = true) ∧
    value? " db:\"json: x\"\tjson:\"a,b\nc\"json:\"d\"\n" "json" = some "a,b\nc" := by
  have hback : ∀ c ∈ "\n".toList, isWhiteSpace c = true := List.all_eq_true.1 (by decide +kernel)
  have hlegal : IsTagKey "db" ∧ IsTagKey "json" := by decide +kernel
  obtain ⟨hfirst, -⟩ := value?_spacedText hback
    [⟨" ", "db", "json: x", List.all_eq_true.1 (by decide +kernel), hlegal.1, by decide +kernel⟩,
      ⟨"\t", "json", "a,b\nc", List.all_eq_true.1 (by decide +kernel), hlegal.2, by decide +kernel⟩,
      ⟨"", "json", "d", List.all_eq_true.1 (by decide +kernel), hlegal.2, by decide +kernel⟩] "json"
  refine ⟨hback, hfirst 1 _ rfl rfl fun j e' hj he' => ?_⟩
  obtain rfl : j = 0 := by omega
  rw [← Option.some.inj he']
  show "db" ≠ "json"
  decide

end StructSchema.StructTag
