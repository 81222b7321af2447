/-!
# Lines

A text of lines, each ended by a line break. Such a text is cut into its lines in one way only, as
any text is cut at the first separator.

## Key results

- `append_separator_inj`: a text is cut at its first separator in one way
- `unlines_injective`: a text of lines determines them
-/

namespace StructSchema.Text

/-- A text is cut at its first separator in one way. -/
theorem append_separator_inj {α : Type} {separator : α} {front front' back back' : List α}
    (hfront : separator ∉ front) (hfront' : separator ∉ front') :
    front ++ separator :: back = front' ++ separator :: back' ↔ front = front' ∧ back = back' := by
  constructor
  · intro h
    induction front generalizing front' with
    | nil =>
      cases front' with
      | nil => exact ⟨rfl, (List.cons.inj h).2⟩
      | cons c rest =>
        obtain ⟨rfl, -⟩ := List.cons.inj h
        exact absurd List.mem_cons_self hfront'
    | cons c rest ih =>
      cases front' with
      | nil =>
        obtain ⟨rfl, -⟩ := List.cons.inj h
        exact absurd List.mem_cons_self hfront
      | cons c' rest' =>
        obtain ⟨rfl, hrest⟩ := List.cons.inj h
        obtain ⟨rfl, hback⟩ := ih (fun hmem => hfront (List.mem_cons_of_mem c hmem))
          (fun hmem => hfront' (List.mem_cons_of_mem c hmem)) hrest
        exact ⟨rfl, hback⟩
  · rintro ⟨rfl, rfl⟩
    rfl

/-- Lines, each with the line break that ends it. -/
def unlines (lines : List String) : String := String.join (lines.map fun line => line ++ "\n")

theorem toList_unlines (lines : List String) :
    (unlines lines).toList = lines.flatMap fun line => line.toList ++ ['\n'] := by
  rw [unlines, String.toList_join, List.flatMap_map]
  simp only [String.toList_append]
  rfl

theorem unlines_append (front back : List String) :
    unlines (front ++ back) = unlines front ++ unlines back := by
  apply String.toList_inj.1
  simp [toList_unlines]

theorem unlines_cons (line : String) (lines : List String) :
    unlines (line :: lines) = line ++ "\n" ++ unlines lines := by
  apply String.toList_inj.1
  simp [toList_unlines]

/-- A text of lines determines them. -/
theorem unlines_injective {lines lines' : List String}
    (hlines : ∀ line ∈ lines, '\n' ∉ line.toList) (hlines' : ∀ line ∈ lines', '\n' ∉ line.toList)
    (h : unlines lines = unlines lines') : lines = lines' := by
  replace h := congrArg String.toList h
  rw [toList_unlines, toList_unlines] at h
  induction lines generalizing lines' with
  | nil =>
    cases lines' with
    | nil => rfl
    | cons line' rest' => simp at h
  | cons line rest ih =>
    cases lines' with
    | nil => simp at h
    | cons line' rest' =>
      obtain ⟨hline, hrest⟩ := List.forall_mem_cons.1 hlines
      obtain ⟨hline', hrest'⟩ := List.forall_mem_cons.1 hlines'
      rw [List.flatMap_cons, List.flatMap_cons, List.append_assoc, List.append_assoc,
        List.singleton_append, List.singleton_append] at h
      -- Both texts have their first line break where their first line ends.
      obtain ⟨hsame, hlater⟩ := (append_separator_inj hline hline').1 h
      rw [String.toList_inj.1 hsame, ih hrest hrest' hlater]

end StructSchema.Text
