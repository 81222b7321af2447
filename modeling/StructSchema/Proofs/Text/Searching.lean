import StructSchema.Text.Cursor

/-!
# Exact searches

A search steps over the character after the place, whatever it is, and stops at the first index
behind it that has the target. If there is none, it stops at the end of the text and says so. All it
depends on are the characters at these indices, and each of them is an index of the text.

## Key results

- `Cursor.atPosition_position`: a cursor is given by its text and its position
- `Cursor.indexFrom?_of_least`, `Cursor.indexFrom?_of_forall_ne`: where a search by index stops
- `Cursor.seek_atPosition`, `Cursor.seekPast_atPosition`: the searches stop where that one does
- `Cursor.search_exact`: what the searches give for every text, position and target
-/

namespace StructSchema.Text.Cursor

/-! ## Positions -/

/-- The cursor of a text at a position. -/
def atPosition (text : List Char) (n : Nat) : Cursor := ⟨(text.take n).reverse, text.drop n⟩

@[simp] theorem unread_atPosition (text : List Char) (n : Nat) :
    (atPosition text n).unread = text.drop n :=
  rfl

theorem position_atPosition {text : List Char} {n : Nat} (h : n ≤ text.length) :
    (atPosition text n).position = n := by
  simp [position, atPosition, h]

/-- A cursor is given by its text and its position. -/
theorem atPosition_position (c : Cursor) : atPosition c.text c.position = c := by
  obtain ⟨passed, unread⟩ := c
  simp [atPosition, Cursor.text, position]

/-- Moving ahead adds to the position. -/
theorem advance_atPosition (text : List Char) (n m : Nat) :
    (atPosition text n).advance m = atPosition text (n + m) := by
  simp only [atPosition, advance, List.drop_drop, List.take_add, List.reverse_append]

/-! ## Searching by index -/

/-- A search that reads a text by index: from `i` on, it goes to the first index that has the
    target, or to the end of the text. A read that no index of the text answers makes the search
    fail. -/
def indexFrom? (text : List Char) (target : Char) (i : Nat) : Option Nat :=
  if _h : i < text.length then
    text[i]?.bind fun c => if c = target then some i else indexFrom? text target (i + 1)
  else some i
termination_by text.length - i

variable {text : List Char} {target : Char} {i k pos stop : Nat}

theorem indexFrom?_of_lt (h : i < text.length) : indexFrom? text target i =
    if text[i] = target then some i else indexFrom? text target (i + 1) := by
  rw [indexFrom?, dif_pos h, List.getElem?_eq_getElem h, Option.bind_some]

theorem indexFrom?_of_ge (h : text.length ≤ i) : indexFrom? text target i = some i := by
  rw [indexFrom?, dif_neg (Nat.not_lt.2 h)]

/-- The search by index reads no index outside of the text, and stops as many characters ahead as
    differ from the target. -/
theorem indexFrom?_eq_some (h : i ≤ text.length) : indexFrom? text target i =
    some (i + ((text.drop i).takeWhile (· != target)).length) := by
  induction i using indexFrom?.induct text with
  | case1 i hi ih =>
    rw [indexFrom?_of_lt hi, List.drop_eq_getElem_cons hi]
    split
    · next heq => simp [heq]
    · next hne =>
      rw [ih hi, List.takeWhile_cons_of_pos (by simpa using hne), List.length_cons,
        Nat.add_right_comm, Nat.add_assoc]
  | case2 i hi =>
    have hend : text.length ≤ i := Nat.not_lt.1 hi
    rw [indexFrom?_of_ge hend, List.drop_eq_nil_of_le hend]
    rfl

/-- The search by index goes on over indices that do not have the target. -/
theorem indexFrom?_eq_of_forall_ne (hik : i ≤ k) (hk : k ≤ text.length)
    (hne : ∀ j, i ≤ j → j < k → text[j]? ≠ some target) :
    indexFrom? text target i = indexFrom? text target k := by
  induction hik with
  | refl => rfl
  | @step k hik ih =>
    have hother : text[k] ≠ target := by
      have hread := hne k hik (Nat.lt_succ_self k)
      rwa [List.getElem?_eq_getElem hk, ne_eq, Option.some.injEq] at hread
    rw [ih (Nat.le_of_succ_le hk) fun j hij hjk => hne j hij (Nat.lt_succ_of_lt hjk),
      indexFrom?_of_lt hk, if_neg hother]

/-- The search by index stops at the least index that has the target. -/
theorem indexFrom?_of_least (hk : text[k]? = some target) (hik : i ≤ k)
    (hleast : ∀ j, i ≤ j → j < k → text[j]? ≠ some target) :
    indexFrom? text target i = some k := by
  obtain ⟨hlt, hget⟩ := List.getElem?_eq_some_iff.1 hk
  rw [indexFrom?_eq_of_forall_ne hik (Nat.le_of_lt hlt) hleast, indexFrom?_of_lt hlt, if_pos hget]

/-- Without the target, the search by index stops at the end of the text. -/
theorem indexFrom?_of_forall_ne (h : i ≤ text.length)
    (hnone : ∀ j, i ≤ j → text[j]? ≠ some target) :
    indexFrom? text target i = some text.length := by
  rw [indexFrom?_eq_of_forall_ne h (Nat.le_refl _) fun j hij _ => hnone j hij,
    indexFrom?_of_ge (Nat.le_refl _)]

/-- No search by index goes beyond the end of the text. -/
theorem le_length_of_indexFrom? (h : i ≤ text.length)
    (hstop : indexFrom? text target i = some stop) : stop ≤ text.length := by
  rw [indexFrom?_eq_some h, Option.some.injEq] at hstop
  have hrun := (List.takeWhile_prefix (l := text.drop i) (· != target)).length_le
  rw [List.length_drop] at hrun
  omega

/-- No search by index goes back. -/
theorem le_of_indexFrom? (h : i ≤ text.length)
    (hstop : indexFrom? text target i = some stop) : i ≤ stop := by
  rw [indexFrom?_eq_some h, Option.some.injEq] at hstop
  omega

/-- A search by index always stops. -/
theorem exists_indexFrom? (target : Char) (h : i ≤ text.length) :
    ∃ stop, indexFrom? text target i = some stop ∧ stop ≤ text.length :=
  have hstop : indexFrom? text target i = some _ := indexFrom?_eq_some h
  ⟨_, hstop, le_length_of_indexFrom? h hstop⟩

/-- The search by index depends on the characters from its start on only. -/
theorem indexFrom?_congr {other : List Char} (hlength : other.length = text.length)
    (hagree : ∀ j, i ≤ j → other[j]? = text[j]?) :
    indexFrom? other target i = indexFrom? text target i := by
  induction i using indexFrom?.induct text with
  | case1 i hi ih =>
    have hi' : i < other.length := hlength ▸ hi
    have hsame : other[i] = text[i] := by
      have hread := hagree i (Nat.le_refl i)
      rwa [List.getElem?_eq_getElem hi, List.getElem?_eq_getElem hi', Option.some.injEq] at hread
    rw [indexFrom?_of_lt hi, indexFrom?_of_lt hi', hsame]
    split
    · rfl
    · exact ih fun j hij => hagree j (Nat.le_of_succ_le hij)
  | case2 i hi =>
    have hend : text.length ≤ i := Nat.not_lt.1 hi
    rw [indexFrom?_of_ge hend, indexFrom?_of_ge (hlength ▸ hend)]

/-! ## Searching with a cursor -/

/-- At the end of a text there is nothing to search. -/
theorem seek_atPosition_length (text : List Char) (target : Char) :
    (atPosition text text.length).seek target =
      (.error .endOfInput, atPosition text text.length) := by
  simp [seek]

theorem seekPast_atPosition_length (text : List Char) (target : Char) :
    (atPosition text text.length).seekPast target =
      (.error .endOfInput, atPosition text text.length) := by
  rw [seekPast, seek_atPosition_length]

/-- A search stops where the search by index does that starts behind the next character. -/
theorem seek_atPosition (hpos : pos < text.length)
    (hstop : indexFrom? text target (pos + 1) = some stop) :
    (atPosition text pos).seek target =
      (if stop < text.length then .ok () else .error (.missingDelimiter target),
        atPosition text stop) := by
  have hbehind : pos + 1 ≤ text.length := by omega
  rw [indexFrom?_eq_some hbehind, Option.some.injEq] at hstop
  have hfound : (atPosition text pos).advance
      (1 + ((text.drop (pos + 1)).takeWhile (· != target)).length) = atPosition text stop := by
    rw [advance_atPosition, ← hstop, Nat.add_assoc]
  rw [seek, unread_atPosition, List.drop_eq_getElem_cons hpos]
  simp only [hfound, unread_atPosition, List.isEmpty_iff, List.drop_eq_nil_iff]
  by_cases hlt : stop < text.length
  · rw [if_pos hlt, if_neg (Nat.not_le.2 hlt)]
  · rw [if_neg hlt, if_pos (Nat.not_lt.1 hlt)]

/-- The search that goes past the target stops one index later, if it finds it. -/
theorem seekPast_atPosition (hpos : pos < text.length)
    (hstop : indexFrom? text target (pos + 1) = some stop) :
    (atPosition text pos).seekPast target =
      if stop < text.length then (.ok (), atPosition text (stop + 1))
      else (.error (.missingDelimiter target), atPosition text stop) := by
  rw [seekPast, seek_atPosition hpos hstop]
  by_cases hlt : stop < text.length
  · simp only [if_pos hlt, advance_atPosition]
  · simp only [if_neg hlt]

/-- What the searches give at a position of a text. At the end they report it and stay. Without the
    target behind the next character, they report this at the end of the text. With it, the one
    stops behind the first and the other in front of it. The next character itself is never matched:
    only those behind it matter. A search by index that starts behind the next character goes the
    same way, and none of its reads is outside of the text. -/
theorem search_exact (text : List Char) (target : Char) {pos : Nat} (hpos : pos ≤ text.length) :
    (pos = text.length →
      (atPosition text pos).seekPast target = (.error .endOfInput, atPosition text pos) ∧
      (atPosition text pos).seek target = (.error .endOfInput, atPosition text pos)) ∧
    (pos < text.length → (∀ k, pos < k → text[k]? ≠ some target) →
      (atPosition text pos).seekPast target =
        (.error (.missingDelimiter target), atPosition text text.length) ∧
      (atPosition text pos).seek target =
        (.error (.missingDelimiter target), atPosition text text.length)) ∧
    (∀ k, pos < k → text[k]? = some target →
      (∀ i, pos < i → i < k → text[i]? ≠ some target) →
      (atPosition text pos).seekPast target = (.ok (), atPosition text (k + 1)) ∧
      (atPosition text pos).seek target = (.ok (), atPosition text k)) ∧
    (∀ other : List Char, other.length = text.length → (∀ i, pos < i → other[i]? = text[i]?) →
      (((atPosition other pos).seekPast target).1 = ((atPosition text pos).seekPast target).1 ∧
        ((atPosition other pos).seekPast target).2.position =
          ((atPosition text pos).seekPast target).2.position) ∧
      ((atPosition other pos).seek target).1 = ((atPosition text pos).seek target).1 ∧
        ((atPosition other pos).seek target).2.position =
          ((atPosition text pos).seek target).2.position) ∧
    (pos < text.length → indexFrom? text target (pos + 1) =
      some ((atPosition text pos).seek target).2.position) := by
  refine ⟨?exhausted, ?missing, ?found, ?behind, ?inside⟩
  case exhausted =>
    rintro rfl
    exact ⟨seekPast_atPosition_length text target, seek_atPosition_length text target⟩
  case missing =>
    intro hlt hnone
    have hstop : indexFrom? text target (pos + 1) = some text.length :=
      indexFrom?_of_forall_ne hlt hnone
    rw [seekPast_atPosition hlt hstop, seek_atPosition hlt hstop, if_neg (Nat.lt_irrefl _),
      if_neg (Nat.lt_irrefl _)]
    exact ⟨rfl, rfl⟩
  case found =>
    intro k hk htarget hleast
    obtain ⟨hinside, -⟩ := List.getElem?_eq_some_iff.1 htarget
    have hlt : pos < text.length := by omega
    have hstop : indexFrom? text target (pos + 1) = some k :=
      indexFrom?_of_least htarget hk hleast
    rw [seekPast_atPosition hlt hstop, seek_atPosition hlt hstop, if_pos hinside, if_pos hinside]
    exact ⟨rfl, rfl⟩
  case behind =>
    intro other hlength hagree
    rcases Nat.eq_or_lt_of_le hpos with rfl | hlt
    · rw [seekPast_atPosition_length, seek_atPosition_length, ← hlength,
        seekPast_atPosition_length, seek_atPosition_length]
      simp [position_atPosition, hlength]
    · -- Both searches by index stop at the same index, and so do the cursors.
      have hother : pos < other.length := by omega
      have hsame : indexFrom? other target (pos + 1) = indexFrom? text target (pos + 1) :=
        indexFrom?_congr hlength hagree
      have hbehind : pos + 1 ≤ text.length := hlt
      have hstop : indexFrom? text target (pos + 1) = some _ := indexFrom?_eq_some hbehind
      rw [seekPast_atPosition hother (hsame.trans hstop), seekPast_atPosition hlt hstop,
        seek_atPosition hother (hsame.trans hstop), seek_atPosition hlt hstop, hlength]
      refine ⟨?_, rfl, ?_⟩
      · split <;> simp [position, atPosition, hlength]
      · simp [position, atPosition, hlength]
  case inside =>
    intro hlt
    have hbehind : pos + 1 ≤ text.length := hlt
    have hstop : indexFrom? text target (pos + 1) = some _ := indexFrom?_eq_some hbehind
    rw [seek_atPosition hlt hstop, position_atPosition (le_length_of_indexFrom? hbehind hstop),
      hstop]

/-- The target stands under the cursor, directly behind it, and once more. -/
theorem search_exact_repeated :
    1 ≤ "a\n\nb\n".toList.length ∧
    (atPosition "a\n\nb\n".toList 1).seekPast '\n' =
      (.ok (), atPosition "a\n\nb\n".toList 3) ∧
    (atPosition "a\n\nb\n".toList 1).seek '\n' = (.ok (), atPosition "a\n\nb\n".toList 2) := by
  have hpos : 1 ≤ "a\n\nb\n".toList.length := by decide
  obtain ⟨-, -, hfound, -, -⟩ := search_exact "a\n\nb\n".toList '\n' hpos
  exact ⟨hpos, hfound 2 (by decide) (by decide) (by omega)⟩

end StructSchema.Text.Cursor
