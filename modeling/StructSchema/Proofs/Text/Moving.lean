import StructSchema.Proofs.Text.ByteOffsets
import StructSchema.Proofs.Text.Searching

/-!
# Moving through a text

Whatever calls are made to a cursor, in any order, and whether they fail or not: its place stays in
the text and never goes back, and a call that reads or finds something goes ahead. The place can as
well be kept as an index of the text, and every call then has an answer: no read is outside of the
text, no step leads back behind its start, and what stands behind the place can be found both by
index and by byte offset.

## Key results

- `Cursor.Call.runIndex?_position`: a call to a cursor is the call to its index
- `Cursor.Call.bounds_of_runIndex?`: where a call may lead
- `Cursor.text_after`, `Cursor.indexAfter?_position`: what a run of calls keeps
- `Cursor.calls_move_ahead`: all of this for any text and any calls
-/

namespace StructSchema.Text.Cursor

/-! ## Calls -/

/-- A call that may move a cursor. -/
inductive Call where
  | next
  | advance (n : Nat)
  | seekPast (target : Char)
  | seek (target : Char)
deriving DecidableEq, Repr

/-- Makes a call: the character that it reads, if it reads one, or why it fails, and the cursor
    behind it. -/
def Call.run (c : Cursor) : Call → Except Error (Option Char) × Cursor
  | .next => (c.next.1.map some, c.next.2)
  | .advance n => (.ok none, c.advance n)
  | .seekPast target => ((c.seekPast target).1.map fun _ => none, (c.seekPast target).2)
  | .seek target => ((c.seek target).1.map fun _ => none, (c.seek target).2)

/-- The cursor behind some calls. -/
def after (c : Cursor) (calls : List Call) : Cursor :=
  calls.foldl (fun c call => (call.run c).2) c

@[simp] theorem text_run (c : Cursor) (call : Call) : (call.run c).2.text = c.text := by
  cases call <;> simp [Call.run]

/-- Calls leave the text as it is. -/
@[simp] theorem text_after (c : Cursor) (calls : List Call) : (after c calls).text = c.text := by
  induction calls generalizing c with
  | nil => rfl
  | cons call calls ih =>
    show (after (call.run c).2 calls).text = c.text
    rw [ih, text_run]

/-! ## Calls by index -/

/-- Steps over the character at an index, and goes past the next `target` behind it. -/
def seekPastIndex? (text : List Char) (target : Char) (i : Nat) :
    Option (Except Error (Option Char) × Nat) :=
  if i < text.length then
    (indexFrom? text target (i + 1)).map fun stop =>
      if stop < text.length then (.ok none, stop + 1)
      else (.error (.missingDelimiter target), stop)
  else some (.error .endOfInput, i)

/-- Makes a call to an index of a text: the character that it reads, if it reads one, or why it
    fails, and the index behind it. A search that stops at the target goes past it and one step
    back. There is no answer to a call that reads outside of the text, or that steps back from the
    first index. -/
def Call.runIndex? (text : List Char) (i : Nat) :
    Call → Option (Except Error (Option Char) × Nat)
  | .next =>
    if _h : i < text.length then some (.ok (some text[i]), i + 1) else some (.error .endOfInput, i)
  | .advance n => some (.ok none, min (i + n) text.length)
  | .seekPast target => seekPastIndex? text target i
  | .seek target => (seekPastIndex? text target i).bind fun
    | (.ok c?, stop + 1) => some (.ok c?, stop)
    | (.ok _, 0) => none
    | (.error e, stop) => some (.error e, stop)

/-- The index behind some calls. -/
def indexAfter? (text : List Char) (i : Nat) (calls : List Call) : Option Nat :=
  calls.foldlM (fun i call => (call.runIndex? text i).map Prod.snd) i

variable {text : List Char} {target : Char} {i stop : Nat} {answer : Except Error (Option Char)}

/-- The search that goes past its target leads at least two indices ahead, if it finds it. -/
theorem bounds_of_seekPastIndex? (hi : i ≤ text.length)
    (h : seekPastIndex? text target i = some (answer, stop)) :
    i ≤ stop ∧ stop ≤ text.length ∧ ∀ c?, answer = .ok c? → i + 1 < stop := by
  unfold seekPastIndex? at h
  split at h
  · next hlt =>
    obtain ⟨found, hfound, heq⟩ := Option.map_eq_some_iff.1 h
    have hle : i + 1 ≤ found := le_of_indexFrom? hlt hfound
    have hend : found ≤ text.length := le_length_of_indexFrom? hlt hfound
    split at heq
    · next hinside =>
      obtain ⟨rfl, rfl⟩ := Prod.mk.inj heq
      exact ⟨by omega, hinside, fun _ _ => by omega⟩
    · obtain ⟨rfl, rfl⟩ := Prod.mk.inj heq
      exact ⟨by omega, hend, nofun⟩
  · obtain ⟨rfl, rfl⟩ := Prod.mk.inj (Option.some.inj h)
    exact ⟨Nat.le_refl i, hi, nofun⟩

/-- No call leads back or beyond the end of the text. A call that reads or finds something leads
    ahead. -/
theorem Call.bounds_of_runIndex? (hi : i ≤ text.length) {call : Call}
    (h : call.runIndex? text i = some (answer, stop)) :
    i ≤ stop ∧ stop ≤ text.length ∧
      ((∀ n, call ≠ .advance n) → ∀ c?, answer = .ok c? → i < stop) := by
  cases call with
  | next =>
    rw [Call.runIndex?] at h
    split at h
    · next hlt =>
      obtain ⟨rfl, rfl⟩ := Prod.mk.inj (Option.some.inj h)
      exact ⟨by omega, hlt, fun _ _ _ => by omega⟩
    · obtain ⟨rfl, rfl⟩ := Prod.mk.inj (Option.some.inj h)
      exact ⟨Nat.le_refl i, hi, fun _ => nofun⟩
  | advance n =>
    obtain ⟨rfl, rfl⟩ := Prod.mk.inj (Option.some.inj h)
    exact ⟨by omega, by omega, fun hne => absurd rfl (hne n)⟩
  | seekPast target =>
    obtain ⟨hle, hend, hahead⟩ := bounds_of_seekPastIndex? hi h
    refine ⟨hle, hend, fun _ c? hc => ?_⟩
    have := hahead c? hc
    omega
  | seek target =>
    obtain ⟨⟨found, past⟩, hfound, heq⟩ := Option.bind_eq_some_iff.1 h
    obtain ⟨hle, hend, hahead⟩ := bounds_of_seekPastIndex? hi hfound
    -- The step back keeps one of the two indices that a search goes ahead when it finds its target.
    cases found with
    | ok c? =>
      have hlt : i + 1 < past := hahead c? rfl
      obtain ⟨past, rfl⟩ : ∃ n, past = n + 1 := ⟨past - 1, by omega⟩
      obtain ⟨rfl, rfl⟩ := Prod.mk.inj (Option.some.inj heq)
      exact ⟨by omega, by omega, fun _ _ _ => by omega⟩
    | error e =>
      obtain ⟨rfl, rfl⟩ := Prod.mk.inj (Option.some.inj heq)
      exact ⟨hle, hend, fun _ => nofun⟩

/-! ## Cursors and their indices -/

theorem next_atPosition (hi : i < text.length) :
    (atPosition text i).next = (.ok text[i], atPosition text (i + 1)) := by
  have hpassed : text[i] :: (text.take i).reverse = (text.take (i + 1)).reverse := by
    rw [List.take_succ_eq_append_getElem hi, List.reverse_append]
    rfl
  rw [next, unread_atPosition, List.drop_eq_getElem_cons hi]
  show (Except.ok text[i], Cursor.mk (text[i] :: (text.take i).reverse) (text.drop (i + 1))) = _
  rw [hpassed]
  rfl

theorem next_atPosition_length (text : List Char) :
    (atPosition text text.length).next = (.error .endOfInput, atPosition text text.length) := by
  rw [next, unread_atPosition, List.drop_length]

theorem seekPastIndex?_of_lt (hi : i < text.length)
    (hstop : indexFrom? text target (i + 1) = some stop) :
    seekPastIndex? text target i =
      some (if stop < text.length then (.ok none, stop + 1)
        else (.error (.missingDelimiter target), stop)) := by
  rw [seekPastIndex?, if_pos hi, hstop]
  rfl

theorem seekPastIndex?_length (text : List Char) (target : Char) :
    seekPastIndex? text target text.length = some (.error .endOfInput, text.length) := by
  rw [seekPastIndex?, if_neg (Nat.lt_irrefl _)]

/-- The cursor that goes past its target leads to the index that the search by index leads to. -/
theorem seekPastIndex?_eq (target : Char) (hi : i ≤ text.length) :
    seekPastIndex? text target i =
      some (((atPosition text i).seekPast target).1.map fun _ => none,
        ((atPosition text i).seekPast target).2.position) := by
  rcases Nat.eq_or_lt_of_le hi with rfl | hlt
  · rw [seekPastIndex?_length, seekPast_atPosition_length, position_atPosition (Nat.le_refl _)]
    rfl
  · obtain ⟨stop, hstop, hle⟩ := exists_indexFrom? target hlt
    rw [seekPastIndex?_of_lt hlt hstop, seekPast_atPosition hlt hstop]
    split
    · next hinside =>
      rw [position_atPosition hinside]
      rfl
    · rw [position_atPosition hle]
      rfl

theorem Call.runIndex?_atPosition (hi : i ≤ text.length) (call : Call) :
    call.runIndex? text i =
      some ((call.run (atPosition text i)).1, (call.run (atPosition text i)).2.position) := by
  have hend : (atPosition text text.length).position = text.length :=
    position_atPosition (Nat.le_refl _)
  cases call with
  | next =>
    rw [Call.runIndex?, Call.run]
    rcases Nat.eq_or_lt_of_le hi with rfl | hlt
    · rw [dif_neg (Nat.lt_irrefl _), next_atPosition_length, hend]
      rfl
    · rw [dif_pos hlt, next_atPosition hlt, position_atPosition hlt]
      rfl
  | advance n =>
    rw [Call.runIndex?, Call.run, advance_atPosition]
    simp [position, atPosition]
  | seekPast target => exact seekPastIndex?_eq target hi
  | seek target =>
    -- The step back leads from behind the target to the target.
    rw [Call.runIndex?, Call.run]
    rcases Nat.eq_or_lt_of_le hi with rfl | hlt
    · rw [seekPastIndex?_length, seek_atPosition_length, hend]
      rfl
    · obtain ⟨stop, hstop, hle⟩ := exists_indexFrom? target hlt
      rw [seekPastIndex?_of_lt hlt hstop, seek_atPosition hlt hstop, position_atPosition hle]
      split <;> rfl

/-- The place of a cursor is in its text. -/
theorem position_le_length (c : Cursor) : c.position ≤ c.text.length := by
  simp [position, Cursor.text]

/-- A call to a cursor gives back what the call to its index gives back, and leads to the index that
    this one leads to. -/
theorem Call.runIndex?_position (c : Cursor) (call : Call) :
    call.runIndex? c.text c.position = some ((call.run c).1, (call.run c).2.position) := by
  rw [Call.runIndex?_atPosition c.position_le_length, atPosition_position]

/-- Calls to a cursor lead to the index that the calls to its index lead to. -/
theorem indexAfter?_position (c : Cursor) (calls : List Call) :
    indexAfter? c.text c.position calls = some (after c calls).position := by
  induction calls generalizing c with
  | nil => rfl
  | cons call calls ih =>
    have hnext := ih (call.run c).2
    rw [text_run] at hnext
    rw [indexAfter?, List.foldlM_cons, Call.runIndex?_position]
    exact hnext

/-! ## What stands around the place -/

theorem drop_position_text (c : Cursor) : c.text.drop c.position = c.rest := by
  simp [rest, position, Cursor.text]

theorem slice_position_length (c : Cursor) : c.slice c.position c.text.length = c.rest := by
  rw [slice, List.take_length, drop_position_text]

theorem slice_zero_position_append_rest (c : Cursor) :
    c.slice 0 c.position ++ c.rest = c.text := by
  simp [slice, rest, position, Cursor.text]

/-- What stands behind the place can be found by its byte offset. -/
theorem fromIndex?_position {text : String} {c : Cursor} (h : c.text = text.toList) :
    fromIndex? text c.position = some (String.ofList c.rest) := by
  rw [fromIndex?_eq, ← h, drop_position_text]

/-! ## Any text and any calls -/

/-- Where any calls to a cursor of any text lead, failing calls included. The place stays in the
    text, and is the index that the same calls lead to from the first one on. The next call does not
    lead back, leads ahead if it reads or finds something, and gives back what it gives back at the
    index, where no read is outside of the text. What stands behind the place is the same by index
    and by byte offset, and together with what stands in front of it is the text. -/
theorem calls_move_ahead (text : String) (calls : List Call) :
    let c := after (ofText text) calls
    (c.text = text.toList ∧ c.position ≤ text.toList.length ∧
      indexAfter? text.toList 0 calls = some c.position) ∧
    (∀ call : Call, c.position ≤ (call.run c).2.position ∧
      ((∀ n, call ≠ .advance n) → ∀ c?, (call.run c).1 = .ok c? →
        c.position < (call.run c).2.position) ∧
      call.runIndex? text.toList c.position =
        some ((call.run c).1, (call.run c).2.position)) ∧
    c.rest = c.slice c.position text.toList.length ∧
    fromIndex? text c.position = some (String.ofList c.rest) ∧
    String.ofList (c.slice 0 c.position) ++ String.ofList c.rest = text := by
  intro c
  have htext : c.text = text.toList := text_after (ofText text) calls
  have hindex : indexAfter? text.toList 0 calls = some c.position :=
    indexAfter?_position (ofText text) calls
  have hend : c.position ≤ text.toList.length := htext ▸ c.position_le_length
  refine ⟨⟨htext, hend, hindex⟩, fun call => ?_, ?_, fromIndex?_position htext, ?_⟩
  · have hrun := htext ▸ call.runIndex?_position c
    obtain ⟨hle, -, hahead⟩ := Call.bounds_of_runIndex? hend hrun
    exact ⟨hle, hahead, hrun⟩
  · rw [← htext, slice_position_length]
  · rw [← String.ofList_append, slice_zero_position_append_rest, htext, String.ofList_toList]

end StructSchema.Text.Cursor
