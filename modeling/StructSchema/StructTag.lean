/-!
# Struct tags

A struct tag holds entries such as `json:"name,omitempty" yaml:"name"`: a key of ASCII letters,
digits and `_` that starts with no digit, a colon, and a value in double quotes. Whatever stands
between entries is passed over, so that a tag need not be well formed to be searched.

## Key results

- `StructTag.entries_of_readValue?`: an entry at the front of a tag is the first of its entries
- `StructTag.entries_of_readValue?_eq_none`, `StructTag.entries_of_not_isKeyStart`: what is passed
  over
-/

namespace StructSchema.StructTag

/-- A character that a key may start with. -/
def isKeyStart (c : Char) : Bool := c.isAlpha || c == '_'

/-- A character that a key may go on with. -/
def isKeyChar (c : Char) : Bool := c.isAlphanum || c == '_'

/-- Reads what follows a key: a colon and a value in quotes. -/
def readValue? : List Char → Option (List Char × List Char)
  | ':' :: '"' :: cs =>
    match cs.dropWhile (· != '"') with
    | [] => none
    | _ :: rest => some (cs.takeWhile (· != '"'), rest)
  | _ => none

theorem length_dropWhile_le (p : Char → Bool) (cs : List Char) :
    (cs.dropWhile p).length ≤ cs.length :=
  (List.dropWhile_suffix p).length_le

/-- The value of an entry leaves a shorter text. -/
theorem length_lt_of_readValue? {cs value rest : List Char}
    (h : readValue? cs = some (value, rest)) : rest.length < cs.length := by
  unfold readValue? at h
  split at h
  · next body =>
    have bound := length_dropWhile_le (· != '"') body
    split at h
    · cases h
    · next hdrop =>
      obtain ⟨-, rfl⟩ := Prod.mk.inj (Option.some.inj h)
      simp only [hdrop, List.length_cons] at bound ⊢
      omega
  · cases h

/-- The entries of a tag from left to right, none overlapping another: keys with their values. -/
def entries : List Char → List (List Char × List Char)
  | [] => []
  | c :: cs =>
    if isKeyStart c then
      match _h : readValue? (cs.dropWhile isKeyChar) with
      | some (value, rest) => (c :: cs.takeWhile isKeyChar, value) :: entries rest
      | none => entries (cs.dropWhile isKeyChar)
    else entries cs
termination_by cs => cs.length
decreasing_by
  -- after an entry, after a key without a value, after a character that starts no key
  · have := length_lt_of_readValue? _h
    have := length_dropWhile_le isKeyChar cs
    simp only [List.length_cons]
    omega
  · have := length_dropWhile_le isKeyChar cs
    simp only [List.length_cons]
    omega
  · simp

/-- A character that no key starts with is passed over. -/
theorem entries_of_not_isKeyStart {c : Char} {cs : List Char} (h : isKeyStart c = false) :
    entries (c :: cs) = entries cs := by
  rw [entries]
  simp [h]

/-- A key without a value behind it is passed over as a whole. -/
theorem entries_of_readValue?_eq_none {c : Char} {cs : List Char} (h : isKeyStart c = true)
    (hvalue : readValue? (cs.dropWhile isKeyChar) = none) :
    entries (c :: cs) = entries (cs.dropWhile isKeyChar) := by
  rw [entries, if_pos h]
  split
  · next hsome => rw [hvalue] at hsome; cases hsome
  · rfl

/-- A key with a value behind it is an entry. -/
theorem entries_of_readValue? {c : Char} {cs value rest : List Char} (h : isKeyStart c = true)
    (hvalue : readValue? (cs.dropWhile isKeyChar) = some (value, rest)) :
    entries (c :: cs) = (c :: cs.takeWhile isKeyChar, value) :: entries rest := by
  rw [entries, if_pos h]
  split
  · next hsome => rw [hvalue] at hsome; cases hsome; rfl
  · next hnone => rw [hvalue] at hnone; cases hnone

/-- How an entry is written. -/
def entryText (key value : String) : String := key ++ ":\"" ++ value ++ "\""

/-- The value of the first entry that has the key. -/
def value? (tag key : String) : Option String :=
  ((entries tag.toList).lookup key.toList).map String.ofList

end StructSchema.StructTag
