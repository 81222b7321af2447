/-!
# Byte offsets

Where the characters of a text stand among its bytes. A text can be cut at a byte only where one of
its characters starts or at its end, and the offsets of its characters are such places.

## Key results

- `getElem?_byteOffsets`: the offset of a character is the size of what stands in front of it
- `fromByte?_eq_some_iff`: where a text can be cut, and what stands behind the cut
- `fromIndex?_eq`: going through the byte offset of a character leads to that character
-/

namespace StructSchema.Text

/-- The byte offsets of the characters of a text, the first of which has the offset `byte`. -/
def byteOffsets (byte : Nat) : List Char → List Nat
  | [] => []
  | c :: cs => byte :: byteOffsets (byte + c.utf8Size) cs

/-- What stands in a text from a byte on, if a character starts there or the text ends there. -/
def fromByte? (text : String) (byte : Nat) : Option String :=
  if h : String.Pos.Raw.IsValid text ⟨byte⟩ then
    some (text.sliceFrom (text.pos ⟨byte⟩ h)).copy
  else none

/-- What stands in a text from the character with an index on, which is found by its byte offset. An
    index beyond the last character stands for the end of the text. -/
def fromIndex? (text : String) (i : Nat) : Option String :=
  fromByte? text ((byteOffsets 0 text.toList)[i]?.getD text.utf8ByteSize)

theorem length_byteOffsets (byte : Nat) (cs : List Char) :
    (byteOffsets byte cs).length = cs.length := by
  induction cs generalizing byte with
  | nil => rfl
  | cons c cs ih => simp [byteOffsets, ih]

/-- The offset of a character is the size of what stands in front of it. -/
theorem getElem?_byteOffsets (byte : Nat) {cs : List Char} {i : Nat} (hi : i < cs.length) :
    (byteOffsets byte cs)[i]? = some (byte + (String.ofList (cs.take i)).utf8ByteSize) := by
  induction cs generalizing byte i with
  | nil => simp at hi
  | cons c cs ih =>
    cases i with
    | zero => simp [byteOffsets]
    | succ i =>
      have hi : i < cs.length := by simpa using hi
      have hsize : (String.ofList (c :: cs.take i)).utf8ByteSize =
          c.utf8Size + (String.ofList (cs.take i)).utf8ByteSize := by
        simp [String.ofList_cons]
      rw [byteOffsets, List.getElem?_cons_succ, ih _ hi, List.take_succ_cons, hsize]
      congr 1
      omega

/-- What stands behind a byte is what remains when as many bytes are taken off in front. Inside of a
    character there is no such cut. -/
theorem fromByte?_eq_some_iff {text rest : String} {byte : Nat} :
    fromByte? text byte = some rest ↔
      ∃ front, text = front ++ rest ∧ front.utf8ByteSize = byte := by
  unfold fromByte?
  constructor
  · intro h
    split at h
    · next hvalid =>
      have hsplits := (text.pos ⟨byte⟩ hvalid).splits
      rw [Option.some.inj h] at hsplits
      have hsize := congrArg String.Pos.Raw.byteIdx hsplits.offset_eq_rawEndPos
      exact ⟨_, hsplits.eq_append, hsize.symm⟩
    · cases h
  · rintro ⟨front, rfl, rfl⟩
    have hvalid : String.Pos.Raw.IsValid (front ++ rest) ⟨front.utf8ByteSize⟩ :=
      String.Pos.Raw.isValid_iff_exists_append.2 ⟨front, rest, rfl, rfl⟩
    have hsplits : (String.pos (front ++ rest) ⟨front.utf8ByteSize⟩ hvalid).Splits front rest :=
      ⟨rfl, rfl⟩
    rw [dif_pos hvalid, hsplits.copy_sliceFrom_eq]

/-- Going through the byte offset of a character leads to that character, and beyond the last one to
    the end of the text. -/
theorem fromIndex?_eq (text : String) (i : Nat) :
    fromIndex? text i = some (String.ofList (text.toList.drop i)) := by
  refine fromByte?_eq_some_iff.2 ⟨String.ofList (text.toList.take i), ?_, ?_⟩
  · rw [← String.ofList_append, List.take_append_drop, String.ofList_toList]
  · by_cases hi : i < text.toList.length
    · simp [getElem?_byteOffsets 0 hi]
    · have hend : text.toList.length ≤ i := by omega
      rw [List.getElem?_eq_none (by rwa [length_byteOffsets]), List.take_of_length_le hend,
        String.ofList_toList]
      rfl

/-- Of the bytes of a character only the first is a place to cut at. -/
example : (List.range 5).map (fromByte? "本é") =
    [some "本é", none, none, some "é", none] := by
  decide +kernel

end StructSchema.Text
