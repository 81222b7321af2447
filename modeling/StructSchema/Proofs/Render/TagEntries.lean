import StructSchema.Proofs.Text.Trimming
import StructSchema.StructTag
import StructSchema.Token.Lexeme.Grammar

/-!
# Entries of a tag

The search for the entries of a tag goes from left to right and passes over what is no entry. An
entry that is written in front of any text is therefore its first entry, and white space around a
tag does not change what is found in it.

## Key results

- `StructTag.entries_entryText_append`: an entry in front of any text is found, before all others
- `StructTag.entries_trim`: trimming a tag leaves its entries
- `StructTag.value?_trim`: hence it leaves the values of its keys
-/

namespace StructSchema

open StructSchema.Unicode StructSchema.Text

/-- A key of tag entries: ASCII letters, digits and `_`, of which no digit comes first. -/
def IsTagKey (key : String) : Prop :=
  key.toList.head?.any StructTag.isKeyStart = true ∧ ∀ c ∈ key.toList, StructTag.isKeyChar c = true

instance (key : String) : Decidable (IsTagKey key) :=
  decidable_of_iff
    (key.toList.head?.any StructTag.isKeyStart = true ∧ key.toList.all StructTag.isKeyChar = true)
    (and_congr_right fun _ => List.all_eq_true)

namespace StructTag

/-! ## Characters -/

theorem isKeyChar_of_isKeyStart {c : Char} (h : isKeyStart c = true) : isKeyChar c = true := by
  rcases Bool.or_eq_true_iff.1 h with halpha | hunderscore
  · have halphanum : c.isAlphanum = true := Bool.or_eq_true_iff.2 (.inl halpha)
    exact Bool.or_eq_true_iff.2 (.inl halphanum)
  · exact Bool.or_eq_true_iff.2 (.inr hunderscore)

/-- Keys are made of characters from the digits to the small letters of ASCII. -/
theorem toNat_bounds_of_isKeyChar {c : Char} (h : isKeyChar c = true) :
    0x30 ≤ c.toNat ∧ c.toNat ≤ 0x7A := by
  rcases Bool.or_eq_true_iff.1 h with halphanum | hunderscore
  · rcases Bool.or_eq_true_iff.1 halphanum with halpha | hdigit
    · rcases Bool.or_eq_true_iff.1 halpha with hupper | hlower
      · have hbounds : 0x41 ≤ c.toNat ∧ c.toNat ≤ 0x5A := of_decide_eq_true hupper
        omega
      · obtain ⟨low, high⟩ := Bool.and_eq_true_iff.1 hlower
        have hbounds : 0x61 ≤ c.toNat ∧ c.toNat ≤ 0x7A :=
          ⟨of_decide_eq_true low, of_decide_eq_true high⟩
        omega
    · obtain ⟨low, high⟩ := Bool.and_eq_true_iff.1 hdigit
      have hbounds : 0x30 ≤ c.toNat ∧ c.toNat ≤ 0x39 :=
        ⟨of_decide_eq_true low, of_decide_eq_true high⟩
      omega
  · obtain rfl := eq_of_beq hunderscore
    decide

/-- No key has white space in it. -/
theorem isKeyChar_eq_false_of_isWhiteSpace {c : Char} (h : isWhiteSpace c = true) :
    isKeyChar c = false := by
  have outside : (decide (0x30 ≤ c.toNat) && decide (c.toNat ≤ 0x7A)) = false :=
    CodeRange.eq_false_of_covers (p := fun n => decide (0x30 ≤ n) && decide (n ≤ 0x7A))
      whiteSpaceRanges_ordered (by decide) h
  rw [Bool.eq_false_iff]
  intro hkey
  have inside := toNat_bounds_of_isKeyChar hkey
  simp [inside] at outside

theorem isKeyStart_eq_false_of_isWhiteSpace {c : Char} (h : isWhiteSpace c = true) :
    isKeyStart c = false := by
  rw [Bool.eq_false_iff]
  intro hstart
  have hkey := isKeyChar_of_isKeyStart hstart
  rw [isKeyChar_eq_false_of_isWhiteSpace h] at hkey
  cases hkey

/-! ## An entry in front -/

/-- A key starts as keys do, and goes on up to a colon behind it. -/
theorem exists_scan_of_isTagKey {key : String} (h : IsTagKey key) (rest : List Char) :
    ∃ c cs, key.toList = c :: cs ∧ isKeyStart c = true ∧
      (cs ++ ':' :: rest).takeWhile isKeyChar = cs ∧
      (cs ++ ':' :: rest).dropWhile isKeyChar = ':' :: rest := by
  obtain ⟨hstart, hchars⟩ := h
  cases hkey : key.toList with
  | nil => simp [hkey] at hstart
  | cons c cs =>
    rw [hkey] at hstart hchars
    have goesOn : ∀ d ∈ cs, isKeyChar d = true := (List.forall_mem_cons.1 hchars).2
    have ends : ∀ d, (':' :: rest).head? = some d → isKeyChar d = false := by
      intro d hd
      rw [← Option.some.inj hd]
      decide
    exact ⟨c, cs, rfl, by simpa using hstart, Lexeme.takeWhile_dropWhile_append goesOn ends⟩

/-- A value is what stands behind a colon between two quotes. -/
theorem readValue?_eq_some_iff {cs value rest : List Char} :
    readValue? cs = some (value, rest) ↔
      '"' ∉ value ∧ cs = ':' :: '"' :: (value ++ '"' :: rest) := by
  constructor
  · intro h
    unfold readValue? at h
    split at h
    · next body =>
      have whole := List.takeWhile_append_dropWhile (p := (· != '"')) (l := body)
      split at h
      · cases h
      · next quote after hdrop =>
        obtain ⟨rfl, rfl⟩ := Prod.mk.inj (Option.some.inj h)
        have hhead : (body.dropWhile (· != '"')).head? = some quote := by rw [hdrop]; rfl
        have hquote := Lexeme.head?_dropWhile_eq_false (p := (· != '"')) hhead
        refine ⟨fun hmem => ?_, ?_⟩
        · simpa using List.all_eq_true.1 List.all_takeWhile _ hmem
        · -- The value ends at the first quote, where the scan stops.
          rw [hdrop, show quote = '"' by simpa using hquote] at whole
          rw [whole]
    · cases h
  · intro h
    obtain ⟨hvalue, rfl⟩ := h
    have inside : ∀ c ∈ value, (c != '"') = true := fun c hc => by
      simpa using fun e : c = '"' => hvalue (e ▸ hc)
    have outside : ∀ c, ('"' :: rest).head? = some c → (c != '"') = false := by simp
    obtain ⟨taken, dropped⟩ := Lexeme.takeWhile_dropWhile_append inside outside
    rw [readValue?, dropped, taken]

/-- An entry in front of any text is the first of its entries. -/
theorem entries_entryText_append {key value : String} (hkey : IsTagKey key)
    (hvalue : '"' ∉ value.toList) (rest : List Char) :
    entries ((entryText key value).toList ++ rest) =
      (key.toList, value.toList) :: entries rest := by
  have hspelling : (entryText key value).toList ++ rest =
      key.toList ++ ':' :: '"' :: (value.toList ++ '"' :: rest) := by
    simp [entryText]
  obtain ⟨c, cs, hchars, hstart, taken, dropped⟩ :=
    exists_scan_of_isTagKey hkey ('"' :: (value.toList ++ '"' :: rest))
  have hread : readValue? (':' :: '"' :: (value.toList ++ '"' :: rest)) =
      some (value.toList, rest) := readValue?_eq_some_iff.2 ⟨hvalue, rfl⟩
  rw [hspelling, hchars, List.cons_append, entries_of_readValue? hstart (dropped ▸ hread), taken]

/-! ## White space around a tag -/

/-- What starts with no character of a key belongs to no key in front of it. -/
theorem takeWhile_dropWhile_append_of_head? (front : List Char) {back : List Char}
    (hback : ∀ c, back.head? = some c → isKeyChar c = false) :
    (front ++ back).takeWhile isKeyChar = front.takeWhile isKeyChar ∧
      (front ++ back).dropWhile isKeyChar = front.dropWhile isKeyChar ++ back := by
  have goesOn : ∀ c ∈ front.takeWhile isKeyChar, isKeyChar c = true :=
    List.all_eq_true.1 List.all_takeWhile
  have ends : ∀ c, (front.dropWhile isKeyChar ++ back).head? = some c → isKeyChar c = false := by
    intro c hc
    rw [List.head?_append, Option.or_eq_some_iff] at hc
    rcases hc with hc | ⟨-, hc⟩
    · exact Lexeme.head?_dropWhile_eq_false hc
    · exact hback c hc
  have both := Lexeme.takeWhile_dropWhile_append goesOn ends
  rwa [← List.append_assoc, List.takeWhile_append_dropWhile] at both

/-- A run that ends in a character of the first part only lies in the first part. -/
theorem exists_eq_append_of_notMem {front back run rest : List Char} {c : Char}
    (h : front ++ back = run ++ [c] ++ rest) (hc : c ∉ back) :
    ∃ more, front = run ++ [c] ++ more := by
  rcases List.append_eq_append_iff.1 h with ⟨more, hrun, rfl⟩ | ⟨more, hfront, -⟩
  · rcases List.eq_nil_or_concat more with rfl | ⟨more, d, rfl⟩
    · exact ⟨[], by simpa using hrun.symm⟩
    · rw [List.concat_eq_append, ← List.append_assoc] at hrun
      obtain ⟨-, hlast⟩ := List.append_inj' hrun rfl
      obtain rfl := (List.cons.inj hlast).1
      simp at hc
  · exact ⟨more, hfront⟩

section

variable {blanks : List Char} (hblanks : ∀ c ∈ blanks, isWhiteSpace c = true)

include hblanks

/-- White space in front of a tag is passed over. -/
theorem entries_blanks_append (cs : List Char) : entries (blanks ++ cs) = entries cs := by
  induction blanks with
  | nil => rfl
  | cons c blanks ih =>
    obtain ⟨hc, hblanks⟩ := List.forall_mem_cons.1 hblanks
    have hstart := isKeyStart_eq_false_of_isWhiteSpace hc
    rw [List.cons_append, entries_of_not_isKeyStart hstart, ih hblanks]

/-- White space behind a tag belongs to no key. -/
theorem takeWhile_dropWhile_append_blanks (cs : List Char) :
    (cs ++ blanks).takeWhile isKeyChar = cs.takeWhile isKeyChar ∧
      (cs ++ blanks).dropWhile isKeyChar = cs.dropWhile isKeyChar ++ blanks :=
  takeWhile_dropWhile_append_of_head? cs fun c hc =>
    isKeyChar_eq_false_of_isWhiteSpace (hblanks c (List.mem_of_mem_head? hc))

/-- White space behind a tag closes no value. -/
theorem readValue?_append_blanks (cs : List Char) :
    readValue? (cs ++ blanks) =
      (readValue? cs).map fun read => (read.1, read.2 ++ blanks) := by
  cases h : readValue? cs with
  | some read =>
    obtain ⟨value, rest⟩ := read
    obtain ⟨hvalue, rfl⟩ := readValue?_eq_some_iff.1 h
    exact readValue?_eq_some_iff.2 ⟨hvalue, by simp⟩
  | none =>
    rw [Option.map_none, Option.eq_none_iff_forall_ne_some]
    intro read hread
    obtain ⟨value, rest⟩ := read
    obtain ⟨hvalue, hcut⟩ := readValue?_eq_some_iff.1 hread
    have hcut : cs ++ blanks = (':' :: '"' :: value) ++ ['"'] ++ rest := by simpa using hcut
    -- The closing quote is no white space, so that the text has the whole value in it.
    have hquote : '"' ∉ blanks := fun hmem => absurd (hblanks '"' hmem) (by decide)
    obtain ⟨more, hcs⟩ := exists_eq_append_of_notMem hcut hquote
    have hfound : readValue? cs = some (value, more) :=
      readValue?_eq_some_iff.2 ⟨hvalue, by simpa using hcs⟩
    rw [h] at hfound
    cases hfound

/-- White space behind a tag adds no entry. -/
theorem entries_append_blanks (cs : List Char) : entries (cs ++ blanks) = entries cs := by
  induction cs using entries.induct with
  | case1 =>
    have hnone := entries_blanks_append hblanks []
    rwa [List.append_nil] at hnone
  | case2 c cs hstart value rest hvalue ih =>
    obtain ⟨taken, dropped⟩ := takeWhile_dropWhile_append_blanks hblanks cs
    have hread := readValue?_append_blanks hblanks (cs.dropWhile isKeyChar)
    rw [hvalue, ← dropped] at hread
    rw [List.cons_append, entries_of_readValue? hstart hread, entries_of_readValue? hstart hvalue,
      taken, ih]
  | case3 c cs hstart hvalue ih =>
    obtain ⟨-, dropped⟩ := takeWhile_dropWhile_append_blanks hblanks cs
    have hread := readValue?_append_blanks hblanks (cs.dropWhile isKeyChar)
    rw [hvalue, ← dropped] at hread
    rw [List.cons_append, entries_of_readValue?_eq_none hstart hread,
      entries_of_readValue?_eq_none hstart hvalue, dropped, ih]
  | case4 c cs hstart ih =>
    have hstart : isKeyStart c = false := by simpa using hstart
    rw [List.cons_append, entries_of_not_isKeyStart hstart, entries_of_not_isKeyStart hstart, ih]

end

/-- Trimming a tag leaves its entries. -/
theorem entries_trim (cs : List Char) : entries (trim cs) = entries cs := by
  obtain ⟨front, back, whole, hfront, hback⟩ := exists_append_trim cs
  calc entries (trim cs)
    _ = entries (front ++ (trim cs ++ back)) := by
      rw [entries_blanks_append hfront, entries_append_blanks hback]
    _ = entries cs := by rw [← List.append_assoc, ← whole]

/-- Trimming a tag leaves the values of its keys. -/
theorem value?_trim (tag key : String) :
    value? (String.ofList (trim tag.toList)) key = value? tag key := by
  rw [value?, String.toList_ofList, entries_trim]
  rfl

end StructTag

end StructSchema
