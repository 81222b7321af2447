import Mathlib.Data.List.Basic
import StructSchema.Proofs.Json.Grammar

/-!
# Printed JSON values

The layout of a value over several lines is a text of this value, whatever stands in its strings.

## Key results

- `Json.readsString_quoted`: a text in quotes is read as it was
- `Json.reads_pretty`: a value is read off its layout, at any level
- `Json.isTextOf_pretty_append_iff`: and no other value is
- `Json.isTextOf_quoted_iff`: a text in quotes says this text and nothing else
-/

namespace StructSchema.Json

open StructSchema.Text

/-! ## Strings -/

theorem hexDigit?_digitChar {n : Nat} (h : n < 16) : hexDigit? (Nat.digitChar n) = some n := by
  have hall : ∀ k ∈ List.range 16, hexDigit? (Nat.digitChar k) = some k := by decide
  exact hall n (List.mem_range.2 h)

/-- Between quotes a character is escaped by a sign, escaped by its code unit, or as it is. -/
theorem quotedChar_cases (c : Char) :
    (∃ sign, quotedChar c = ['\\', sign] ∧ escaped? sign = some c) ∨
      (c.toNat < 0x20 ∧ quotedChar c =
        ['\\', 'u', '0', '0', Nat.digitChar (c.toNat / 16), Nat.digitChar (c.toNat % 16)]) ∨
      c ≠ '"' ∧ c ≠ '\\' ∧ 0x20 ≤ c.toNat ∧ quotedChar c = [c] := by
  by_cases hsign : c ∈ ['"', '\\', '\x08', '\x0c', '\n', '\r', '\t']
  · left
    simp only [List.mem_cons, List.not_mem_nil, or_false] at hsign
    rcases hsign with rfl | rfl | rfl | rfl | rfl | rfl | rfl <;> exact ⟨_, rfl, rfl⟩
  · right
    simp only [List.mem_cons, List.not_mem_nil, or_false, not_or] at hsign
    obtain ⟨hquote, hbackslash, hb, hf, hn, hr, ht⟩ := hsign
    simp only [quotedChar, hquote, hbackslash, hb, hf, hn, hr, ht, if_false]
    by_cases hcontrol : c.toNat < 0x20
    · exact .inl ⟨hcontrol, if_pos hcontrol⟩
    · exact .inr ⟨hquote, hbackslash, by omega, if_neg hcontrol⟩

/-- A character between quotes is read as it was. -/
theorem ReadsString.quotedChar {c : Char} {cs input rest : List Char}
    (h : ReadsString cs input rest) : ReadsString (c :: cs) (quotedChar c ++ input) rest := by
  rcases quotedChar_cases c with
    ⟨sign, hquoted, hsign⟩ | ⟨hcontrol, hquoted⟩ | ⟨hquote, hbackslash, hplain, hquoted⟩
  · rw [hquoted]
    exact .escape hsign h
  · have hzero : hexDigit? '0' = some 0 := by decide
    have hhigh := hexDigit?_digitChar (show c.toNat / 16 < 16 by omega)
    have hlow := hexDigit?_digitChar (show c.toNat % 16 < 16 by omega)
    have hunit : codeUnit? ('0' :: '0' :: Nat.digitChar (c.toNat / 16) ::
        Nat.digitChar (c.toNat % 16) :: input) = some (c.toNat, input) := by
      have hcode : c.toNat / 16 * 16 + c.toNat % 16 = c.toNat := by omega
      simp [codeUnit?, hzero, hhigh, hlow, hcode]
    rw [hquoted]
    exact .unit hunit h
  · rw [hquoted]
    exact .plain hquote hbackslash hplain h

/-- A text in quotes is read as it was. -/
theorem readsString_quoted (cs rest : List Char) :
    ReadsString cs (cs.flatMap quotedChar ++ '"' :: rest) rest := by
  induction cs with
  | nil => exact .close
  | cons c cs ih =>
    rw [List.flatMap_cons, List.append_assoc]
    exact ih.quotedChar

theorem toList_quoted_append (text : String) (rest : List Char) :
    (quoted text).toList ++ rest = '"' :: (text.toList.flatMap quotedChar ++ '"' :: rest) := by
  simp [quoted, quotedChars]

/-! ## Lists -/

theorem isGap_of_mem_lineBreak (level : Nat) : ∀ c ∈ (lineBreak level).toList, isGap c = true := by
  intro c hc
  rw [lineBreak, String.toList_ofList, List.mem_cons, List.mem_replicate] at hc
  rcases hc with rfl | ⟨-, rfl⟩ <;> decide

section

variable {α : Type} {reads : α → List Char → List Char → Prop} {text : α → String}

/-- Things behind white space, with commas between them, are read as a list. -/
theorem readsList_intercalate {closing : Char} {item : α} {items : List α}
    {opening ending : List Char} (hopening : ∀ c ∈ opening, isGap c = true)
    (hending : ∀ c ∈ ending, isGap c = true)
    (hreads : ∀ item' ∈ item :: items, ∀ rest, reads item' ((text item').toList ++ rest) rest)
    (rest : List Char) :
    ReadsList reads closing (item :: items)
      (opening ++ (',' :: opening).intercalate (((item :: items).map text).map String.toList) ++
        ending ++ closing :: rest) rest := by
  induction items generalizing item with
  | nil =>
    have hitem := hreads item (by simp) (ending ++ closing :: rest)
    refine .last ⟨opening, hopening, ?_⟩ hitem ⟨ending, hending, rfl⟩
    simp
  | cons next items ih =>
    obtain ⟨hitem, hitems⟩ := List.forall_mem_cons.1 hreads
    refine .more ⟨opening, hopening, ?_⟩ (hitem _) (.refl _) (ih hitems)
    simp [List.intercalate_cons_cons]

/-- What is put between brackets over several lines is read as a list. -/
theorem exists_readsList_enclose {closing : Char} (opening closed : String)
    (hclosed : closed.toList = [closing]) {items : List α} (hne : items ≠ []) (level : Nat)
    (hreads : ∀ item ∈ items, ∀ rest, reads item ((text item).toList ++ rest) rest)
    (rest : List Char) :
    ∃ input, (enclose level opening closed (items.map text)).toList ++ rest =
        opening.toList ++ input ∧
      ReadsList reads closing items input rest := by
  obtain ⟨item, items, rfl⟩ := List.exists_cons_of_ne_nil hne
  refine ⟨_, ?_, readsList_intercalate (isGap_of_mem_lineBreak (level + 1))
    (isGap_of_mem_lineBreak level) hreads rest⟩
  simp [enclose, String.toList_intercalate, hclosed]

end

theorem prettyItems_eq_map (level : Nat) (items : List Json) :
    prettyItems level items = items.map (pretty level) := by
  induction items with
  | nil => rfl
  | cons item items ih => rw [prettyItems, ih, List.map_cons]

/-- How a member is laid out. -/
def prettyMember (level : Nat) (member : String × Json) : String :=
  quoted member.1 ++ ": " ++ pretty level member.2

theorem prettyMembers_eq_map (level : Nat) (members : List (String × Json)) :
    prettyMembers level members = members.map (prettyMember level) := by
  induction members with
  | nil => rfl
  | cons member members ih => rw [prettyMembers, ih, List.map_cons, prettyMember]

/-- A member is read off its layout if its value is. -/
theorem readsMember_prettyMember {member : String × Json} {level : Nat}
    (h : ∀ rest, Reads member.2 ((pretty level member.2).toList ++ rest) rest) (rest : List Char) :
    ReadsMember Reads member ((prettyMember level member).toList ++ rest) rest := by
  have htext : (prettyMember level member).toList ++ rest =
      '"' :: (member.1.toList.flatMap quotedChar ++
        '"' :: ':' :: ' ' :: ((pretty level member.2).toList ++ rest)) := by
    simp [prettyMember, quoted, quotedChars]
  rw [htext]
  exact .mk (readsString_quoted _ _) (.refl _) ⟨[' '], by simp [isGap], rfl⟩ (h rest)

/-- A value is read off its layout. -/
theorem reads_pretty (value : Json) (level : Nat) (rest : List Char) :
    Reads value ((pretty level value).toList ++ rest) rest := by
  induction value using Json.induction generalizing level rest with
  | null =>
    rw [pretty]
    exact .null
  | bool value =>
    cases value with
    | true =>
      rw [pretty]
      exact .yes
    | false =>
      rw [pretty]
      exact .no
  | string value =>
    rw [pretty, toList_quoted_append]
    exact .string (readsString_quoted _ _)
  | array items ih =>
    rw [pretty, prettyItems_eq_map]
    -- The empty array is laid out without line breaks.
    cases items with
    | nil =>
      have htext : (enclose level "[" "]" []).toList ++ rest = '[' :: ']' :: rest := by
        simp [enclose]
      rw [List.map_nil, htext]
      exact .noItems (.refl _)
    | cons item items =>
      have hitems := fun item hitem => ih item hitem (level + 1)
      obtain ⟨input, hinput, hlist⟩ :=
        exists_readsList_enclose "[" "]" rfl (by simp) level hitems rest
      rw [hinput]
      exact .items hlist
  | object members ih =>
    rw [pretty, prettyMembers_eq_map]
    cases members with
    | nil =>
      have htext : (enclose level "\x7b" "\x7d" []).toList ++ rest = '\x7b' :: '\x7d' :: rest := by
        simp [enclose]
      rw [List.map_nil, htext]
      exact .noMembers (.refl _)
    | cons member members =>
      have hmembers := fun member hmember =>
        readsMember_prettyMember (ih member hmember (level + 1))
      obtain ⟨input, hinput, hlist⟩ :=
        exists_readsList_enclose "\x7b" "\x7d" rfl (by simp) level hmembers rest
      rw [hinput]
      exact .members hlist

/-- A layout, and any white space behind it, is the text of its value and of no other. -/
theorem isTextOf_pretty_append_iff {value value' : Json} {level : Nat} {blanks : String}
    (hblanks : ∀ c ∈ blanks.toList, isGap c = true) :
    IsTextOf (pretty level value ++ blanks) value' ↔ value' = value := by
  have hreads := reads_pretty value level blanks.toList
  rw [← String.toList_append] at hreads
  have hvalue : IsTextOf (pretty level value ++ blanks) value :=
    ⟨_, _, .refl _, hreads, blanks.toList, hblanks, (List.append_nil _).symm⟩
  constructor
  · intro h
    exact h.unique hvalue
  · rintro rfl
    exact hvalue

/-- A text in quotes is the JSON text of the string, and of no other value. -/
theorem isTextOf_quoted_iff {text : String} {value : Json} :
    IsTextOf (quoted text) value ↔ value = .string text := by
  have hlayout : pretty 0 (.string text) ++ "" = quoted text := by rw [pretty, String.append_empty]
  rw [← hlayout]
  exact isTextOf_pretty_append_iff (by simp)

end StructSchema.Json
