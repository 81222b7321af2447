import StructSchema.Json

/-!
# The grammar of JSON texts

What JSON texts say: literals, strings with their escapes, arrays, objects, and the white space that
may stand between these parts. A value is read off the front of a text and leaves what follows it.
Numbers are left out, as no value holds one.

## Key results

- `Json.ReadsString.unique`, `Json.unambiguous_reads`: a text is read in one way, and up to one
  place
- `Json.IsTextOf.unique`: no text is the text of two values
-/

namespace StructSchema.Json

/-! ## The grammar -/

/-- White space that means nothing: the blank, the tabulator and the line ends. -/
def isGap (c : Char) : Bool := c == ' ' || c == '\t' || c == '\n' || c == '\r'

/-- Any amount of white space, perhaps none, stands in front of `rest`. -/
def Gap (input rest : List Char) : Prop :=
  ∃ blanks, (∀ c ∈ blanks, isGap c = true) ∧ input = blanks ++ rest

/-- The character that is meant by another one behind a backslash. -/
def escaped? : Char → Option Char
  | '"' => some '"'
  | '\\' => some '\\'
  | '/' => some '/'
  | 'b' => some '\x08'
  | 'f' => some '\x0c'
  | 'n' => some '\n'
  | 'r' => some '\r'
  | 't' => some '\t'
  | _ => none

/-- The value of a hexadecimal digit, small or capital. -/
def hexDigit? (c : Char) : Option Nat :=
  if '0' ≤ c ∧ c ≤ '9' then some (c.toNat - 0x30)
  else if 'a' ≤ c ∧ c ≤ 'f' then some (c.toNat - 0x61 + 10)
  else if 'A' ≤ c ∧ c ≤ 'F' then some (c.toNat - 0x41 + 10)
  else none

/-- Reads a code unit of four hexadecimal digits. -/
def codeUnit? : List Char → Option (Nat × List Char)
  | a :: b :: c :: d :: rest => do
    let a ← hexDigit? a
    let b ← hexDigit? b
    let c ← hexDigit? c
    let d ← hexDigit? d
    return (((a * 16 + b) * 16 + c) * 16 + d, rest)
  | _ => none

/-- The characters of a string are read, behind its opening quote, up to and with its closing one. A
    character stands for itself or is escaped, by a sign, by its code unit or by its two
    surrogates. -/
inductive ReadsString : List Char → List Char → List Char → Prop
  | close {rest} : ReadsString [] ('"' :: rest) rest
  | plain {c cs input rest} : c ≠ '"' → c ≠ '\\' → 0x20 ≤ c.toNat →
      ReadsString cs input rest → ReadsString (c :: cs) (c :: input) rest
  | escape {sign c cs input rest} : escaped? sign = some c →
      ReadsString cs input rest → ReadsString (c :: cs) ('\\' :: sign :: input) rest
  | unit {c : Char} {cs input after rest} : codeUnit? input = some (c.toNat, after) →
      ReadsString cs after rest → ReadsString (c :: cs) ('\\' :: 'u' :: input) rest
  | surrogates {c : Char} {high low cs input second after rest} :
      codeUnit? input = some (high, '\\' :: 'u' :: second) → codeUnit? second = some (low, after) →
      0xD800 ≤ high ∧ high ≤ 0xDBFF → 0xDC00 ≤ low ∧ low ≤ 0xDFFF →
      c.toNat = 0x10000 + (high - 0xD800) * 0x400 + (low - 0xDC00) →
      ReadsString cs after rest → ReadsString (c :: cs) ('\\' :: 'u' :: input) rest

/-- One or more things are read, with commas between them, up to and with the sign that closes their
    list. -/
inductive ReadsList {α : Type} (reads : α → List Char → List Char → Prop) (closing : Char) :
    List α → List Char → List Char → Prop
  | last {item input start stop rest} : Gap input start → reads item start stop →
      Gap stop (closing :: rest) → ReadsList reads closing [item] input rest
  | more {item items input start stop after rest} : Gap input start → reads item start stop →
      Gap stop (',' :: after) → ReadsList reads closing items after rest →
      ReadsList reads closing (item :: items) input rest

/-- A member of an object is read: its name, a colon and its value. -/
inductive ReadsMember (reads : Json → List Char → List Char → Prop) :
    String × Json → List Char → List Char → Prop
  | mk {name : String} {value input colon after start rest} :
      ReadsString name.toList input colon → Gap colon (':' :: after) → Gap after start →
      reads value start rest → ReadsMember reads (name, value) ('"' :: input) rest

/-- A value is read off the front of a text. -/
inductive Reads : Json → List Char → List Char → Prop
  | null {rest} : Reads .null ('n' :: 'u' :: 'l' :: 'l' :: rest) rest
  | yes {rest} : Reads (.bool true) ('t' :: 'r' :: 'u' :: 'e' :: rest) rest
  | no {rest} : Reads (.bool false) ('f' :: 'a' :: 'l' :: 's' :: 'e' :: rest) rest
  | string {value : String} {input rest} : ReadsString value.toList input rest →
      Reads (.string value) ('"' :: input) rest
  | noItems {input rest} : Gap input (']' :: rest) → Reads (.array []) ('[' :: input) rest
  | items {items input rest} : ReadsList Reads ']' items input rest →
      Reads (.array items) ('[' :: input) rest
  | noMembers {input rest} : Gap input ('\x7d' :: rest) →
      Reads (.object []) ('\x7b' :: input) rest
  | members {members input rest} : ReadsList (ReadsMember Reads) '\x7d' members input rest →
      Reads (.object members) ('\x7b' :: input) rest

/-- The text is that of a value, with white space around it. -/
def IsTextOf (text : String) (value : Json) : Prop :=
  ∃ start stop, Gap text.toList start ∧ Reads value start stop ∧ Gap stop []

/-! ## Reading in one way -/

/-- No white space has to be there. -/
theorem Gap.refl (input : List Char) : Gap input input := ⟨[], by simp, rfl⟩

/-- White space is passed over up to the place where there is no more of it. -/
theorem Gap.dropWhile_eq {input rest : List Char} (h : Gap input rest)
    (hrest : ∀ c, rest.head? = some c → isGap c = false) : input.dropWhile isGap = rest := by
  obtain ⟨blanks, hblanks, rfl⟩ := h
  rw [List.dropWhile_append_of_pos hblanks]
  cases rest with
  | nil => rfl
  | cons c rest => exact List.dropWhile_cons_of_neg (by simp [hrest c rfl])

/-- What follows white space is the same, however much of it is passed over first. -/
theorem Gap.unique {input rest rest' : List Char} (h : Gap input rest) (h' : Gap input rest')
    (hrest : ∀ c, rest.head? = some c → isGap c = false)
    (hrest' : ∀ c, rest'.head? = some c → isGap c = false) : rest = rest' := by
  rw [← h.dropWhile_eq hrest, ← h'.dropWhile_eq hrest']

theorem Gap.cons_unique {input rest rest' : List Char} {c c' : Char} (h : Gap input (c :: rest))
    (h' : Gap input (c' :: rest')) (hc : isGap c = false) (hc' : isGap c' = false) :
    c = c' ∧ rest = rest' := by
  have hsame := h.unique h' (by simp [hc]) (by simp [hc'])
  exact List.cons.inj hsame

/-- No character is the first of two surrogates. -/
theorem toNat_ne_of_surrogate (c : Char) {high : Nat} (h : 0xD800 ≤ high ∧ high ≤ 0xDBFF) :
    c.toNat ≠ high := by
  have hvalid : c.toNat < 0xD800 ∨ 0xDFFF < c.toNat ∧ c.toNat < 0x110000 := c.valid
  omega

/-- A string is read in one way. -/
theorem ReadsString.unique {cs cs' input rest rest' : List Char} (h : ReadsString cs input rest)
    (h' : ReadsString cs' input rest') : cs = cs' ∧ rest = rest' := by
  -- The first character tells the form, and for the two forms behind `\u` the code unit does.
  induction h generalizing cs' with
  | close =>
    cases h' with
    | close => exact ⟨rfl, rfl⟩
    | plain hquote => exact absurd rfl hquote
  | plain hquote hbackslash _ _ ih =>
    cases h' with
    | close => exact absurd rfl hquote
    | plain _ _ _ h' =>
      obtain ⟨rfl, rfl⟩ := ih h'
      exact ⟨rfl, rfl⟩
    | escape | unit | surrogates => exact absurd rfl hbackslash
  | escape hsign _ ih =>
    cases h' with
    | plain _ hbackslash => exact absurd rfl hbackslash
    | escape hsign' h' =>
      obtain ⟨rfl, rfl⟩ := ih h'
      rw [hsign] at hsign'
      cases hsign'
      exact ⟨rfl, rfl⟩
    | unit | surrogates => cases hsign
  | unit hunit _ ih =>
    cases h' with
    | plain _ hbackslash => exact absurd rfl hbackslash
    | escape hsign' => cases hsign'
    | unit hunit' h' =>
      rw [hunit] at hunit'
      simp only [Option.some.injEq, Prod.mk.injEq, Char.toNat_inj] at hunit'
      obtain ⟨rfl, rfl⟩ := hunit'
      obtain ⟨rfl, rfl⟩ := ih h'
      exact ⟨rfl, rfl⟩
    | surrogates hhigh _ hbounds =>
      rw [hunit] at hhigh
      simp only [Option.some.injEq, Prod.mk.injEq] at hhigh
      exact absurd hhigh.1 (toNat_ne_of_surrogate _ hbounds)
  | surrogates hhigh hlow hbounds _ hcode _ ih =>
    cases h' with
    | plain _ hbackslash => exact absurd rfl hbackslash
    | escape hsign' => cases hsign'
    | unit hunit' =>
      rw [hhigh] at hunit'
      simp only [Option.some.injEq, Prod.mk.injEq] at hunit'
      exact absurd hunit'.1.symm (toNat_ne_of_surrogate _ hbounds)
    | surrogates hhigh' hlow' _ _ hcode' h' =>
      rw [hhigh] at hhigh'
      simp only [Option.some.injEq, Prod.mk.injEq, List.cons.injEq, true_and] at hhigh'
      obtain ⟨rfl, rfl⟩ := hhigh'
      rw [hlow] at hlow'
      simp only [Option.some.injEq, Prod.mk.injEq] at hlow'
      obtain ⟨rfl, rfl⟩ := hlow'
      obtain rfl := Char.toNat_inj.1 (hcode.trans hcode'.symm)
      obtain ⟨rfl, rfl⟩ := ih h'
      exact ⟨rfl, rfl⟩

/-- Where the thing is read nothing else is, and it ends at one place. -/
def Unambiguous {α : Type} (reads : α → List Char → List Char → Prop) (item : α) : Prop :=
  ∀ ⦃item' input rest rest'⦄, reads item input rest → reads item' input rest' →
    item = item' ∧ rest = rest'

/-- Nothing that is read starts with white space. -/
def StartsTight {α : Type} (reads : α → List Char → List Char → Prop) : Prop :=
  ∀ ⦃item input rest⦄, reads item input rest → ∀ c, input.head? = some c → isGap c = false

section

variable {α : Type} {reads : α → List Char → List Char → Prop} (htight : StartsTight reads)

include htight

/-- White space in front of a thing does not make it ambiguous. -/
theorem Unambiguous.of_gap {item item' : α} {input start start' stop stop' : List Char}
    (hitem : Unambiguous reads item) (hgap : Gap input start) (h : reads item start stop)
    (hgap' : Gap input start') (h' : reads item' start' stop') : item = item' ∧ stop = stop' := by
  obtain rfl := hgap.unique hgap' (htight h) (htight h')
  exact hitem h h'

/-- A list of unambiguous things is unambiguous, if its closing sign is not taken for a comma. -/
theorem Unambiguous.readsList {closing : Char} (hclosing : isGap closing = false)
    (hne : closing ≠ ',') {items : List α} (hitems : ∀ item ∈ items, Unambiguous reads item) :
    Unambiguous (ReadsList reads closing) items := by
  have hcomma : isGap ',' = false := by decide
  intro items' input rest rest' h h'
  induction h generalizing items' with
  | last hgap hitem hend =>
    have hfirst := List.forall_mem_singleton.1 hitems
    cases h' with
    | last hgap' hitem' hend' =>
      obtain ⟨rfl, rfl⟩ := hfirst.of_gap htight hgap hitem hgap' hitem'
      obtain ⟨-, rfl⟩ := hend.cons_unique hend' hclosing hclosing
      exact ⟨rfl, rfl⟩
    | more hgap' hitem' hend' =>
      obtain ⟨rfl, rfl⟩ := hfirst.of_gap htight hgap hitem hgap' hitem'
      exact absurd (hend.cons_unique hend' hclosing hcomma).1 hne
  | more hgap hitem hend _ ih =>
    obtain ⟨hfirst, hitems⟩ := List.forall_mem_cons.1 hitems
    cases h' with
    | last hgap' hitem' hend' =>
      obtain ⟨rfl, rfl⟩ := hfirst.of_gap htight hgap hitem hgap' hitem'
      exact absurd (hend'.cons_unique hend hclosing hcomma).1 hne
    | more hgap' hitem' hend' h' =>
      obtain ⟨rfl, rfl⟩ := hfirst.of_gap htight hgap hitem hgap' hitem'
      obtain ⟨-, rfl⟩ := hend.cons_unique hend' hcomma hcomma
      obtain ⟨rfl, rfl⟩ := ih hitems h'
      exact ⟨rfl, rfl⟩

/-- A list that is not empty does not look like an empty one. -/
theorem ReadsList.not_gap {closing : Char} (hclosing : isGap closing = false)
    (hstart : ∀ ⦃item input rest⦄, reads item input rest → input.head? ≠ some closing)
    {items : List α} {input rest after : List Char} (h : ReadsList reads closing items input rest) :
    ¬ Gap input (closing :: after) := by
  intro hempty
  have hclosed : ∀ c, (closing :: after).head? = some c → isGap c = false := by simp [hclosing]
  cases h with
  | last hgap hitem | more hgap hitem =>
    have hsame := hgap.unique hempty (htight hitem) hclosed
    exact hstart hitem (by rw [hsame]; rfl)

end

theorem Reads.of_head? {value : Json} {input rest : List Char} (h : Reads value input rest) :
    ∀ c, input.head? = some c → isGap c = false ∧ c ≠ ']' := by
  intro c hc
  cases h <;>
    · obtain rfl := Option.some.inj hc
      decide

theorem ReadsMember.head? {member : String × Json} {input rest : List Char}
    (h : ReadsMember Reads member input rest) : input.head? = some '"' := by
  cases h
  rfl

theorem startsTight_reads : StartsTight Reads := fun _ _ _ h c hc => (h.of_head? c hc).1

theorem startsTight_readsMember : StartsTight (ReadsMember Reads) := by
  intro member input rest h c hc
  obtain rfl := Option.some.inj (h.head?.symm.trans hc)
  decide

theorem ReadsList.not_gap_bracket {items : List Json} {input rest after : List Char}
    (h : ReadsList Reads ']' items input rest) : ¬ Gap input (']' :: after) :=
  h.not_gap startsTight_reads (by decide) fun _ _ _ hitem hc => (hitem.of_head? _ hc).2 rfl

theorem ReadsList.not_gap_brace {members : List (String × Json)} {input rest after : List Char}
    (h : ReadsList (ReadsMember Reads) '\x7d' members input rest) :
    ¬ Gap input ('\x7d' :: after) :=
  h.not_gap startsTight_readsMember (by decide) fun _ _ _ hmember => by simp [hmember.head?]

/-- A member with an unambiguous value is unambiguous. -/
theorem Unambiguous.readsMember {member : String × Json} (hvalue : Unambiguous Reads member.2) :
    Unambiguous (ReadsMember Reads) member := by
  intro member' input rest rest' h h'
  have hcolon : isGap ':' = false := by decide
  cases h with
  | mk hname hgap hstart h =>
    cases h' with
    | mk hname' hgap' hstart' h' =>
      obtain ⟨hsame, rfl⟩ := hname.unique hname'
      obtain rfl := String.toList_inj.1 hsame
      obtain ⟨-, rfl⟩ := hgap.cons_unique hgap' hcolon hcolon
      obtain ⟨rfl, rfl⟩ := hvalue.of_gap startsTight_reads hstart h hstart' h'
      exact ⟨rfl, rfl⟩

/-- A value is read in one way. -/
theorem unambiguous_reads (value : Json) : Unambiguous Reads value := by
  induction value using Json.induction with
  | null | bool value =>
    intro value' input rest rest' h h'
    cases h <;> (cases h'; exact ⟨rfl, rfl⟩)
  | string value =>
    intro value' input rest rest' h h'
    cases h with
    | string h =>
      cases h' with
      | string h' =>
        obtain ⟨hsame, rfl⟩ := h.unique h'
        exact ⟨congrArg Json.string (String.toList_inj.1 hsame), rfl⟩
  | array items ih =>
    have hlist : Unambiguous (ReadsList Reads ']') items :=
      Unambiguous.readsList startsTight_reads (by decide) (by decide) ih
    intro value' input rest rest' h h'
    -- Only the empty array has its closing bracket behind nothing but white space.
    cases h with
    | noItems h =>
      cases h' with
      | noItems h' => exact ⟨rfl, (h.cons_unique h' (by decide) (by decide)).2⟩
      | items h' => exact absurd h h'.not_gap_bracket
    | items h =>
      cases h' with
      | noItems h' => exact absurd h' h.not_gap_bracket
      | items h' =>
        obtain ⟨rfl, rfl⟩ := hlist h h'
        exact ⟨rfl, rfl⟩
  | object members ih =>
    have hmembers : ∀ member ∈ members, Unambiguous (ReadsMember Reads) member :=
      fun member hmember => (ih member hmember).readsMember
    intro value' input rest rest' h h'
    cases h with
    | noMembers h =>
      cases h' with
      | noMembers h' => exact ⟨rfl, (h.cons_unique h' (by decide) (by decide)).2⟩
      | members h' => exact absurd h h'.not_gap_brace
    | members h =>
      cases h' with
      | noMembers h' => exact absurd h' h.not_gap_brace
      | members h' =>
        obtain ⟨rfl, rfl⟩ :=
          Unambiguous.readsList startsTight_readsMember (by decide) (by decide) hmembers h h'
        exact ⟨rfl, rfl⟩

/-- No text is that of two values. -/
theorem IsTextOf.unique {text : String} {value value' : Json} (h : IsTextOf text value)
    (h' : IsTextOf text value') : value = value' := by
  obtain ⟨start, stop, hgap, hvalue, -⟩ := h
  obtain ⟨start', stop', hgap', hvalue', -⟩ := h'
  exact ((unambiguous_reads value).of_gap startsTight_reads hgap hvalue hgap' hvalue').1

end StructSchema.Json
