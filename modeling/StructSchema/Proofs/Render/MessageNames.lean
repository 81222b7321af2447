import StructSchema.Proofs.Render.Outlines

/-!
# Names in messages

A field's name in messages is the one that its tag gives, as it stands there, or else the field's
own in snake case. A name in snake case can always stand in a message; what a tag gives is not
looked at. With a name that can stand there, the field is one line that holds its type, its name and
its number.

## Key results

- `protobufName?_eq_some_iff`: which name the value of an entry gives
- `isUsableName_snakeCase`: names in snake case can stand in a message
- `Field.words_messageLine`: the words of a field's line
- `Field.messageName_of_parse_eq_ok`: the names of the fields of a text
-/

namespace StructSchema

open StructSchema.Unicode StructSchema.Text

/-! ## Usable names -/

/-- A name that can stand in a message: not empty, and without white space and the marks that end a
    name there. -/
def IsUsableName (name : String) : Prop :=
  name ≠ "" ∧ ∀ c ∈ name.toList, isWhiteSpace c = false ∧ c ≠ '=' ∧ c ≠ ';'

instance (name : String) : Decidable (IsUsableName name) :=
  decidable_of_iff
    (name ≠ "" ∧ (name.toList.all fun c => !isWhiteSpace c && c != '=' && c != ';') = true)
    (and_congr_right fun _ => by simp [and_assoc])

theorem isWhiteSpace_eq_false_of_isWordChar {c : Char} (h : isWordChar c = true) :
    isWhiteSpace c = false := by
  rw [Bool.eq_false_iff]
  intro hblank
  rw [isWordChar_eq_false_of_isWhiteSpace hblank] at h
  cases h

theorem IsWord.ne_empty {text : String} (h : IsWord text) : text.toList ≠ [] := by
  intro hempty
  have hstart := h.1
  simp [hempty] at hstart

theorem IsWord.isUsableName {text : String} (h : IsWord text) : IsUsableName text := by
  refine ⟨fun hempty => h.ne_empty (by simp [hempty]), fun c hc => ?_⟩
  refine ⟨isWhiteSpace_eq_false_of_isWordChar (h.2 c hc), ?_, ?_⟩
  · rintro rfl
    exact h.notMem (by decide +kernel) hc
  · rintro rfl
    exact h.notMem (by decide +kernel) hc

/-- Names in snake case can stand in a message. -/
theorem isUsableName_snakeCase {name : String} (h : IsWord name) :
    IsUsableName (snakeCase name) := by
  refine ⟨fun hempty => snakeCase_ne_empty h.ne_empty (by simp [hempty]), fun c hc => ?_⟩
  have hblanks : ∀ d ∈ name.toList, isWhiteSpace d = false := fun d hd =>
    isWhiteSpace_eq_false_of_isWordChar (h.2 d hd)
  refine ⟨isWhiteSpace_eq_false_of_mem_snakeCase hblanks hc, ?_, ?_⟩
  · rintro rfl
    exact notMem_snakeCase (h.notMem (by decide +kernel)) (by decide) (by decide) hc
  · rintro rfl
    exact notMem_snakeCase (h.notMem (by decide +kernel)) (by decide) (by decide) hc

/-! ## The names that tags give -/

/-- The value of a `protobuf` entry gives a name: what follows `name=` in the first of its parts
    that starts so, or the whole value if it is not empty and has one part only. -/
inductive GivesName (value : List Char) : List Char → Prop
  | part {front back : List (List Char)} {name : List Char} :
      value.splitOn ',' = front ++ ("name=".toList ++ name) :: back →
      (∀ part ∈ front, ¬ "name=".toList <+: part) → GivesName value name
  | whole : value ≠ [] → ',' ∉ value → ¬ "name=".toList <+: value → GivesName value value

theorem afterLead?_eq_some_iff {lead cs rest : List Char} :
    afterLead? lead cs = some rest ↔ cs = lead ++ rest := by
  unfold afterLead?
  constructor
  · intro h
    obtain ⟨hlead, hrest⟩ := Option.ite_none_right_eq_some.1 h
    obtain ⟨more, rfl⟩ := List.isPrefixOf_iff_prefix.1 hlead
    rw [List.drop_left] at hrest
    rw [Option.some.inj hrest]
  · rintro rfl
    simp

theorem afterLead?_eq_none_iff {lead cs : List Char} :
    afterLead? lead cs = none ↔ ¬ lead <+: cs := by
  simp [afterLead?, ← List.isPrefixOf_iff_prefix]

/-- Which name the value of an entry gives. -/
theorem protobufName?_eq_some_iff {value name : List Char} :
    protobufName? value = some name ↔ GivesName value name := by
  unfold protobufName?
  constructor
  · intro h
    split at h
    · next found hfound =>
      obtain rfl := Option.some.inj h
      obtain ⟨front, part, back, hparts, hpart, hfront⟩ := List.findSome?_eq_some_iff.1 hfound
      rw [afterLead?_eq_some_iff.1 hpart] at hparts
      exact .part hparts fun part hmem => afterLead?_eq_none_iff.1 (hfront part hmem)
    · next hnone =>
      obtain ⟨hone, rfl⟩ : ¬ (value = [] ∨ ',' ∈ value) ∧ value = name := by simpa using h
      obtain ⟨hne, hcomma⟩ := not_or.1 hone
      -- Without a comma the value is its only part.
      rw [List.splitOn_eq_singleton hcomma, List.findSome?_eq_none_iff] at hnone
      exact .whole hne hcomma (afterLead?_eq_none_iff.1 (hnone value List.mem_cons_self))
  · intro h
    cases h with
    | part hparts hfront =>
      have hfound : (value.splitOn ',').findSome? (afterLead? "name=".toList) = some name :=
        List.findSome?_eq_some_iff.2 ⟨_, _, _, hparts, afterLead?_eq_some_iff.2 rfl,
          fun part hmem => afterLead?_eq_none_iff.2 (hfront part hmem)⟩
      rw [hfound]
    | whole hne hcomma hlead =>
      have hnone : (value.splitOn ',').findSome? (afterLead? "name=".toList) = none := by
        rw [List.splitOn_eq_singleton hcomma, List.findSome?_singleton]
        exact afterLead?_eq_none_iff.2 hlead
      rw [hnone]
      simp [hne, hcomma]

namespace Field

/-- The field's tag has a `protobuf` entry, the first of which gives the name. -/
def NamedByTag (f : Field) (name : String) : Prop :=
  ∃ tag value, f.tag? = some tag ∧ StructTag.value? tag "protobuf" = some value ∧
    GivesName value.toList name.toList

/-- A name that the tag gives is the field's name in messages, as it stands in the tag. -/
theorem messageName_of_namedByTag {f : Field} {name : String} (h : f.NamedByTag name) :
    f.messageName = name := by
  obtain ⟨tag, value, htag, hvalue, hname⟩ := h
  simp [messageName, htag, hvalue, protobufName?_eq_some_iff.2 hname]

/-- Without a name from its tag, the field has its own in snake case. -/
theorem messageName_of_not_namedByTag {f : Field} (h : ∀ name, ¬ f.NamedByTag name) :
    f.messageName = snakeCase f.name := by
  have hnone : ((f.tag?.bind fun tag => StructTag.value? tag "protobuf").bind fun value =>
      protobufName? value.toList) = none := by
    rw [Option.eq_none_iff_forall_ne_some]
    intro name hname
    obtain ⟨value, hentry, hname⟩ := Option.bind_eq_some_iff.1 hname
    obtain ⟨tag, htag, hvalue⟩ := Option.bind_eq_some_iff.1 hentry
    refine h (String.ofList name) ⟨tag, value, htag, hvalue, ?_⟩
    rw [String.toList_ofList]
    exact protobufName?_eq_some_iff.1 hname
  simp only [messageName, hnone]

/-! ## The words of a line -/

/-- The words of a field's line: its type, its name and its number behind a sign. -/
def messageWords (f : Field) (number : Nat) : List String :=
  (if f.isSlice then ["repeated"] else []) ++ [f.messageType, f.messageName, "=", toString number]

/-- A field's line is its words with a blank between any two, a semicolon and the comment. -/
theorem messageLine_eq_intercalate (f : Field) (number : Nat) : f.messageLine number =
    " ".intercalate (f.messageWords number) ++ ";" ++ Layout.trailer f := by
  apply String.toList_inj.1
  unfold messageLine messageWords
  cases f.isSlice <;> simp

/-- With a name that can stand in a message, no word of a field's line has white space in it or ends
    the line. -/
theorem clear_of_mem_messageWords {f : Field} (hf : f.WellFormed)
    (hname : IsUsableName f.messageName) {number : Nat} {word : String}
    (hword : word ∈ f.messageWords number) {c : Char} (hc : c ∈ word.toList) :
    isWhiteSpace c = false ∧ c ≠ ';' := by
  have clear_of_isUsableName (h : IsUsableName word) : isWhiteSpace c = false ∧ c ≠ ';' :=
    ⟨(h.2 c hc).1, (h.2 c hc).2.2⟩
  rw [messageWords, List.mem_append] at hword
  rcases hword with hword | hword
  · split at hword
    · obtain rfl := List.mem_singleton.1 hword
      have hlabel : IsWord "repeated" := by decide +kernel
      exact clear_of_isUsableName hlabel.isUsableName
    · cases hword
  · simp only [List.mem_cons, List.not_mem_nil, or_false] at hword
    rcases hword with rfl | rfl | rfl | rfl
    · exact clear_of_isUsableName (isWord_messageType hf).isUsableName
    · exact clear_of_isUsableName hname
    · obtain rfl : c = '=' := by simpa using hc
      decide
    · have hdigit : c.isDigit = true := by
        rw [Nat.toString_eq_ofList_toDigits, String.toList_ofList] at hc
        exact Nat.isDigit_of_mem_toDigits (by decide) (by decide) hc
      have hchar : isWordChar c = true := by simp [isWordChar, isNumber_of_isDigit hdigit]
      refine ⟨isWhiteSpace_eq_false_of_isWordChar hchar, ?_⟩
      rintro rfl
      exact absurd hdigit (by decide)

end Field

/-- A text of words with one separator between any two is cut into these words. -/
theorem splitOnP_intercalate {p : Char → Bool} {separator : Char} (hseparator : p separator = true)
    {words : List (List Char)} (hne : words ≠ []) (h : ∀ word ∈ words, ∀ c ∈ word, p c = false) :
    ([separator].intercalate words).splitOnP p = words := by
  induction words with
  | nil => exact absurd rfl hne
  | cons word words ih =>
    obtain ⟨hword, hwords⟩ := List.forall_mem_cons.1 h
    cases words with
    | nil => rw [List.intercalate_singleton, List.splitOnP_eq_singleton hword]
    | cons next words =>
      rw [List.intercalate_cons_cons, List.append_assoc, List.singleton_append,
        List.splitOnP_append_cons_of_forall_mem hword separator hseparator,
        ih (List.cons_ne_nil next words) hwords]

theorem forall_mem_intercalate {p : Char → Prop} {separator : Char} (hseparator : p separator)
    {words : List (List Char)} (h : ∀ word ∈ words, ∀ c ∈ word, p c) :
    ∀ c ∈ [separator].intercalate words, p c := by
  induction words with
  | nil => simp
  | cons word words ih =>
    obtain ⟨hword, hwords⟩ := List.forall_mem_cons.1 h
    cases words with
    | nil => rwa [List.intercalate_singleton]
    | cons next words =>
      rw [List.intercalate_cons_cons, List.append_assoc, List.singleton_append]
      intro c hc
      rcases List.mem_append.1 hc with hc | hc
      · exact hword c hc
      · rcases List.mem_cons.1 hc with rfl | hc
        · exact hseparator
        · exact ih hwords c hc

namespace Field

/-- With a name that can stand in a message, a field's line is one line, in which the words of the
    field stand in front of the first semicolon with white space between them. -/
theorem words_messageLine {f : Field} (hf : f.WellFormed) (hname : IsUsableName f.messageName)
    (number : Nat) :
    '\n' ∉ (f.messageLine number).toList ∧
      ((f.messageLine number).toList.takeWhile (· != ';')).splitOnP isWhiteSpace =
        (f.messageWords number).map String.toList := by
  have hclear : ∀ word ∈ (f.messageWords number).map String.toList, ∀ c ∈ word,
      isWhiteSpace c = false ∧ c ≠ ';' := by
    intro word hword c hc
    obtain ⟨text, htext, rfl⟩ := List.mem_map.1 hword
    exact clear_of_mem_messageWords hf hname htext hc
  have hblanks : ∀ word ∈ (f.messageWords number).map String.toList, ∀ c ∈ word,
      isWhiteSpace c = false := fun word hword c hc => (hclear word hword c hc).1
  have hwhole : (f.messageLine number).toList =
      [' '].intercalate ((f.messageWords number).map String.toList) ++
        ';' :: (Layout.trailer f).toList := by
    rw [messageLine_eq_intercalate]
    simp [String.toList_intercalate]
  constructor
  · have hwords : ∀ c ∈ [' '].intercalate ((f.messageWords number).map String.toList),
        c ≠ '\n' := by
      refine forall_mem_intercalate (by decide) fun word hword c hc => ?_
      rintro rfl
      exact absurd (hblanks word hword _ hc) (by decide)
    rw [hwhole, List.mem_append, List.mem_cons]
    rintro (hmem | hmem | hmem)
    · exact hwords _ hmem rfl
    · cases hmem
    · rw [← trailer_outline] at hmem
      exact Outline.lineBreak_notMem_trailer (outline_plain hf) hmem
  · -- The first semicolon is the one behind the words: none of them has one in it.
    have hstop : ∀ c ∈ [' '].intercalate ((f.messageWords number).map String.toList),
        (c != ';') = true :=
      forall_mem_intercalate (by decide) fun word hword c hc => by
        simpa using (hclear word hword c hc).2
    have hsemicolon : ∀ c, (';' :: (Layout.trailer f).toList).head? = some c → (c != ';') = false :=
      by simp
    have hne : (f.messageWords number).map String.toList ≠ [] := by simp [messageWords]
    rw [hwhole, (Lexeme.takeWhile_dropWhile_append hstop hsemicolon).1,
      splitOnP_intercalate (by decide) hne hblanks]

end Field

/-! ## The fields of a text -/

/-- The name in messages of every field of a text. A name that its tag gives is taken as it stands
    there; otherwise it is the field's own name in snake case, which can stand in a message. With a
    name that can stand there, the field is one line that holds a type, this name and a number. -/
theorem Field.messageName_of_parse_eq_ok {text : String} {structs : List Struct} {s : Struct}
    {f : Field} (h : parse text = .ok structs) (hs : s ∈ structs) (hf : f ∈ s.fields) :
    (∀ name, name ≠ "" → f.NamedByTag name → f.messageName = name) ∧
    ((∀ name, ¬ f.NamedByTag name) →
      f.messageName = snakeCase f.name ∧ IsUsableName f.messageName) ∧
    (IsUsableName f.messageName → IsUsableName f.messageType ∧ ∀ number,
      '\n' ∉ (f.messageLine number).toList ∧
      ((f.messageLine number).toList.takeWhile (· != ';')).splitOnP isWhiteSpace =
        ((if f.isSlice then ["repeated"] else []) ++
          [f.messageType, f.messageName, "=", toString number]).map String.toList) := by
  have hfield := (Struct.wellFormed_of_parse_eq_ok h s hs).fields f hf
  refine ⟨fun name _ hname => messageName_of_namedByTag hname, fun hnone => ?_, fun hname => ?_⟩
  · have hsnake := messageName_of_not_namedByTag hnone
    exact ⟨hsnake, hsnake ▸ isUsableName_snakeCase hfield.name_isWord⟩
  · exact ⟨(isWord_messageType hfield).isUsableName, words_messageLine hfield hname⟩

/-- A slice that has its name from the first of two parts, and a pointer that has none from a
    tag. -/
theorem Field.messageName_of_parse_eq_ok_parts :
    ∃ f g, parse
        ("type T struct \x7b\n Dog []string `protobuf:\"bytes,name=nick,name=x\"` // n;\n" ++
          " HTTPServer *int\n\x7d") = .ok [⟨"T", [f, g]⟩] ∧
      "nick" ≠ "" ∧ f.NamedByTag "nick" ∧ f.messageName = "nick" ∧ IsUsableName f.messageName ∧
      '\n' ∉ (f.messageLine 1).toList ∧
      ((f.messageLine 1).toList.takeWhile (· != ';')).splitOnP isWhiteSpace =
        ["repeated", "string", "nick", "=", "1"].map String.toList ∧
      (∀ name, ¬ g.NamedByTag name) ∧ g.messageName = "http_server" := by
  have h : parse
      ("type T struct \x7b\n Dog []string `protobuf:\"bytes,name=nick,name=x\"` // n;\n" ++
        " HTTPServer *int\n\x7d") =
      .ok [⟨"T",
        [{ Field.ofSource "Dog" "[]string" with
            tag? := some "protobuf:\"bytes,name=nick,name=x\"", comment? := some "n;" },
          Field.ofSource "HTTPServer" "*int"]⟩] := by
    decide +kernel
  obtain ⟨hnamed, -, hwords⟩ :=
    messageName_of_parse_eq_ok h List.mem_cons_self List.mem_cons_self
  obtain ⟨-, hsnake, -⟩ :=
    messageName_of_parse_eq_ok h List.mem_cons_self (List.mem_cons_of_mem _ List.mem_cons_self)
  have hgiven : NamedByTag { Field.ofSource "Dog" "[]string" with
      tag? := some "protobuf:\"bytes,name=nick,name=x\"", comment? := some "n;" } "nick" :=
    ⟨_, "bytes,name=nick,name=x", rfl, by decide +kernel,
      protobufName?_eq_some_iff.1 (by decide +kernel)⟩
  have hnone : ∀ name, ¬ (Field.ofSource "HTTPServer" "*int").NamedByTag name := by
    rintro name ⟨tag, value, htag, -⟩
    cases htag
  have hname := hnamed "nick" (by decide) hgiven
  obtain ⟨-, hline⟩ := hwords (by rw [hname]; decide +kernel)
  refine ⟨_, _, h, by decide, hgiven, hname, by rw [hname]; decide +kernel, (hline 1).1, ?_, hnone,
    (hsnake hnone).1.trans (by decide +kernel)⟩
  rw [(hline 1).2, hname]
  decide +kernel

/-- A tag gives a name with a blank in it, which is two words of the line. -/
theorem Field.messageName_blank :
    ∃ f, parse "type A struct \x7b\n B string `protobuf:\"a b\"`\n\x7d" = .ok [⟨"A", [f]⟩] ∧
      f.messageName = "a b" ∧ ¬ IsUsableName f.messageName ∧
      f.messageLine 1 = "string a b = 1;" ∧
      convert .messages {} "type A struct \x7b\n B string `protobuf:\"a b\"`\n\x7d" =
        .ok "syntax = \"proto3\";\n\nmessage A \x7b\n    string a b = 1;\n\x7d\n" := by
  refine ⟨{ Field.ofSource "B" "string" with tag? := some "protobuf:\"a b\"" }, ?_, ?_, ?_, ?_, ?_⟩
  all_goals decide +kernel

end StructSchema
