import StructSchema.Proofs.Token.Splitting

/-!
# The tokens of a run of lexemes

Each token of a run is the token of one of its lexemes, and its kind tells of what form that lexeme
is.

## Key results

- `Lexeme.exists_of_place_eq_append_cons`: the lexeme of a token, and what stands around it
- `Lexeme.nodup_position_place`: no two tokens stand at the same place
- `Lexeme.form_of_token?`: the form of a lexeme by the kind of its token
- `Lexeme.beforeEof_place_append`: the tokens of a text up to its end
-/

namespace StructSchema

open StructSchema.Text

namespace Lexeme

/-- A token of a run is the token of one of its lexemes, at the place where that lexeme starts, and
    the tokens behind it are those of the lexemes behind. -/
theorem exists_of_place_eq_append_cons {p : Position} {ls : List Lexeme} {front back : List Token}
    {t : Token} (h : place p ls = front ++ t :: back) :
    ∃ ls₁ l ls₂, ls = ls₁ ++ l :: ls₂ ∧ l.token? (placeAfter p ls₁) = some t ∧
      back = place ((placeAfter p ls₁).after l.spelling) ls₂ := by
  induction ls generalizing p front with
  | nil => simp at h
  | cons l ls ih =>
    rw [place_cons] at h
    cases htoken : l.token? p with
    | none =>
      -- A blank stands for no token, so the one at hand belongs to a later lexeme.
      rw [htoken] at h
      obtain ⟨ls₁, l', ls₂, rfl, ht, hback⟩ := ih h
      exact ⟨l :: ls₁, l', ls₂, rfl, ht, hback⟩
    | some t' =>
      rw [htoken] at h
      cases front with
      | nil =>
        -- The token at hand is the first one, and so is its lexeme.
        obtain ⟨rfl, rfl⟩ := List.cons.inj h
        exact ⟨[], l, ls, rfl, htoken, rfl⟩
      | cons f front =>
        obtain ⟨ls₁, l', ls₂, rfl, ht, hback⟩ := ih (List.cons.inj h).2
        exact ⟨l :: ls₁, l', ls₂, rfl, ht, hback⟩

/-- A token of a run is the token of one of its lexemes. -/
theorem exists_of_mem_place {p : Position} {ls : List Lexeme} {t : Token} (h : t ∈ place p ls) :
    ∃ l ∈ ls, ∃ q, l.token? q = some t := by
  obtain ⟨front, back, h⟩ := List.append_of_mem h
  obtain ⟨ls₁, l, ls₂, rfl, ht, -⟩ := exists_of_place_eq_append_cons h
  exact ⟨l, by simp, _, ht⟩

/-! ## Kinds of tokens and forms of lexemes -/

/-- The token of a lexeme stands where the lexeme starts. -/
theorem position_of_token? {l : Lexeme} {p : Position} {t : Token} (h : l.token? p = some t) :
    t.position = p := by
  obtain ⟨content, -, rfl⟩ := Option.map_eq_some_iff.1 h
  rfl

/-- The tokens of a run, and what follows it, stand behind the place where it starts. -/
theorem exists_after_of_mem_position {p q : Position} {ls : List Lexeme}
    (h : q ∈ (place p ls).map Token.position ++ [placeAfter p ls]) : ∃ span, q = p.after span := by
  rcases List.mem_append.1 h with hmem | hmem
  · obtain ⟨t, ht, rfl⟩ := List.mem_map.1 hmem
    obtain ⟨front, back, h⟩ := List.append_of_mem ht
    obtain ⟨ls₁, l, ls₂, -, hl, -⟩ := exists_of_place_eq_append_cons h
    exact ⟨ls₁.flatMap spelling, by rw [position_of_token? hl, placeAfter_eq]⟩
  · exact ⟨ls.flatMap spelling, by rw [List.mem_singleton.1 hmem, placeAfter_eq]⟩

/-- No two tokens of a run stand at the same place, and none at the place behind it. -/
theorem nodup_position_place {p : Position} {ls : List Lexeme} (hls : ∀ l ∈ ls, l.WellFormed) :
    ((place p ls).map Token.position ++ [placeAfter p ls]).Nodup := by
  induction ls generalizing p with
  | nil => simp
  | cons l ls ih =>
    obtain ⟨hl, hrest⟩ := List.forall_mem_cons.1 hls
    have hlater := @ih (p.after l.spelling) hrest
    rw [place_cons]
    cases htoken : l.token? p with
    | none => exact hlater
    | some t =>
      show (t.position :: (_ ++ [placeAfter (p.after l.spelling) ls])).Nodup
      refine List.nodup_cons.2 ⟨fun hmem => ?_, hlater⟩
      -- What comes later stands behind the characters of the lexeme.
      obtain ⟨span, hspan⟩ := exists_after_of_mem_position hmem
      rw [position_of_token? htoken, ← Position.after_append] at hspan
      exact Position.after_ne_self p (by simp [hl.spelling_ne_nil]) hspan.symm

/-- A word is a keyword, a name or a modified type. -/
theorem wordKind_mem (modifiers : TypeModifiers) (name : List Char) :
    wordKind modifiers name ∈
      [TokenKind.typeKeyword, .structKeyword, .ident, .modifiedType] := by
  unfold wordKind
  split
  · simp
  · split
    · simp
    · split <;> simp

/-- Which lexemes a token of the kind and with the text may come from. -/
def Form (text : List Char) (l : Lexeme) : TokenKind → Prop
  | .newline => l = .newline
  | .leftBrace => l = .leftBrace
  | .rightBrace => l = .rightBrace
  | .comment => ∃ body, l = .comment body ∧ text = trim body
  | .tag => l = .tag text
  | .eof => False
  | kind => ∃ modifiers name, l = .word modifiers name ∧ text = modifiers.spelling ++ name ∧
      kind = wordKind modifiers name

/-- The kind of a token tells of what form its lexeme is. -/
theorem form_of_token? {l : Lexeme} {p : Position} {t : Token} (h : l.token? p = some t) :
    l.Form t.text.toList t.kind := by
  obtain ⟨content, hcontent, rfl⟩ := Option.map_eq_some_iff.1 h
  rw [String.toList_ofList]
  cases l with
  | blank => cases hcontent
  | newline | leftBrace | rightBrace | tag => cases hcontent; rfl
  | comment body => cases hcontent; exact ⟨body, rfl, rfl⟩
  | word modifiers name =>
    cases hcontent
    -- Each of the four kinds a word can have asks for the same.
    have hword : ∃ m n, word modifiers name = .word m n ∧
        modifiers.spelling ++ name = m.spelling ++ n ∧ wordKind modifiers name = wordKind m n :=
      ⟨modifiers, name, rfl, rfl, rfl⟩
    have hmem := wordKind_mem modifiers name
    generalize wordKind modifiers name = kind at hword hmem ⊢
    simp only [List.mem_cons, List.not_mem_nil, or_false] at hmem
    rcases hmem with rfl | rfl | rfl | rfl <;> exact hword

theorem eq_newline_of_token? {l : Lexeme} {p : Position} {t : Token} (h : l.token? p = some t)
    (hkind : t.kind = .newline) : l = .newline := by
  have hform := form_of_token? h
  rwa [hkind] at hform

theorem eq_comment_of_token? {l : Lexeme} {p : Position} {t : Token} (h : l.token? p = some t)
    (hkind : t.kind = .comment) : ∃ body, l = .comment body ∧ t.text.toList = trim body := by
  have hform := form_of_token? h
  rwa [hkind] at hform

theorem eq_tag_of_token? {l : Lexeme} {p : Position} {t : Token} (h : l.token? p = some t)
    (hkind : t.kind = .tag) : l = .tag t.text.toList := by
  have hform := form_of_token? h
  rwa [hkind] at hform

theorem eq_word_of_token? {l : Lexeme} {p : Position} {t : Token} (h : l.token? p = some t)
    (hkind : t.kind ∈ [TokenKind.ident, .modifiedType]) :
    ∃ modifiers name, l = .word modifiers name ∧ t.text.toList = modifiers.spelling ++ name ∧
      t.kind = wordKind modifiers name := by
  have hform := form_of_token? h
  simp only [List.mem_cons, List.not_mem_nil, or_false] at hkind
  rcases hkind with hkind | hkind <;> rwa [hkind] at hform ⊢

/-! ## The tokens of a text -/

/-- The tokens of lexemes stand before the end of the text. -/
theorem beforeEof_place_append {p : Position} {ls : List Lexeme} (text : String)
    (position : Position) :
    Token.beforeEof (place p ls ++ [⟨.eof, text, position⟩]) = place p ls := by
  -- No lexeme stands for the end of the text.
  have hkinds : ∀ t ∈ place p ls, t.kind ≠ .eof := fun t ht hkind => by
    obtain ⟨l, -, q, hl⟩ := exists_of_mem_place ht
    have hform := form_of_token? hl
    rw [hkind] at hform
    exact hform
  have heof : Token.beforeEof [⟨.eof, text, position⟩] = [] := rfl
  rw [Token.beforeEof_append hkinds, heof, List.append_nil]

end Lexeme

end StructSchema
