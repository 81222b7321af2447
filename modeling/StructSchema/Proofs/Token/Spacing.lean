import StructSchema.Proofs.Text.Trimming
import StructSchema.Proofs.Token.Placing

/-!
# Blanks between lexemes

Blanks may be put behind any lexeme: behind a comment they become a part of it that is trimmed away,
and behind any other lexeme they stand for themselves and for no token. So the kinds and the texts
of the tokens stay, and only their places move.

## Key results

- `Lexeme.separated_followedBy`: where a lexeme with blanks behind it may stand
- `Lexeme.place_followedBy_append`: the tokens are those of the lexeme and of what comes behind the
  blanks
- `Lexeme.separated_spread`: blanks behind lexemes keep them apart
-/

namespace StructSchema

open StructSchema.Unicode StructSchema.Text

/-- White space without line breaks. -/
def Text.Blanks (cs : List Char) : Prop := ∀ c ∈ cs, isWhiteSpace c = true ∧ c ≠ '\n'

instance (cs : List Char) : Decidable (Blanks cs) := List.decidableBAll _ cs

theorem Text.blanks_nil : Blanks [] := List.forall_mem_nil _

theorem Text.blanks_cons {c : Char} {cs : List Char} :
    Blanks (c :: cs) ↔ (isWhiteSpace c = true ∧ c ≠ '\n') ∧ Blanks cs :=
  List.forall_mem_cons

theorem Text.Blanks.lineBreak_notMem {cs : List Char} (h : Blanks cs) : '\n' ∉ cs :=
  fun hmem => (h _ hmem).2 rfl

namespace Lexeme

/-! ## Blanks that stand for themselves -/

theorem spelling_map_blank (blanks : List Char) :
    (blanks.map blank).flatMap spelling = blanks := by
  simp [List.flatMap_map, spelling]

theorem separated_map_blank {blanks : List Char} (h : Blanks blanks) (rest : List Char) :
    Separated rest (blanks.map blank) := by
  induction blanks with
  | nil => trivial
  | cons c blanks ih =>
    obtain ⟨hc, hblanks⟩ := blanks_cons.1 h
    exact ⟨hc, trivial, ih hblanks⟩

/-- Blanks may stand in front of anything. -/
theorem Separated.map_blank_append {blanks rest : List Char} {ls : List Lexeme}
    (hls : Separated rest ls) (h : Blanks blanks) : Separated rest (blanks.map blank ++ ls) :=
  separated_append.2 ⟨separated_map_blank h _, hls⟩

/-- Blanks stand for no token and move the place on. -/
theorem place_map_blank_append (p : Position) (blanks : List Char) (ls : List Lexeme) :
    place p (blanks.map blank ++ ls) = place (p.after blanks) ls := by
  induction blanks generalizing p with
  | nil => rfl
  | cons c blanks ih =>
    rw [List.map_cons, List.cons_append, place_cons, ih]
    rfl

/-! ## Blanks behind a lexeme -/

/-- The lexeme with blanks behind it. A comment takes them in. -/
def followedBy (l : Lexeme) (blanks : List Char) : List Lexeme :=
  match l with
  | .comment body => [.comment (body ++ blanks)]
  | l => l :: blanks.map blank

theorem spelling_followedBy (l : Lexeme) (blanks : List Char) :
    (l.followedBy blanks).flatMap spelling = l.spelling ++ blanks := by
  cases l with
  | comment body => simp [followedBy, spelling]
  | _ => exact congrArg (_ ++ ·) (spelling_map_blank blanks)

/-- No word goes on with a blank. -/
theorem endsBefore_blanks_append {l : Lexeme} {blanks rest : List Char} (h : Blanks blanks)
    (hcomment : ∀ body, l ≠ .comment body) (hrest : blanks = [] → l.EndsBefore rest) :
    l.EndsBefore (blanks ++ rest) := by
  cases blanks with
  | nil => exact hrest rfl
  | cons c blanks =>
    -- Only words depend on what follows, and no blank is a character of a word.
    cases l with
    | comment body => exact absurd rfl (hcomment body)
    | word modifiers name =>
      intro d hd
      obtain rfl : c = d := Option.some.inj hd
      exact isWordChar_eq_false_of_isWhiteSpace (h c List.mem_cons_self).1
    | _ => trivial

/-- A lexeme with blanks behind it may stand where it may itself. Blanks also keep it apart from
    what follows, unless it is a comment. -/
theorem separated_followedBy {l : Lexeme} {blanks rest : List Char} (hl : l.WellFormed)
    (h : Blanks blanks) (hrest : blanks = [] ∨ (∃ body, l = .comment body) → l.EndsBefore rest) :
    Separated rest (l.followedBy blanks) := by
  cases l with
  | comment body =>
    have hbody : '\n' ∉ body := hl
    have hall : '\n' ∉ body ++ blanks := by simp [hbody, h.lineBreak_notMem]
    exact ⟨hall, hrest (.inr ⟨body, rfl⟩), trivial⟩
  | _ =>
    refine ⟨hl, ?_, separated_map_blank h rest⟩
    rw [spelling_map_blank]
    exact endsBefore_blanks_append h (by simp) fun hnil => hrest (.inl hnil)

/-- The tokens are those of the lexeme and of what follows the blanks. -/
theorem place_followedBy_append {blanks : List Char} (h : Blanks blanks) (p : Position)
    (l : Lexeme) (ls : List Lexeme) :
    place p (l.followedBy blanks ++ ls) =
      (l.token? p).toList ++ place (p.after (l.spelling ++ blanks)) ls := by
  cases l with
  | comment body =>
    -- What the comment takes in is trimmed away again.
    have htrim : trim (body ++ blanks) = trim body :=
      trim_append_of_isWhiteSpace body fun c hc => (h c hc).1
    rw [followedBy, List.singleton_append, place_cons]
    simp [token?, content?, htrim, spelling]
  | _ =>
    show place p (_ :: (blanks.map blank ++ ls)) = _
    rw [place_cons, place_map_blank_append, Position.after_append]

/-! ## Blanks behind all lexemes -/

/-- Lexemes with the blanks that are put behind each. -/
def spread (items : List (Lexeme × List Char)) : List Lexeme :=
  items.flatMap fun item => item.1.followedBy item.2

theorem spread_cons (l : Lexeme) (blanks : List Char) (items : List (Lexeme × List Char)) :
    spread ((l, blanks) :: items) = l.followedBy blanks ++ spread items := rfl

theorem spelling_spread (items : List (Lexeme × List Char)) :
    (spread items).flatMap spelling = items.flatMap fun item => item.1.spelling ++ item.2 := by
  simp only [spread, List.flatMap_assoc, spelling_followedBy]

/-- Blanks behind lexemes keep them apart. -/
theorem separated_spread {items : List (Lexeme × List Char)} {rest : List Char}
    (h : Separated rest (items.map Prod.fst)) (hblanks : ∀ item ∈ items, Blanks item.2) :
    Separated rest (spread items) := by
  induction items with
  | nil => trivial
  | cons item items ih =>
    obtain ⟨l, blanks⟩ := item
    obtain ⟨hl, hends, hls⟩ := h
    obtain ⟨hfirst, hothers⟩ := List.forall_mem_cons.1 hblanks
    rw [spread_cons]
    refine separated_append.2 ⟨separated_followedBy hl hfirst fun _ => ?_, ih hls hothers⟩
    -- What follows starts as before, with the next lexeme.
    refine (endsBefore_congr ?_).1 hends
    cases items with
    | nil => rfl
    | cons next items =>
      obtain ⟨next, more⟩ := next
      have hnext : next.WellFormed := hls.1
      rw [spread_cons, List.map_cons, List.flatMap_cons, List.flatMap_append, spelling_followedBy]
      simp only [List.append_assoc, hnext.head?_append]

end Lexeme

/-! ## Kinds and texts -/

/-- The kind and the text of a token, without its place. -/
def Token.content (t : Token) : TokenKind × List Char := (t.kind, t.text.toList)

namespace Lexeme

/-- The contents of tokens are those of their lexemes. -/
theorem map_content_place (p : Position) (ls : List Lexeme) :
    (place p ls).map Token.content = ls.filterMap content? := by
  induction ls generalizing p with
  | nil => rfl
  | cons l ls ih =>
    rw [place_cons, List.map_append, ih, List.filterMap_cons, token?]
    cases l.content? with
    | none => rfl
    | some content => simp [Token.content]

/-- Blanks behind lexemes keep the contents of the tokens. -/
theorem filterMap_content?_spread {items : List (Lexeme × List Char)}
    (hblanks : ∀ item ∈ items, Blanks item.2) :
    (spread items).filterMap content? = (items.map Prod.fst).filterMap content? := by
  induction items with
  | nil => rfl
  | cons item items ih =>
    obtain ⟨l, blanks⟩ := item
    obtain ⟨hfirst, hothers⟩ := List.forall_mem_cons.1 hblanks
    -- The contents are those of the tokens, wherever these are placed.
    rw [← map_content_place .start, spread_cons, place_followedBy_append hfirst, List.map_append,
      map_content_place, ih hothers, List.map_cons, List.filterMap_cons, token?]
    cases l.content? with
    | none => rfl
    | some content => simp [Token.content]

end Lexeme

end StructSchema
