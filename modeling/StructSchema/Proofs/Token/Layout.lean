import StructSchema.Proofs.Token.Spacing
import StructSchema.Proofs.Token.Spans

/-!
# Layouts

A layout of tokens is a text in which they stand one after the other, with any blanks between them.
The kinds and the texts of tokens do not tell how many blanks there are, and nothing else about the
text is left open but the white space around the text of a comment.

## Key results

- `Token.layout_iff_exists_lexemes`: the lexemes that layouts are cut into
- `Token.layout_iff_exists_tokenize`: the texts that have tokens of these kinds and texts are the
  layouts
- `Lexeme.layout_spread`: blanks put in behind the lexemes of a text give another layout
- `Token.layout_respelled`: so does one spelling for each kind of token, with single blanks between
-/

namespace StructSchema

open StructSchema.Unicode StructSchema.Text

theorem Text.Blanks.append {front back : List Char} (hfront : Blanks front) (hback : Blanks back) :
    Blanks (front ++ back) :=
  List.forall_mem_append.2 ⟨hfront, hback⟩

namespace Token

/-- The tokens one after the other, each as it may be spelled in front of what follows it. In front
    of each and at the end there may be any blanks. -/
inductive Layout : List Token → List Char → Prop
  | nil {blanks} : Blanks blanks → Layout [] blanks
  | cons {t ts blanks run rest} : Blanks blanks → Spells t.kind t.text.toList run rest.head? →
      Layout ts rest → Layout (t :: ts) (blanks ++ (run ++ rest))

/-- In front of a layout there may be more blanks. -/
theorem Layout.blanks_append {ts : List Token} {blanks cs : List Char} (hblanks : Blanks blanks)
    (h : Layout ts cs) : Layout ts (blanks ++ cs) := by
  cases h with
  | nil hmore => exact .nil (hblanks.append hmore)
  | cons hmore hspells hrest =>
    rw [← List.append_assoc]
    exact .cons (hblanks.append hmore) hspells hrest

/-! ## Lexemes -/

/-- What may stand for a token is the spelling of a lexeme. -/
theorem Spells.exists_lexeme {kind : TokenKind} {text run rest : List Char}
    (h : Spells kind text run rest.head?) :
    ∃ l : Lexeme, l.WellFormed ∧ l.EndsBefore rest ∧ l.spelling = run ∧
      l.content? = some (kind, text) := by
  cases h with
  | newline => exact ⟨.newline, trivial, trivial, rfl, rfl⟩
  | leftBrace => exact ⟨.leftBrace, trivial, trivial, rfl, rfl⟩
  | rightBrace => exact ⟨.rightBrace, trivial, trivial, rfl, rfl⟩
  | @comment body _ line ends => exact ⟨.comment body, line, ends, rfl, rfl⟩
  | tag inside => exact ⟨.tag text, inside, trivial, rfl, rfl⟩
  | @word modifiers name _ starts goesOn ends =>
    exact ⟨.word modifiers name, ⟨starts, goesOn⟩, ends, rfl, rfl⟩

theorem Layout.exists_lexemes {ts : List Token} {cs : List Char} (h : Layout ts cs) :
    ∃ ls, ls.flatMap Lexeme.spelling = cs ∧ Lexeme.Separated [] ls ∧
      ls.filterMap Lexeme.content? = ts.map content := by
  -- Blanks stand for no token, so each token of the layout gives one lexeme behind them.
  have hnone (blanks : List Char) :
      (blanks.map Lexeme.blank).filterMap Lexeme.content? = [] := by
    simp [List.filterMap_map, Function.comp_def, Lexeme.content?]
  induction h with
  | @nil blanks hblanks =>
    exact ⟨blanks.map .blank, Lexeme.spelling_map_blank blanks,
      Lexeme.separated_map_blank hblanks [], hnone blanks⟩
  | @cons t ts blanks run rest hblanks hspells _ ih =>
    obtain ⟨ls, rfl, hls, hcontents⟩ := ih
    obtain ⟨l, hl, hends, rfl, hcontent⟩ := hspells.exists_lexeme
    refine ⟨blanks.map .blank ++ l :: ls, ?_, ?_, ?_⟩
    · rw [List.flatMap_append, Lexeme.spelling_map_blank, List.flatMap_cons]
    · refine Lexeme.Separated.map_blank_append ⟨hl, ?_, hls⟩ hblanks
      rwa [List.append_nil]
    · rw [List.filterMap_append, hnone, List.nil_append, List.filterMap_cons, hcontent, hcontents]
      rfl

theorem layout_of_separated {ls : List Lexeme} (hls : Lexeme.Separated [] ls) {ts : List Token}
    (h : ls.filterMap Lexeme.content? = ts.map content) :
    Layout ts (ls.flatMap Lexeme.spelling) := by
  induction ls generalizing ts with
  | nil =>
    obtain rfl : ts = [] := List.map_eq_nil_iff.1 h.symm
    exact .nil blanks_nil
  | cons l ls ih =>
    obtain ⟨hl, hends, hls⟩ := hls
    rw [List.append_nil] at hends
    rw [List.filterMap_cons] at h
    cases hcontent : l.content? with
    | none =>
      -- The blank goes to those in front of the next token.
      rw [hcontent] at h
      obtain ⟨c, rfl⟩ := Lexeme.eq_blank_of_content?_eq_none hcontent
      exact Layout.blanks_append (List.forall_mem_singleton.2 hl) (ih hls h)
    | some found =>
      rw [hcontent] at h
      cases ts with
      | nil => cases h
      | cons t ts =>
        obtain ⟨rfl, hcontents⟩ := List.cons.inj h
        have hspells := Lexeme.spells_of_content? hl hends hcontent
        exact @Layout.cons t ts [] _ _ blanks_nil hspells (ih hls hcontents)

/-- The lexemes that layouts are cut into. -/
theorem layout_iff_exists_lexemes {ts : List Token} {cs : List Char} :
    Layout ts cs ↔ ∃ ls, ls.flatMap Lexeme.spelling = cs ∧ Lexeme.Separated [] ls ∧
      ls.filterMap Lexeme.content? = ts.map content := by
  constructor
  · exact Layout.exists_lexemes
  · intro h
    obtain ⟨ls, rfl, hls, hcontents⟩ := h
    exact layout_of_separated hls hcontents

/-! ## Texts -/

/-- The contents of the tokens of a text are those before its end, and the end. -/
theorem map_content_of_tokenize {text : String} {tokens : List Token}
    (h : tokenize text = .ok tokens) :
    tokens.map content = (beforeEof tokens).map content ++ [(.eof, [])] := by
  obtain ⟨ls, -, -, rfl⟩ := tokenize_eq_ok_iff.1 h
  rw [Lexeme.beforeEof_place_append, List.map_append]
  rfl

/-- The texts that have tokens of these kinds and texts are the layouts. -/
theorem layout_iff_exists_tokenize {text : String} {tokens : List Token}
    (h : tokenize text = .ok tokens) {other : String} :
    Layout (beforeEof tokens) other.toList ↔
      ∃ others, tokenize other = .ok others ∧ others.map content = tokens.map content := by
  rw [layout_iff_exists_lexemes, map_content_of_tokenize h]
  constructor
  · intro hlayout
    obtain ⟨ls, hspelling, hls, hcontents⟩ := hlayout
    refine ⟨_, tokenize_eq_ok_iff.2 ⟨ls, hspelling, hls, rfl⟩, ?_⟩
    rw [List.map_append, Lexeme.map_content_place, hcontents]
    rfl
  · intro htokens
    obtain ⟨others, hothers, hcontents⟩ := htokens
    -- Both lists end in the end of the text, so they agree before it.
    obtain ⟨ls, hspelling, hls, rfl⟩ := tokenize_eq_ok_iff.1 hothers
    refine ⟨ls, hspelling, hls, ?_⟩
    rw [List.map_append, Lexeme.map_content_place] at hcontents
    exact List.append_cancel_right hcontents

end Token

/-- Blanks put in before, between and behind the lexemes of a text give another layout. -/
theorem Lexeme.layout_spread {text : String} {tokens : List Token}
    (h : tokenize text = .ok tokens) {blanks : List Char} {items : List (Lexeme × List Char)}
    (hitems : items.map Prod.fst = (split text.toList).1) (hblanks : Blanks blanks)
    (hall : ∀ item ∈ items, Blanks item.2) :
    Token.Layout (Token.beforeEof tokens)
      (blanks ++ items.flatMap fun item => item.1.spelling ++ item.2) := by
  obtain ⟨ls, hspelling, hls, rfl⟩ := tokenize_eq_ok_iff.1 h
  rw [hls.split_eq hspelling] at hitems
  rw [beforeEof_place_append]
  refine Token.Layout.blanks_append hblanks
    (Token.layout_iff_exists_lexemes.2 ⟨spread items, spelling_spread items, ?_, ?_⟩)
  · exact separated_spread (hitems ▸ hls) hall
  · rw [filterMap_content?_spread hall, hitems, map_content_place]

/-! ## One spelling for each kind of token -/

/-- The characters that a token is spelled with. The end of the text is spelled with none. -/
def Token.spelling (t : Token) : List Char :=
  match t.kind with
  | .newline => ['\n']
  | .tag => backtick :: (t.text.toList ++ [backtick])
  | .comment => '/' :: '/' :: ' ' :: t.text.toList
  | .eof => []
  | _ => t.text.toList

/-- The tokens, spelled with a blank between any two. -/
def Token.respelled (tokens : List Token) : String :=
  String.ofList ([' '].intercalate (tokens.map spelling))

theorem Token.toList_respelled_append_eof (ts : List Token) (text : String) (p : Position) :
    (respelled (ts ++ [⟨.eof, text, p⟩])).toList = ts.flatMap fun t => t.spelling ++ [' '] := by
  rw [respelled, String.toList_ofList]
  induction ts with
  | nil => rfl
  | cons t ts ih =>
    -- The end of the text comes last, so there is a blank behind each token before it.
    obtain ⟨next, more, hmore⟩ : ∃ next more, ts ++ [⟨.eof, text, p⟩] = next :: more :=
      List.exists_cons_of_ne_nil (by simp)
    rw [hmore] at ih
    rw [List.cons_append, hmore, List.map_cons, List.map_cons, List.intercalate_cons_cons,
      ← List.map_cons, ih, List.flatMap_cons, List.append_assoc]

namespace Lexeme

/-- The lexeme with one blank in front of the text of a comment and none behind it. -/
def tidy : Lexeme → Lexeme
  | .comment body => .comment (' ' :: trim body)
  | l => l

theorem content?_tidy (l : Lexeme) : l.tidy.content? = l.content? := by
  cases l with
  | comment body =>
    rw [tidy, content?, content?, trim_cons_of_isWhiteSpace _ (by decide), trim_trim]
  | _ => rfl

theorem WellFormed.tidy {l : Lexeme} (h : l.WellFormed) : l.tidy.WellFormed := by
  cases l with
  | comment body =>
    have hbody : '\n' ∉ trim body := fun hmem => h (mem_of_mem_trim hmem)
    show '\n' ∉ ' ' :: trim body
    simp [hbody]
  | _ => exact h

theorem endsBefore_tidy {l : Lexeme} {cs : List Char} :
    l.tidy.EndsBefore cs ↔ l.EndsBefore cs := by
  cases l <;> rfl

/-- A token is spelled as its lexeme. -/
theorem spelling_of_token? {l : Lexeme} {p : Position} {t : Token} (h : l.token? p = some t) :
    t.spelling = l.tidy.spelling := by
  obtain ⟨content, hcontent, rfl⟩ := Option.map_eq_some_iff.1 h
  cases l with
  | blank => cases hcontent
  | newline | leftBrace | rightBrace | comment | tag =>
    cases hcontent
    simp [Token.spelling, tidy, spelling]
  | word modifiers name =>
    cases hcontent
    -- Whatever its kind, a word is spelled by its text.
    have hmem := wordKind_mem modifiers name
    simp only [List.mem_cons, List.not_mem_nil, or_false] at hmem
    rcases hmem with hkind | hkind | hkind | hkind <;> simp [Token.spelling, hkind, tidy, spelling]

/-- The lexemes that stand for tokens, with a blank behind each. -/
def respell : List Lexeme → List (Lexeme × List Char)
  | [] => []
  | l :: ls => (l.content?.map fun _ => (l.tidy, [' '])).toList ++ respell ls

theorem blanks_of_mem_respell {ls : List Lexeme} : ∀ item ∈ respell ls, Blanks item.2 := by
  induction ls with
  | nil => simp [respell]
  | cons l ls ih =>
    rw [respell, List.forall_mem_append]
    refine ⟨fun item hitem => ?_, ih⟩
    obtain ⟨_, -, rfl⟩ := Option.map_eq_some_iff.1 (Option.mem_toList.1 hitem)
    show Blanks [' ']
    decide

theorem filterMap_content?_respell (ls : List Lexeme) :
    ((respell ls).map Prod.fst).filterMap content? = ls.filterMap content? := by
  induction ls with
  | nil => rfl
  | cons l ls ih =>
    rw [respell, List.map_append, List.filterMap_append, ih, List.filterMap_cons]
    cases hcontent : l.content? with
    | none => rfl
    | some content => simp [content?_tidy, hcontent]

theorem spelling_respell (p : Position) (ls : List Lexeme) :
    ((respell ls).flatMap fun item => item.1.spelling ++ item.2) =
      (place p ls).flatMap fun t => t.spelling ++ [' '] := by
  induction ls generalizing p with
  | nil => rfl
  | cons l ls ih =>
    rw [respell, place_cons, List.flatMap_append, List.flatMap_append, ih (p.after l.spelling)]
    cases hcontent : l.content? with
    | none => simp [token?, hcontent]
    | some content =>
      have htoken := token?_of_content? hcontent p
      simp [htoken, spelling_of_token? htoken]

/-- A newline that comes after a comment still does. -/
theorem endsBefore_respell {body : List Char} {ls : List Lexeme} (hls : Separated [] ls)
    (h : (comment body).EndsBefore (ls.flatMap spelling ++ [])) :
    (comment body).EndsBefore ((spread (respell ls)).flatMap spelling ++ []) := by
  cases ls with
  | nil => exact endsBefore_nil _
  | cons next ls =>
    rw [List.flatMap_cons, List.append_assoc] at h
    obtain rfl := eq_newline_of_comment_endsBefore hls.1 h
    exact endsBefore_lineBreak _ _

/-- Single blanks keep the lexemes apart. -/
theorem separated_respell {ls : List Lexeme} (h : Separated [] ls) :
    Separated [] (spread (respell ls)) := by
  induction ls with
  | nil => trivial
  | cons l ls ih =>
    obtain ⟨hl, hends, hls⟩ := h
    cases hcontent : l.content? with
    | none => simpa [respell, hcontent] using ih hls
    | some content =>
      have hrespell : respell (l :: ls) = (l.tidy, [' ']) :: respell ls := by
        simp [respell, hcontent]
      rw [hrespell, spread_cons]
      refine separated_append.2 ⟨?_, ih hls⟩
      refine separated_followedBy hl.tidy (by decide) fun hcomment => ?_
      -- Only a comment takes in the blank, so that it still has to end.
      obtain ⟨body, htidy⟩ := hcomment.resolve_left (by simp)
      rw [← endsBefore_tidy, htidy] at hends
      rw [htidy]
      exact endsBefore_respell hls hends

end Lexeme

/-- The tokens of a text, spelled with single blanks between them, are a layout of them. -/
theorem Token.layout_respelled {text : String} {tokens : List Token}
    (h : tokenize text = .ok tokens) :
    Layout (beforeEof tokens) (respelled tokens).toList := by
  obtain ⟨ls, -, hls, rfl⟩ := tokenize_eq_ok_iff.1 h
  rw [Lexeme.beforeEof_place_append, toList_respelled_append_eof]
  refine layout_iff_exists_lexemes.2
    ⟨Lexeme.spread (Lexeme.respell ls), ?_, Lexeme.separated_respell hls, ?_⟩
  · rw [Lexeme.spelling_spread, Lexeme.spelling_respell]
  · rw [Lexeme.filterMap_content?_spread Lexeme.blanks_of_mem_respell,
      Lexeme.filterMap_content?_respell, Lexeme.map_content_place]

end StructSchema
