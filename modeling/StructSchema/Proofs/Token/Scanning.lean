import StructSchema.Proofs.Text.Moving
import StructSchema.Proofs.Token.Refusal

/-!
# Scanning with a cursor

A text can be scanned with a cursor, one lexeme after the other. The scan counts the lines and keeps
the index at which the line of its place starts, so that the column of a token is the distance from
there. A line break moves this index to the place behind it, and behind a tag of several lines it is
found by going back to the last of the line breaks.

## Key results

- `Text.Cursor.seek_of_unread`, `Text.Cursor.slice_of_unread`: a cursor in front of a known run
- `Scan.step_eq`: a step goes past the lexeme that is read at its place, or fails for want of one
- `Scan.Placed.past`: the invariant of the line and its start, kept by every lexeme
- `Scan.run_start`: the scan of a text gives its tokens, or its error
-/

namespace StructSchema

open StructSchema.Unicode StructSchema.Text

/-! ## A cursor in front of a run -/

namespace Text.Cursor

variable {c : Cursor} {run rest : List Char}

theorem advance_advance (c : Cursor) (n m : Nat) : (c.advance n).advance m = c.advance (n + m) := by
  simp only [advance, List.drop_drop, List.take_add, List.reverse_append, List.append_assoc]

@[simp] theorem slice_advance (c : Cursor) (n i j : Nat) :
    (c.advance n).slice i j = c.slice i j := by
  rw [slice, text_advance, slice]

theorem unread_advance_of_unread (h : c.unread = run ++ rest) :
    (c.advance run.length).unread = rest := by
  rw [advance, h, List.drop_left]

theorem passed_advance_of_unread (h : c.unread = run ++ rest) :
    (c.advance run.length).passed = run.reverse ++ c.passed := by
  rw [advance, h, List.take_left]

theorem position_advance_of_unread (h : c.unread = run ++ rest) :
    (c.advance run.length).position = c.position + run.length := by
  rw [position, passed_advance_of_unread h, List.length_append, List.length_reverse, Nat.add_comm,
    position]

/-- Positions behind the place are those of the run that stands there. -/
theorem slice_of_unread (h : c.unread = run ++ rest) (i : Nat) {j : Nat} (hj : j ≤ run.length) :
    c.slice (c.position + i) (c.position + j) = (run.take j).drop i := by
  have hlength : c.position = c.passed.reverse.length := by simp [position]
  rw [slice, Cursor.text, h, hlength, List.take_length_add_append, List.drop_length_add_append,
    List.take_append_of_le_length hj]

/-- A search goes over the next character and the run behind it that does not have the target. -/
theorem seek_of_unread {first target : Char} (h : c.unread = first :: (run ++ rest))
    (hrun : target ∉ run) (hrest : ∀ d, rest.head? = some d → d = target) :
    c.seek target = (if rest = [] then .error (.missingDelimiter target) else .ok (),
      c.advance (first :: run).length) := by
  have hother : ∀ d ∈ run, (d != target) = true := fun d hd =>
    bne_iff_ne.2 fun heq => hrun (heq ▸ hd)
  obtain ⟨htaken, -⟩ := Lexeme.takeWhile_dropWhile_append hother fun d hd =>
    bne_eq_false_iff_eq.2 (hrest d hd)
  have hunread : (c.advance (first :: run).length).unread = rest := unread_advance_of_unread h
  rw [List.length_cons, Nat.add_comm] at hunread ⊢
  rw [seek, h]
  simp only [htaken, hunread, List.isEmpty_iff]

/-- A search that goes past its target. -/
theorem seekPast_of_unread {first target : Char} (h : c.unread = first :: (run ++ target :: rest))
    (hrun : target ∉ run) :
    c.seekPast target = (.ok (), c.advance (first :: (run ++ [target])).length) := by
  have hseek := seek_of_unread h hrun fun d hd => (Option.some.inj hd).symm
  rw [if_neg (List.cons_ne_nil target rest)] at hseek
  rw [seekPast, hseek]
  simp only [advance_advance, List.length_cons, List.length_append, List.length_nil, Nat.zero_add]

/-- A search without a target. -/
theorem seekPast_of_notMem {first target : Char} (h : c.unread = first :: run)
    (hrun : target ∉ run) : (c.seekPast target).1 = .error (.missingDelimiter target) := by
  have hunread : c.unread = first :: (run ++ []) := by rw [h, List.append_nil]
  have hseek := seek_of_unread hunread hrun nofun
  rw [if_pos rfl] at hseek
  rw [seekPast, hseek]

end Text.Cursor

/-! ## The rule that applies -/

/-- The rule that applies is told by the next character, and by one more behind a slash. -/
theorem Lexeme.read?_cons (c : Char) (cs : List Char) : read? (c :: cs) =
    if c = '\n' then some (.newline, cs)
    else if isWhiteSpace c then some (.blank c, cs)
    else if c = '\x7b' then some (.leftBrace, cs)
    else if c = '\x7d' then some (.rightBrace, cs)
    else if c = '/' ∧ cs.head? = some '/' then some (readComment cs.tail)
    else if c = backtick then readTag? cs
    else readWord? (c :: cs) := by
  split
  · next hc => subst hc; rfl
  split
  · next hbreak hblank => exact read?_eq_some_iff.2 ⟨rfl, ⟨hblank, hbreak⟩, trivial⟩
  split
  · next hc => subst hc; rfl
  split
  · next hc => subst hc; rfl
  split
  · next hc =>
    obtain ⟨rfl, hhead⟩ := hc
    obtain ⟨tail, rfl⟩ := List.head?_eq_some_iff.1 hhead
    rfl
  split
  · next hc => subst hc; rfl
  · next hbreak hblank hleft hright hslashes htick =>
    unfold read?
    split
    · next h => cases h
    · next h => exact absurd (List.cons.inj h).1 hbreak
    · next h => exact absurd (List.cons.inj h).1 hleft
    · next h => exact absurd (List.cons.inj h).1 hright
    · next h =>
      obtain ⟨rfl, rfl⟩ := List.cons.inj h
      exact absurd ⟨rfl, rfl⟩ hslashes
    · next h => exact absurd (List.cons.inj h).1 htick
    · next h =>
      obtain ⟨rfl, rfl⟩ := List.cons.inj h
      rw [if_neg hblank]

/-! ## The scan -/

/-- How far a text has been scanned: the place, the number of its line, the position at which this
    line starts, and the tokens in front of the place, the latest first. -/
structure Scan where
  cursor : Cursor
  line : Nat
  lineStart : Nat
  tokens : List Token

namespace Scan

/-- Nothing has been scanned. -/
def start (text : String) : Scan := ⟨.ofText text, 1, 0, []⟩

/-- The line and the column of the place. -/
def place (s : Scan) : Position := ⟨s.line, s.cursor.position - s.lineStart + 1⟩

/-- Adds a token that starts at the place. The scan goes on at the cursor. -/
def push (s : Scan) (kind : TokenKind) (text : List Char) (cursor : Cursor) : Scan :=
  { s with cursor, tokens := ⟨kind, String.ofList text, s.place⟩ :: s.tokens }

/-- The cursor behind a call that must not fail. -/
def moved {α : Type} (call : Except Error α × Cursor) : Except Error Cursor :=
  call.1.map fun _ => call.2

/-- Reads a line break, behind which a line starts. -/
def newline (s : Scan) : Except Error Scan :=
  (moved s.cursor.next).map fun cursor =>
    { s.push .newline ['\n'] cursor with line := s.line + 1, lineStart := cursor.position }

/-- Reads a blank, which stands for no token. -/
def blank (s : Scan) : Except Error Scan :=
  (moved s.cursor.next).map fun cursor => { s with cursor }

/-- Reads a brace. -/
def brace (s : Scan) (kind : TokenKind) (c : Char) : Except Error Scan :=
  (moved s.cursor.next).map fun cursor => s.push kind [c] cursor

/-- Reads a comment. On the last line it runs to the end of the text. -/
def comment (s : Scan) : Except Error Scan :=
  let close (cursor : Cursor) : Scan :=
    s.push .comment (trim (cursor.slice (s.cursor.position + 2) cursor.position)) cursor
  match s.cursor.seek '\n' with
  | (.ok (), cursor) => .ok (close cursor)
  | (.error (.missingDelimiter _), cursor) => .ok (close cursor)
  | (.error e, _) => .error e

/-- The position behind the last line break in front of a position: goes back character by
    character, but not beyond `stop`. -/
def lineStartBefore (c : Cursor) (stop : Nat) : Nat → Nat
  | 0 => 0
  | back + 1 =>
    if stop < back + 1 ∧ c.slice back (back + 1) ≠ ['\n'] then lineStartBefore c stop back
    else back + 1

/-- Reads a struct tag, which may have line breaks in it. -/
def tag (s : Scan) : Except Error Scan :=
  (moved (s.cursor.seekPast backtick)).map fun cursor =>
    let body := cursor.slice (s.cursor.position + 1) (cursor.position - 1)
    let breaks := body.count '\n'
    let tagged := s.push .tag body cursor
    if 0 < breaks then
      { tagged with
        line := s.line + breaks
        lineStart := lineStartBefore cursor s.cursor.position cursor.position }
    else tagged

/-- The kind of a word, by its characters. -/
def kindOfWord (word : List Char) : TokenKind :=
  if word = "type".toList then .typeKeyword
  else if word = "struct".toList then .structKeyword
  else if word.head? = some '[' ∨ word.head? = some '*' then .modifiedType
  else .ident

/-- Reads a word. Where there is none, the first run that has no white space is refused. -/
def word (s : Scan) : Except Error Scan :=
  match Lexeme.readWord? s.cursor.rest with
  | some (l, _) =>
    .ok (s.push (kindOfWord l.spelling) l.spelling (s.cursor.advance l.spelling.length))
  | none =>
    let run := (s.cursor.rest.dropWhile isWhiteSpace).takeWhile fun c => !isWhiteSpace c
    .error (.unreadable (String.ofList run) s.place)

/-- Reads what starts with the next character `c`. -/
def step (s : Scan) (c : Char) : Except Error Scan :=
  if c = '\n' then s.newline
  else if isWhiteSpace c then s.blank
  else if c = '\x7b' then s.brace .leftBrace c
  else if c = '\x7d' then s.brace .rightBrace c
  else if c = '/' ∧ s.cursor.peekNth? 1 = some '/' then s.comment
  else if c = backtick then s.tag
  else s.word

/-! ## One step -/

/-- The scan behind a lexeme that stands at its place. A line break in the lexeme starts a line. -/
def past (s : Scan) (l : Lexeme) : Scan where
  cursor := s.cursor.advance l.spelling.length
  line := s.line + l.spelling.count '\n'
  lineStart :=
    if '\n' ∈ l.spelling then
      s.cursor.position +
        (l.spelling.length - (l.spelling.reverse.takeWhile (· != '\n')).length)
    else s.lineStart
  tokens := (l.token? s.place).toList ++ s.tokens

/-- What a step does where a lexeme is read, and where none is. -/
def behind (s : Scan) (e : Error) : Option (Lexeme × List Char) → Except Error Scan
  | some (l, _) => .ok (s.past l)
  | none => .error e

variable {s : Scan} {c : Char} {cs rest : List Char}

theorem moved_next (h : s.cursor.unread = c :: rest) :
    moved s.cursor.next = .ok (s.cursor.advance 1) := by
  rw [moved, Cursor.next, h, Cursor.advance, h]
  rfl

/-- A lexeme without line breaks leaves the line and its start as they are. -/
theorem past_eq_of_notMem {l : Lexeme} (h : '\n' ∉ l.spelling) :
    s.past l =
      { s with
        cursor := s.cursor.advance l.spelling.length
        tokens := (l.token? s.place).toList ++ s.tokens } := by
  rw [past, if_neg h, List.count_eq_zero.2 h, Nat.add_zero]

theorem newline_eq (h : s.cursor.unread = '\n' :: rest) : s.newline = .ok (s.past .newline) := by
  have hunread : s.cursor.unread = ['\n'] ++ rest := h
  have hposition : (s.cursor.advance 1).position = s.cursor.position + 1 :=
    Cursor.position_advance_of_unread hunread
  rw [newline, moved_next h]
  simp only [Except.map, hposition]
  rfl

theorem blank_eq (h : s.cursor.unread = c :: rest) (hc : c ≠ '\n') :
    s.blank = .ok (s.past (.blank c)) := by
  rw [blank, moved_next h, past_eq_of_notMem (by simpa [Lexeme.spelling] using hc.symm)]
  rfl

/-- A brace is read as the lexeme that is spelled so. -/
theorem brace_eq {l : Lexeme} {kind : TokenKind} (h : s.cursor.unread = c :: rest) (hc : c ≠ '\n')
    (hspelling : l.spelling = [c]) (hcontent : l.content? = some (kind, [c])) :
    s.brace kind c = .ok (s.past l) := by
  rw [brace, moved_next h, past_eq_of_notMem (by simpa [hspelling] using hc.symm), hspelling,
    Lexeme.token?_of_content? hcontent]
  rfl

theorem comment_eq {body : List Char} (h : s.cursor.unread = '/' :: '/' :: (body ++ rest))
    (hbody : '\n' ∉ body) (hrest : ∀ d, rest.head? = some d → d = '\n') :
    s.comment = .ok (s.past (.comment body)) := by
  have hunread : s.cursor.unread = '/' :: ('/' :: body ++ rest) := h
  have hunread' : s.cursor.unread = ('/' :: '/' :: body) ++ rest := h
  have hseek := Cursor.seek_of_unread hunread (by simpa using hbody) hrest
  have hposition := Cursor.position_advance_of_unread hunread'
  -- Whether the search finds a line break or the end of the text, it stops behind the comment.
  have hbody' : (s.cursor.advance ('/' :: '/' :: body).length).slice (s.cursor.position + 2)
      (s.cursor.advance ('/' :: '/' :: body).length).position = body := by
    rw [Cursor.slice_advance, hposition, Cursor.slice_of_unread hunread' 2 (Nat.le_refl _),
      List.take_length]
    rfl
  rw [comment, hseek, past_eq_of_notMem (by simpa [Lexeme.spelling] using hbody)]
  by_cases hnil : rest = []
  · rw [if_pos hnil]
    simp only [hbody']
    rfl
  · rw [if_neg hnil]
    simp only [hbody']
    rfl

theorem lineStartBefore_advance (c : Cursor) (n stop i : Nat) :
    lineStartBefore (c.advance n) stop i = lineStartBefore c stop i := by
  induction i with
  | zero => rfl
  | succ i ih => rw [lineStartBefore, lineStartBefore, Cursor.slice_advance, ih]

/-- Going back over a run leads behind the last of its line breaks, or to its front. -/
theorem lineStartBefore_of_unread {c : Cursor} {run : List Char} (h : c.unread = run ++ rest)
    {n : Nat} (hn : n ≤ run.length) : lineStartBefore c c.position (c.position + n) =
      c.position + (n - ((run.take n).reverse.takeWhile (· != '\n')).length) := by
  induction n with
  | zero =>
    rw [Nat.add_zero, Nat.zero_sub, Nat.add_zero]
    cases c.position with
    | zero => rfl
    | succ start => rw [lineStartBefore, if_neg (by omega)]
  | succ n ih =>
    have hlast : run.take (n + 1) = run.take n ++ [run[n]] := List.take_succ_eq_append_getElem hn
    have hslice : c.slice (c.position + n) (c.position + (n + 1)) = [run[n]] := by
      rw [Cursor.slice_of_unread h n hn, hlast, List.drop_append_of_le_length (by simp; omega)]
      simp
    rw [← Nat.add_assoc, lineStartBefore, Nat.add_assoc, hslice, hlast, List.reverse_append]
    by_cases hbreak : run[n] = '\n'
    · simp [hbreak]
    · rw [if_pos ⟨by omega, by simpa using hbreak⟩, ih (Nat.le_of_succ_le hn)]
      simp [hbreak]

theorem tag_eq_of_closed {body : List Char} (hbody : backtick ∉ body)
    (h : s.cursor.unread = (Lexeme.tag body).spelling ++ rest) :
    s.tag = .ok (s.past (.tag body)) := by
  have hunread : s.cursor.unread = backtick :: (body ++ backtick :: rest) := by
    rw [h]
    simp [Lexeme.spelling]
  have hseek : s.cursor.seekPast backtick =
      (.ok (), s.cursor.advance (Lexeme.tag body).spelling.length) :=
    Cursor.seekPast_of_unread hunread hbody
  have hposition := Cursor.position_advance_of_unread h
  have hslice : (s.cursor.advance (Lexeme.tag body).spelling.length).slice (s.cursor.position + 1)
      (s.cursor.position + (Lexeme.tag body).spelling.length - 1) = body := by
    have hlast : s.cursor.position + (Lexeme.tag body).spelling.length - 1 =
        s.cursor.position + (body.length + 1) := by
      simp [Lexeme.spelling]
    rw [hlast, Cursor.slice_advance, Cursor.slice_of_unread h 1 (by simp [Lexeme.spelling])]
    simp [Lexeme.spelling]
  have hstart := lineStartBefore_of_unread h (Nat.le_refl _)
  rw [List.take_length] at hstart
  have hcount : (Lexeme.tag body).spelling.count '\n' = body.count '\n' := by
    simp [Lexeme.spelling, backtick]
  rw [tag, moved, hseek]
  simp only [Except.map, hposition, hslice, lineStartBefore_advance, hstart]
  by_cases hbreaks : '\n' ∈ body
  · -- The line behind the tag starts behind the last of its line breaks.
    have hmem : '\n' ∈ (Lexeme.tag body).spelling := by simp [Lexeme.spelling, hbreaks]
    rw [if_pos (List.count_pos_iff.2 hbreaks), past, if_pos hmem, hcount]
    rfl
  · have hmem : '\n' ∉ (Lexeme.tag body).spelling := by simp [Lexeme.spelling, backtick, hbreaks]
    rw [List.count_eq_zero.2 hbreaks, if_neg (Nat.lt_irrefl 0), past_eq_of_notMem hmem]
    rfl

theorem tag_eq (h : s.cursor.unread = backtick :: cs) :
    s.tag = s.behind (.missingDelimiter backtick) (Lexeme.readTag? cs) := by
  cases hread : Lexeme.readTag? cs with
  | none =>
    have hcs : backtick ∉ cs := Lexeme.read?_backtick_eq_none_iff.1 hread
    rw [tag, moved, Cursor.seekPast_of_notMem h hcs]
    rfl
  | some read =>
    obtain ⟨l, rest⟩ := read
    obtain ⟨body, rfl, hwhole, hbody⟩ := Lexeme.readTag?_eq_some_iff.1 hread
    exact tag_eq_of_closed hbody (h.trans hwhole.symm)

/-- The kind of a word is that of its modifiers and its name. -/
theorem kindOfWord_eq {modifiers : TypeModifiers} {name : List Char}
    (h : name.head?.any isWordStart = true) :
    kindOfWord (modifiers.spelling ++ name) = Lexeme.wordKind modifiers name := by
  obtain ⟨isSlice, isPointer⟩ := modifiers
  cases isSlice with
  | true => simp [kindOfWord, Lexeme.wordKind, TypeModifiers.spelling]
  | false =>
    cases isPointer with
    | true => simp [kindOfWord, Lexeme.wordKind, TypeModifiers.spelling]
    | false =>
      -- No name starts with a bracket or a star.
      have hother {c : Char} (hc : isWordStart c = false) : name.head? ≠ some c := by
        intro hhead
        simp [hhead, hc] at h
      have hmodified : ¬ (name.head? = some '[' ∨ name.head? = some '*') :=
        not_or.2 ⟨hother (by decide +kernel), hother (by decide +kernel)⟩
      show kindOfWord name = _
      rw [kindOfWord, if_neg hmodified]
      rfl

theorem word_eq (h : s.cursor.unread = c :: cs) (hc : isWhiteSpace c = false) :
    s.word = s.behind
      (.unreadable (String.ofList ((c :: cs).takeWhile fun c => !isWhiteSpace c)) s.place)
      (Lexeme.readWord? (c :: cs)) := by
  have hrest : s.cursor.rest = c :: cs := h
  rw [word, hrest]
  cases hread : Lexeme.readWord? (c :: cs) with
  | none =>
    simp only [List.dropWhile_cons_of_neg (by simp [hc] : ¬ isWhiteSpace c = true)]
    rfl
  | some read =>
    obtain ⟨l, rest⟩ := read
    obtain ⟨modifiers, name, rfl, -, hl, -⟩ := Lexeme.readWord?_eq_some_iff.1 hread
    have hbreak : '\n' ∉ (Lexeme.word modifiers name).spelling := Lexeme.lineBreak_notMem_word hl.2
    show Except.ok _ = Except.ok _
    rw [past_eq_of_notMem hbreak, Lexeme.spelling, kindOfWord_eq hl.1]
    rfl

/-- A step goes past the lexeme that is read at the place, or fails for want of one. -/
theorem step_eq (h : s.cursor.unread = c :: cs) :
    s.step c = s.behind (lexicalError s.place (c :: cs)) (Lexeme.read? (c :: cs)) := by
  rw [step, Lexeme.read?_cons]
  by_cases hbreak : c = '\n'
  · subst hbreak
    exact newline_eq h
  rw [if_neg hbreak, if_neg hbreak]
  by_cases hblank : isWhiteSpace c = true
  · rw [if_pos hblank, if_pos hblank]
    exact blank_eq h hbreak
  rw [if_neg hblank, if_neg hblank]
  by_cases hleft : c = '\x7b'
  · subst hleft
    exact brace_eq h hbreak rfl rfl
  rw [if_neg hleft, if_neg hleft]
  by_cases hright : c = '\x7d'
  · subst hright
    exact brace_eq h hbreak rfl rfl
  rw [if_neg hright, if_neg hright]
  have hpeek : s.cursor.peekNth? 1 = cs.head? := by
    rw [Cursor.peekNth?, h, List.drop_one, List.tail_cons]
  rw [hpeek]
  by_cases hslashes : c = '/' ∧ cs.head? = some '/'
  · rw [if_pos hslashes, if_pos hslashes]
    obtain ⟨rfl, hhead⟩ := hslashes
    obtain ⟨tail, rfl⟩ := List.head?_eq_some_iff.1 hhead
    cases hread : Lexeme.readComment tail with
    | mk l rest =>
      obtain ⟨body, rfl, rfl, hbody, hrest⟩ := Lexeme.readComment_eq_iff.1 hread
      rw [List.tail_cons, hread]
      exact comment_eq h hbody hrest
  rw [if_neg hslashes, if_neg hslashes]
  by_cases htick : c = backtick
  · subst htick
    exact tag_eq h
  · rw [if_neg htick, if_neg htick, lexicalError, if_neg (by simpa using htick)]
    exact word_eq h (Bool.eq_false_iff.2 hblank)

/-- A step that goes past a lexeme. -/
theorem step_of_read? {l : Lexeme} (h : s.cursor.unread = c :: cs)
    (hread : Lexeme.read? (c :: cs) = some (l, rest)) : s.step c = .ok (s.past l) := by
  rw [step_eq h, hread]
  rfl

/-- Behind a lexeme that is read stands what it leaves. -/
theorem unread_past {l : Lexeme} (hread : Lexeme.read? s.cursor.unread = some (l, rest)) :
    (s.past l).cursor.unread = rest :=
  Cursor.unread_advance_of_unread (Lexeme.spelling_append_of_read? hread).symm

/-- A step that succeeds leaves less to scan. -/
theorem length_lt_of_step {s' : Scan} (hc : s.cursor.peek? = some c) (hstep : s.step c = .ok s') :
    s'.cursor.unread.length < s.cursor.unread.length := by
  obtain ⟨cs, hunread⟩ := List.head?_eq_some_iff.1 hc
  rw [step_eq hunread, ← hunread] at hstep
  cases hread : Lexeme.read? s.cursor.unread with
  | none => rw [hread] at hstep; cases hstep
  | some read =>
    obtain ⟨l, rest⟩ := read
    rw [hread] at hstep
    obtain rfl := Except.ok.inj hstep
    rw [unread_past hread]
    exact Lexeme.length_lt_of_read? hread

/-! ## The loop -/

/-- Makes steps up to the end of the text, which has a token of its own. -/
def run (s : Scan) : Except Error (List Token) :=
  match _hc : s.cursor.peek? with
  | none => .ok (s.push .eof [] s.cursor).tokens.reverse
  | some c =>
    match _hstep : s.step c with
    | .error e => .error e
    | .ok s' => s'.run
termination_by s.cursor.unread.length
decreasing_by exact length_lt_of_step _hc _hstep

theorem run_of_unread_eq_nil (h : s.cursor.unread = []) :
    s.run = .ok (s.tokens.reverse ++ [⟨.eof, "", s.place⟩]) := by
  have hend : s.cursor.peek? = none := by rw [Cursor.peek?, h, List.head?_nil]
  rw [run]
  split
  · exact congrArg Except.ok List.reverse_cons
  · next hc => rw [hend] at hc; cases hc

/-- One step of the loop. -/
theorem run_of_unread_eq_cons (h : s.cursor.unread = c :: cs) : s.run = (s.step c).bind run := by
  have hnext : s.cursor.peek? = some c := by rw [Cursor.peek?, h, List.head?_cons]
  rw [run]
  split
  · next hc => rw [hnext] at hc; cases hc
  · next c' hc =>
    obtain rfl := Option.some.inj (hnext.symm.trans hc)
    split
    · next hstep => rw [hstep]; rfl
    · next hstep => rw [hstep]; rfl

theorem takeWhile_append_of_mem {d : Char} {front : List Char} (h : d ∈ front) (back : List Char) :
    (front ++ back).takeWhile (· != d) = front.takeWhile (· != d) := by
  obtain ⟨run, tail, rfl, hrun⟩ := List.eq_append_cons_of_mem h
  have hother : ∀ e ∈ run, (e != d) = true := fun e he => bne_iff_ne.2 fun heq => hrun (heq ▸ he)
  rw [List.append_assoc, List.takeWhile_append_of_pos hother, List.takeWhile_append_of_pos hother]
  simp

/-- The line and its start are those of the place: as many line breaks stand in front as lines have
    ended, and none stands between the start of the line and the place. -/
structure Placed (s : Scan) : Prop where
  line_eq : s.line = 1 + s.cursor.passed.count '\n'
  lineStart_add : s.lineStart + (s.cursor.passed.takeWhile (· != '\n')).length = s.cursor.position

theorem placed_start (text : String) : (start text).Placed := ⟨rfl, rfl⟩

namespace Placed

/-- The line and the column are those that are counted in the text. -/
theorem place_eq (h : s.Placed) : s.place = Position.start.after s.cursor.passed.reverse := by
  have hcolumn : s.cursor.position - s.lineStart =
      (s.cursor.passed.takeWhile (· != '\n')).length := by
    rw [← h.lineStart_add]
    omega
  rw [Position.start_after_eq, List.reverse_reverse, List.count_reverse, place, h.line_eq, hcolumn,
    Nat.add_comm (List.length _)]

/-- Every lexeme keeps the line and its start right. -/
theorem past {l : Lexeme} (h : s.Placed) (hunread : s.cursor.unread = l.spelling ++ rest) :
    (s.past l).Placed := by
  have hpassed : (s.past l).cursor.passed = l.spelling.reverse ++ s.cursor.passed :=
    Cursor.passed_advance_of_unread hunread
  have hposition : (s.past l).cursor.position = s.cursor.position + l.spelling.length :=
    Cursor.position_advance_of_unread hunread
  constructor
  · rw [hpassed, List.count_append, List.count_reverse]
    show s.line + _ = _
    rw [h.line_eq]
    omega
  · have hstart := h.lineStart_add
    rw [hpassed, hposition]
    by_cases hbreak : '\n' ∈ l.spelling
    · -- The line starts in the lexeme.
      have hline : (s.past l).lineStart = s.cursor.position +
          (l.spelling.length - (l.spelling.reverse.takeWhile (· != '\n')).length) := if_pos hbreak
      have hle := (List.takeWhile_prefix (l := l.spelling.reverse) (· != '\n')).length_le
      rw [List.length_reverse] at hle
      rw [takeWhile_append_of_mem (List.mem_reverse.2 hbreak), hline]
      omega
    · -- The lexeme is a part of the line.
      have hline : (s.past l).lineStart = s.lineStart := if_neg hbreak
      have hother : ∀ d ∈ l.spelling.reverse, (d != '\n') = true := fun d hd =>
        bne_iff_ne.2 fun heq => hbreak (heq ▸ List.mem_reverse.1 hd)
      rw [List.takeWhile_append_of_pos hother, List.length_append, List.length_reverse, hline]
      omega

/-- The place behind a lexeme is the place after its spelling. -/
theorem place_past {l : Lexeme} (h : s.Placed) (hunread : s.cursor.unread = l.spelling ++ rest) :
    (s.past l).place = s.place.after l.spelling := by
  have hpassed : (s.past l).cursor.passed = l.spelling.reverse ++ s.cursor.passed :=
    Cursor.passed_advance_of_unread hunread
  rw [(h.past hunread).place_eq, h.place_eq, hpassed, List.reverse_append, List.reverse_reverse,
    Position.after_append]

end Placed

/-- The scan from a place gives the tokens of the lexemes behind it, or the error of what is left
    over, in addition to the tokens in front. -/
theorem run_eq {ls : List Lexeme} (h : s.Placed)
    (hcut : Lexeme.split s.cursor.unread = (ls, rest)) :
    s.run = if rest = [] then
        .ok (s.tokens.reverse ++
          (Lexeme.place s.place ls ++ [⟨.eof, "", Lexeme.placeAfter s.place ls⟩]))
      else .error (lexicalError (Lexeme.placeAfter s.place ls) rest) := by
  induction hunread : s.cursor.unread using Lexeme.read?_induction generalizing s ls with
  | stuck cs hread =>
    rw [hunread, Lexeme.split_of_read?_eq_none hread] at hcut
    obtain ⟨rfl, rfl⟩ := Prod.mk.inj hcut
    cases cs with
    | nil =>
      rw [run_of_unread_eq_nil hunread]
      rfl
    | cons c cs =>
      rw [run_of_unread_eq_cons hunread, step_eq hunread, hread, if_neg (List.cons_ne_nil c cs)]
      rfl
  | step cs l tail hread ih =>
    subst hunread
    have hwhole := (Lexeme.spelling_append_of_read? hread).symm
    rw [Lexeme.split_of_read? hread] at hcut
    obtain ⟨rfl, hrest⟩ := Prod.mk.inj hcut
    have hnext : s.run = (s.past l).run := by
      cases hcs : s.cursor.unread with
      | nil => rw [hcs] at hread; cases hread
      | cons c cs =>
        rw [hcs] at hread
        rw [run_of_unread_eq_cons hcs, step_of_read? hcs hread]
        rfl
    have htail : Lexeme.split (s.past l).cursor.unread = ((Lexeme.split tail).1, rest) := by
      rw [unread_past hread, ← hrest]
    -- The token of the lexeme is in front of what the rest of the scan gives.
    have htokens : (s.past l).tokens.reverse = s.tokens.reverse ++ (l.token? s.place).toList := by
      show ((l.token? s.place).toList ++ s.tokens).reverse = _
      rw [List.reverse_append]
      cases l.token? s.place <;> rfl
    rw [hnext, ih (h.past hwhole) htail (unread_past hread), h.place_past hwhole,
      Lexeme.place_cons, htokens, List.append_assoc, List.append_assoc]
    rfl

/-- The scan of a text gives its tokens, or its error. -/
theorem run_start (text : String) : (start text).run = tokenize text := by
  rcases hcut : Lexeme.split text.toList with ⟨ls, rest⟩
  rw [tokenize_of_split hcut]
  exact run_eq (placed_start text) hcut

end Scan

end StructSchema
