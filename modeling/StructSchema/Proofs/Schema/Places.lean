import Mathlib.Data.List.Induction
import StructSchema.Proofs.Schema.Parsing

/-!
# Where tokens end

A list of tokens ends outside of the declarations, in the header of one or in the body of one. The
place is told from the tokens alone, by the last of them that open and close something, and it is
what the phase of the parser says when it has read them.

## Key results

- `Grammar.At`: where a list of tokens ends
- `Parser.leadsTo_step`: a token leads to the next place, or it is unexpected
- `Parser.finish_eq`: how tokens are judged that end in a place
- `Parser.at_iff_place`: where a list ends, by the phase that it leads to
-/

namespace StructSchema

open StructSchema.Grammar

namespace Grammar

/-! ## Where a list of tokens ends -/

/-- The tokens are declarations from first to last. -/
def Complete (ts : List Token) : Prop := ∃ trees, Program ts trees

/-- The token `t` of the kind stands behind tokens of which `before` holds, and no token of the kind
    `stop` stands behind it. -/
def Since (before : List Token → Prop) (t : Token) (kind stop : TokenKind) (ts : List Token) :
    Prop :=
  ∃ front rest, before front ∧ t.kind = kind ∧ (∀ u ∈ rest, u.kind ≠ stop) ∧ ts = front ++ t :: rest

/-- The last declaration is open, and its name is still to come. -/
def BeforeName (ts : List Token) : Prop := ∃ keyword, Since Complete keyword .typeKeyword .ident ts

/-- The last declaration is open, and its opening brace is still to come behind its name. -/
def BeforeBrace (name : Token) (ts : List Token) : Prop :=
  Since BeforeName name .ident .leftBrace ts

/-- The tokens end in the header of a declaration: behind its word `type` and before its opening
    brace. -/
def InHeader (ts : List Token) : Prop := BeforeName ts ∨ ∃ name, BeforeBrace name ts

/-- The tokens end in the body of the declaration with the name: behind its opening brace and before
    its closing one. -/
def InBody (name : Token) (ts : List Token) : Prop :=
  ∃ opening, Since (BeforeBrace name) opening .leftBrace .rightBrace ts

/-- The places that a list of tokens may end in. -/
inductive Place where
  | outside
  | beforeName
  | beforeBrace (name : Token)
  | body (name : Token)
deriving DecidableEq, Repr

/-- The tokens end in the place. -/
def At : Place → List Token → Prop
  | .outside => Complete
  | .beforeName => BeforeName
  | .beforeBrace name => BeforeBrace name
  | .body name => InBody name

/-- The place behind one more token, if that can stand there. -/
def Place.next : Place → Token → Place
  | .outside, t => if t.kind = .typeKeyword then .beforeName else .outside
  | .beforeName, t => if t.kind = .ident then .beforeBrace t else .beforeName
  | .beforeBrace name, t => if t.kind = .leftBrace then .body name else .beforeBrace name
  | .body name, t => if t.kind = .rightBrace then .outside else .body name

section

variable {before : List Token → Prop} {t u : Token} {kind stop : TokenKind} {ts : List Token}

theorem since_append_singleton (hbefore : before ts) (ht : t.kind = kind) :
    Since before t kind stop (ts ++ [t]) :=
  ⟨ts, [], hbefore, ht, List.forall_mem_nil _, rfl⟩

theorem Since.append_singleton (h : Since before t kind stop ts) (hu : u.kind ≠ stop) :
    Since before t kind stop (ts ++ [u]) := by
  obtain ⟨front, rest, hbefore, ht, hrest, rfl⟩ := h
  refine ⟨front, rest ++ [u], hbefore, ht, ?_, by simp⟩
  rw [List.forall_mem_append, List.forall_mem_singleton]
  exact ⟨hrest, hu⟩

end

/-- One more token leads from place to place, as long as no declaration is closed. -/
theorem At.append_singleton {p : Place} {ts : List Token} {t : Token} (h : At p ts)
    (hopen : p.next t ≠ .outside) : At (p.next t) (ts ++ [t]) := by
  cases p with
  | outside =>
    by_cases ht : t.kind = .typeKeyword
    · simp only [Place.next, if_pos ht]
      exact ⟨t, since_append_singleton h ht⟩
    · exact absurd (if_neg ht) hopen
  | beforeName =>
    by_cases ht : t.kind = .ident
    · simp only [Place.next, if_pos ht]
      exact since_append_singleton h ht
    · simp only [Place.next, if_neg ht]
      obtain ⟨keyword, h⟩ := h
      exact ⟨keyword, h.append_singleton ht⟩
  | beforeBrace name =>
    by_cases ht : t.kind = .leftBrace
    · simp only [Place.next, if_pos ht]
      exact ⟨t, since_append_singleton h ht⟩
    · simp only [Place.next, if_neg ht]
      exact Since.append_singleton h ht
  | body name =>
    by_cases ht : t.kind = .rightBrace
    · exact absurd (if_pos ht) hopen
    · simp only [Place.next, if_neg ht]
      obtain ⟨opening, h⟩ := h
      exact ⟨opening, h.append_singleton ht⟩

end Grammar

namespace Parser

/-! ## Places of the parser -/

/-- The place of the tokens that lead to the phase. -/
def Phase.place : Phase → Place
  | .between => .outside
  | .afterType => .beforeName
  | .afterName name | .afterStruct name => .beforeBrace name
  | .body name _ | .fieldNamed name _ _ | .fieldTyped name _ _ | .fieldTagged name _ _ => .body name

/-! ### Judging a place -/

/-- How a state is judged depends on its place. -/
theorem finish_eq (s : State) :
    finish s =
      match s.phase.place with
      | .outside => .ok s.done.reverse
      | .beforeName | .beforeBrace _ => .error .noMoreTokens
      | .body name => .error (.unterminatedBlock name) := by
  obtain ⟨done, phase⟩ := s
  cases phase <;> rfl

theorem exists_finish_eq_ok_iff {s : State} :
    (∃ structs, finish s = .ok structs) ↔ s.phase.place = .outside := by
  rw [finish_eq]
  cases s.phase.place <;> simp

theorem finish_eq_noMoreTokens_iff {s : State} :
    finish s = .error .noMoreTokens ↔
      s.phase.place = .beforeName ∨ ∃ name, s.phase.place = .beforeBrace name := by
  rw [finish_eq]
  cases s.phase.place <;> simp

theorem finish_eq_unterminatedBlock_iff {s : State} {name : Token} :
    finish s = .error (.unterminatedBlock name) ↔ s.phase.place = .body name := by
  rw [finish_eq]
  cases s.phase.place <;> simp

theorem finish_ne_unexpectedToken (s : State) (expected : String) (t : Token) :
    finish s ≠ .error (.unexpectedToken expected t) := by
  rw [finish_eq]
  cases s.phase.place <;> simp

/-! ### Steps between places -/

/-- The outcome of a step on the token: it leads to the place, or the token is unexpected. -/
def LeadsTo (p : Place) (t : Token) : Except Error State → Prop
  | .ok s' => s'.phase.place = p
  | .error e => ∃ expected, e = .unexpectedToken expected t

/-- Newlines and comments lead to no other place. -/
theorem next_of_isTrivia {t : Token} (h : t.kind.isTrivia = true) (p : Place) : p.next t = p := by
  have other {kind : TokenKind} (hkind : kind.isTrivia = false) : t.kind ≠ kind := by
    intro heq
    rw [heq, hkind] at h
    cases h
  cases p with
  | outside => exact if_neg (other rfl)
  | beforeName => exact if_neg (other rfl)
  | beforeBrace name => exact if_neg (other rfl)
  | body name => exact if_neg (other rfl)

theorem leadsTo_stepTo {s : State} {kinds : List TokenKind} {expected : String} {t : Token}
    {next : Phase} (hnext : t.kind ∈ kinds → next.place = s.phase.place.next t) :
    LeadsTo (s.phase.place.next t) t (stepTo s kinds expected t next) := by
  unfold stepTo
  split
  · next htrivia => exact (next_of_isTrivia htrivia _).symm
  · split
    · next hkind => exact hnext hkind
    · exact ⟨expected, rfl⟩

theorem leadsTo_stepBody (done : List Struct) (name t : Token) (fields : List Field) :
    LeadsTo (Place.next (.body name) t) t (stepBody done name fields t) := by
  unfold stepBody
  split
  · next htrivia => exact (next_of_isTrivia htrivia _).symm
  · split
    · next hkind => exact (if_pos hkind).symm
    · next hkind => exact (if_neg (by simp [hkind])).symm
    · exact ⟨_, rfl⟩

/-- A token leads to the next place, or it is unexpected. -/
theorem leadsTo_step (s : State) (t : Token) : LeadsTo (s.phase.place.next t) t (step s t) := by
  obtain ⟨done, phase⟩ := s
  cases phase with
  | between => exact leadsTo_stepTo fun hkind => (if_pos (List.mem_singleton.1 hkind)).symm
  | afterType => exact leadsTo_stepTo fun hkind => (if_pos (List.mem_singleton.1 hkind)).symm
  | afterName name =>
    -- The word `struct` does not open the struct yet.
    exact leadsTo_stepTo fun hkind => (if_neg (by simp [List.mem_singleton.1 hkind])).symm
  | afterStruct name => exact leadsTo_stepTo fun hkind => (if_pos (List.mem_singleton.1 hkind)).symm
  | fieldNamed name fields fieldName =>
    -- A type is no closing brace, so the struct stays open.
    refine leadsTo_stepTo fun hkind => (if_neg fun hclosing => ?_).symm
    simp [hclosing] at hkind
  | body name fields => exact leadsTo_stepBody done name t fields
  | fieldTyped name fields field =>
    -- A tag and a comment belong to the field, all else is read as between two fields.
    simp only [step]
    split
    · next hkind => exact (if_neg (by simp [hkind])).symm
    · next hkind => exact (if_neg (by simp [hkind])).symm
    · exact leadsTo_stepBody done name t (field :: fields)
  | fieldTagged name fields field =>
    simp only [step]
    split
    · next hkind => exact (if_neg (by simp [hkind])).symm
    · exact leadsTo_stepBody done name t (field :: fields)

/-- A token that is read leads to the next place. -/
theorem place_step {s s' : State} {t : Token} (h : step s t = .ok s') :
    s'.phase.place = s.phase.place.next t := by
  have hstep := leadsTo_step s t
  rwa [h] at hstep

/-- A token that is not read is an unexpected one. -/
theorem step_eq_error {s : State} {t : Token} {e : Error} (h : step s t = .error e) :
    ∃ expected, e = .unexpectedToken expected t := by
  have hstep := leadsTo_step s t
  rwa [h] at hstep

/-- Newlines and comments are read in every phase. -/
theorem exists_step_eq_ok_of_isTrivia (s : State) {t : Token} (ht : t.kind.isTrivia = true) :
    ∃ s', step s t = .ok s' := by
  obtain ⟨done, phase⟩ := s
  -- What does not belong to a field that is being read is read as between two fields.
  cases phase with
  | fieldTyped name fields field =>
    simp only [step]
    split
    · exact ⟨_, rfl⟩
    · exact ⟨_, rfl⟩
    · exact ⟨_, if_pos ht⟩
  | fieldTagged name fields field =>
    simp only [step]
    split
    · exact ⟨_, rfl⟩
    · exact ⟨_, if_pos ht⟩
  | _ => exact ⟨_, if_pos ht⟩

/-! ### Runs between places -/

/-- Tokens that are read lead from place to place. -/
theorem place_run {s s' : State} {ts : List Token} (h : run s ts = .ok s') :
    s'.phase.place = ts.foldl Place.next s.phase.place := by
  induction ts generalizing s with
  | nil =>
    obtain rfl := Except.ok.inj h
    rfl
  | cons t ts ih =>
    rw [run] at h
    cases hstep : step s t with
    | error e => rw [hstep] at h; cases h
    | ok next =>
      rw [hstep] at h
      rw [List.foldl_cons, ← place_step hstep, ih h]

/-- The tokens are read to a state between declarations exactly if they are declarations. -/
theorem complete_iff_place {s : State} {ts : List Token} (h : run .initial ts = .ok s) :
    Complete ts ↔ s.phase.place = .outside := by
  have hparse : parseFrom .initial ts = finish s := by
    rw [parseFrom, h]
    rfl
  rw [← exists_finish_eq_ok_iff, ← hparse]
  constructor
  · intro hcomplete
    obtain ⟨trees, hprogram⟩ := hcomplete
    exact ⟨_, parseFrom_initial_eq_ok_iff.2 ⟨trees, hprogram, rfl⟩⟩
  · intro hok
    obtain ⟨structs, hok⟩ := hok
    obtain ⟨trees, hprogram, -⟩ := parseFrom_initial_eq_ok_iff.1 hok
    exact ⟨trees, hprogram⟩

/-- Tokens that are read end in the place of the phase that they lead to. -/
theorem at_place {s : State} {ts : List Token} (h : run .initial ts = .ok s) :
    At s.phase.place ts := by
  -- By induction on the last token. Inside a declaration it leads on from the place before it;
  -- where a declaration ends, the place does not tell what was read, and the grammar does.
  induction ts using List.reverseRecOn generalizing s with
  | nil =>
    obtain rfl := Except.ok.inj h
    exact (complete_iff_place h).2 rfl
  | append_singleton ts t ih =>
    by_cases hplace : s.phase.place = .outside
    · rw [hplace]
      exact (complete_iff_place h).2 hplace
    · obtain ⟨mid, hrun, hstep⟩ := run_append_eq_ok_iff.1 h
      rw [run_singleton] at hstep
      rw [place_step hstep] at hplace ⊢
      exact (ih hrun).append_singleton hplace

theorem foldl_next_eq_self {p : Place} {ts : List Token} (h : ∀ t ∈ ts, p.next t = p) :
    ts.foldl Place.next p = p := by
  induction ts with
  | nil => rfl
  | cons t ts ih =>
    obtain ⟨ht, hts⟩ := List.forall_mem_cons.1 h
    rw [List.foldl_cons, ht, ih hts]

/-- Tokens that are read lead to a place if one of them does, before which all lead to the place in
    front of it and behind which none leads away. -/
theorem place_of_since {before : List Token → Prop} {t : Token} {kind stop : TokenKind}
    {ts : List Token} {s : State} {p q : Place} (hrun : run .initial ts = .ok s)
    (h : Since before t kind stop ts)
    (hbefore : ∀ {front s}, run .initial front = .ok s → before front → s.phase.place = p)
    (hnext : t.kind = kind → p.next t = q) (hstay : ∀ u, u.kind ≠ stop → q.next u = q) :
    s.phase.place = q := by
  obtain ⟨front, rest, hfront, ht, hrest, rfl⟩ := h
  obtain ⟨mid, hmid, hback⟩ := run_append_eq_ok_iff.1 hrun
  rw [place_run hback, List.foldl_cons, hbefore hmid hfront, hnext ht]
  -- Behind the token nothing leads away from its place.
  exact foldl_next_eq_self fun u hu => hstay u (hrest u hu)

theorem place_of_beforeName {s : State} {ts : List Token} (hrun : run .initial ts = .ok s)
    (h : BeforeName ts) : s.phase.place = .beforeName := by
  obtain ⟨keyword, h⟩ := h
  exact place_of_since hrun h (fun hrun => (complete_iff_place hrun).1) (fun ht => if_pos ht)
    fun _ hu => if_neg hu

theorem place_of_beforeBrace {s : State} {ts : List Token} {name : Token}
    (hrun : run .initial ts = .ok s) (h : BeforeBrace name ts) :
    s.phase.place = .beforeBrace name :=
  place_of_since hrun h place_of_beforeName (fun ht => if_pos ht) fun _ hu => if_neg hu

theorem place_of_inBody {s : State} {ts : List Token} {name : Token}
    (hrun : run .initial ts = .ok s) (h : InBody name ts) : s.phase.place = .body name := by
  obtain ⟨opening, h⟩ := h
  exact place_of_since hrun h place_of_beforeBrace (fun ht => if_pos ht) fun _ hu => if_neg hu

/-- Tokens that are read end where the parser is. -/
theorem at_iff_place {s : State} {ts : List Token} (hrun : run .initial ts = .ok s) {p : Place} :
    At p ts ↔ s.phase.place = p := by
  constructor
  · intro h
    cases p with
    | outside => exact (complete_iff_place hrun).1 h
    | beforeName => exact place_of_beforeName hrun h
    | beforeBrace name => exact place_of_beforeBrace hrun h
    | body name => exact place_of_inBody hrun h
  · intro h
    exact h ▸ at_place hrun

end Parser

end StructSchema
