import Mathlib.Data.List.DropRight
import StructSchema.Proofs.Schema.Grammar
import StructSchema.Token.Stream

/-!
# Delivery of tokens

Whatever calls are made to a stream, in any order: what they pass over without delivering it are
newlines and comments, what they deliver comes in the order of the tokens and each token once, and
the end of the text is never passed. Looking ahead changes nothing for the calls that pass over
newlines and comments themselves.

## Key results

- `Stream.next_cases`, `Stream.exists_run_eq`: what a call can do
- `Stream.Accounted`: tokens with their indices, all delivered but for newlines and comments
- `Stream.exists_accounted`: what a run of calls has passed is accounted for
- `Stream.next_eq_noMoreTokens_iff`, `Stream.read_eq_noMoreTokens_of_mem_answers`: when there is
  nothing more to read
- `Stream.answersUnmarked_withLookahead`: further calls that look ahead change no answer
- `Stream.calls_deliver_in_order`: all of this for any tokens and any calls
-/

namespace StructSchema.Stream

open StructSchema.Grammar

/-! ## Calls -/

/-- A call to a stream. -/
inductive Call where
  | hasNext
  | next
  | take (kind : TokenKind)
  | expect (kinds : List TokenKind) (expected : String)
deriving DecidableEq, Repr

/-- What a call gives back. -/
inductive Answer where
  | more (hasMore : Bool)
  | taken (t? : Option Token)
  | read (result : Except Error Token)

/-- The token that is given back, be it in the error that refuses it. -/
def Answer.delivered? : Answer → Option Token
  | .more _ => none
  | .taken t? => t?
  | .read (.ok t) => some t
  | .read (.error (.unexpectedToken _ t)) => some t
  | .read (.error _) => none

/-- Makes a call: what it gives back, and the stream behind it. -/
def Call.run (s : Stream) : Call → Answer × Stream
  | .hasNext => (.more s.hasNext.1, s.hasNext.2)
  | .next => (.read s.next.1, s.next.2)
  | .take kind => (.taken (s.take? kind).1, (s.take? kind).2)
  | .expect kinds expected => (.read (s.expect kinds expected).1, (s.expect kinds expected).2)

/-- Makes calls one after the other: what each gives back, and the stream behind it. -/
def answers (s : Stream) : List Call → List (Answer × Stream)
  | [] => []
  | call :: calls => call.run s :: answers (call.run s).2 calls

/-- The stream behind some calls. -/
def after (s : Stream) : List Call → Stream
  | [] => s
  | call :: calls => after (call.run s).2 calls

/-- How many of the tokens have been passed. -/
def index (tokens : List Token) (s : Stream) : Nat := tokens.length - s.unread.length

/-- The tokens that the calls deliver, each with its index, which is the last one passed. -/
def deliveries (tokens : List Token) (s : Stream) (calls : List Call) : List (Nat × Token) :=
  (answers s calls).filterMap fun a => a.1.delivered?.map fun t => (index tokens a.2 - 1, t)

/-- Nothing but newlines and comments is left before the end of the text. -/
def Exhausted (s : Stream) : Prop := Trivia (Token.beforeEof s.unread)

/-! ## What a call can do -/

theorem trivia_append {front back : List Token} :
    Trivia (front ++ back) ↔ Trivia front ∧ Trivia back :=
  List.forall_mem_append

theorem kind_ne_eof_of_isTrivia {t : Token} (h : t.kind.isTrivia = true) : t.kind ≠ .eof := by
  intro heof
  rw [heof] at h
  cases h

/-- Newlines and comments are passed over, up to a token that is neither. -/
theorem exists_skipTrivia (s : Stream) : ∃ gap, Trivia gap ∧
    s.unread = gap ++ s.skipTrivia.unread ∧
    ∀ t, s.skipTrivia.unread.head? = some t → t.kind.isTrivia = false := by
  refine ⟨s.unread.takeWhile (·.kind.isTrivia), List.all_eq_true.1 List.all_takeWhile,
    List.takeWhile_append_dropWhile.symm, fun t ht => ?_⟩
  have hhead := List.head?_dropWhile_not (·.kind.isTrivia) s.unread
  rw [show s.unread.dropWhile (·.kind.isTrivia) = s.skipTrivia.unread from rfl, ht] at hhead
  simpa using hhead

theorem beforeEof_trivia_append {gap : List Token} (hgap : Trivia gap) (ts : List Token) :
    Token.beforeEof (gap ++ ts) = gap ++ Token.beforeEof ts :=
  Token.beforeEof_append (fun t ht => kind_ne_eof_of_isTrivia (hgap t ht)) ts

/-- Newlines and comments in front do not matter for what is left before the end of the text. -/
theorem exhausted_iff_of_eq_append {s s' : Stream} {gap : List Token} (hgap : Trivia gap)
    (h : s.unread = gap ++ s'.unread) : Exhausted s ↔ Exhausted s' := by
  rw [Exhausted, Exhausted, h, beforeEof_trivia_append hgap, trivia_append]
  exact and_iff_right hgap

/-- The next token is the first that is neither a newline nor a comment, if one is left before the
    end of the text. -/
theorem next_cases (s : Stream) :
    (Exhausted s ∧ s.next = (.error .noMoreTokens, s.skipTrivia)) ∨
    ∃ gap t rest, Trivia gap ∧ t.kind.isTrivia = false ∧ t.kind ≠ .eof ∧
      s.unread = gap ++ t :: rest ∧ s.next = (.ok t, ⟨rest⟩) := by
  obtain ⟨gap, hgap, hsplit, hhead⟩ := s.exists_skipTrivia
  rw [exhausted_iff_of_eq_append hgap hsplit, next]
  generalize s.skipTrivia = skipped at hsplit hhead ⊢
  obtain ⟨unread⟩ := skipped
  cases unread with
  | nil => exact .inl ⟨trivia_nil, rfl⟩
  | cons t rest =>
    by_cases heof : t.kind = .eof
    · refine .inl ⟨?_, if_pos heof⟩
      simp [Exhausted, Token.beforeEof, heof, trivia_nil]
    · exact .inr ⟨gap, t, rest, hgap, hhead t rfl, heof, hsplit, if_neg heof⟩

/-- A token that is refused is delivered all the same. -/
theorem delivered?_expect (s : Stream) (kinds : List TokenKind) (expected : String) :
    (Answer.read (s.expect kinds expected).1).delivered? = (Answer.read s.next.1).delivered? := by
  rcases s.next_cases with ⟨-, hnext⟩ | ⟨gap, t, rest, -, -, -, -, hnext⟩
  · rw [expect, hnext]
    rfl
  · rw [expect, hnext]
    by_cases hkind : t.kind ∈ kinds
    · simp [Except.bind, hkind, Answer.delivered?]
    · simp [Except.bind, hkind, Answer.delivered?]

/-- A call passes over newlines and comments, and may deliver the token behind them. -/
theorem exists_run_eq {call : Call} (hcall : call ≠ .take .eof) (s : Stream) :
    ∃ gap, Trivia gap ∧
      s.unread = gap ++ ((call.run s).1.delivered?.toList ++ (call.run s).2.unread) ∧
      ∀ t, (call.run s).1.delivered? = some t → t.kind ≠ .eof := by
  -- Both ways of reading pass over the same and deliver the same.
  have hread : ∃ gap, Trivia gap ∧
      s.unread = gap ++ ((Answer.read s.next.1).delivered?.toList ++ s.next.2.unread) ∧
      ∀ t, (Answer.read s.next.1).delivered? = some t → t.kind ≠ .eof := by
    rcases s.next_cases with ⟨-, hnext⟩ | ⟨gap, t, rest, hgap, -, heof, hsplit, hnext⟩
    · obtain ⟨gap, hgap, hsplit, -⟩ := s.exists_skipTrivia
      rw [hnext]
      exact ⟨gap, hgap, hsplit, nofun⟩
    · rw [hnext]
      refine ⟨gap, hgap, hsplit, fun t' ht' => ?_⟩
      rwa [← Option.some.inj ht']
  cases call with
  | hasNext =>
    obtain ⟨gap, hgap, hsplit, -⟩ := s.exists_skipTrivia
    exact ⟨gap, hgap, hsplit, nofun⟩
  | next => exact hread
  | expect kinds expected =>
    rw [Call.run, delivered?_expect]
    exact hread
  | take kind =>
    refine ⟨[], trivia_nil, ?_⟩
    obtain ⟨unread⟩ := s
    cases unread with
    | nil => exact ⟨rfl, nofun⟩
    | cons t rest =>
      by_cases hkind : t.kind = kind
      · have hrun : (Call.take kind).run ⟨t :: rest⟩ = (.taken (some t), ⟨rest⟩) := by
          simp [Call.run, take?, hkind]
        rw [hrun]
        refine ⟨rfl, fun t' ht' heof => hcall ?_⟩
        rw [← Option.some.inj ht', hkind] at heof
        rw [heof]
      · have hrun : (Call.take kind).run ⟨t :: rest⟩ = (.taken none, ⟨t :: rest⟩) := by
          simp [Call.run, take?, hkind]
        rw [hrun]
        exact ⟨rfl, nofun⟩

/-! ## What a run of calls delivers -/

/-- Tokens from an index on of which `delivered`, with their indices, are all but newlines and
    comments. -/
inductive Accounted : Nat → List Token → List (Nat × Token) → Prop
  | nil {n} : Accounted n [] []
  | passed {n t ts delivered} : t.kind.isTrivia = true → Accounted (n + 1) ts delivered →
      Accounted n (t :: ts) delivered
  | delivered {n t ts delivered} : Accounted (n + 1) ts delivered →
      Accounted n (t :: ts) ((n, t) :: delivered)

namespace Accounted

variable {n : Nat} {ts : List Token} {delivered : List (Nat × Token)}

/-- What is delivered stands at its index. -/
theorem getElem?_of_mem (h : Accounted n ts delivered) :
    ∀ d ∈ delivered, n ≤ d.1 ∧ ts[d.1 - n]? = some d.2 := by
  induction h with
  | nil => nofun
  | @passed n t ts delivered ht hts ih =>
    intro d hd
    obtain ⟨hle, hget⟩ := ih d hd
    have hstep : d.1 - n = d.1 - (n + 1) + 1 := by omega
    exact ⟨by omega, by rwa [hstep, List.getElem?_cons_succ]⟩
  | @delivered n t ts delivered hts ih =>
    intro d hd
    rcases List.mem_cons.1 hd with rfl | hd
    · exact ⟨Nat.le_refl n, by simp⟩
    · obtain ⟨hle, hget⟩ := ih d hd
      have hstep : d.1 - n = d.1 - (n + 1) + 1 := by omega
      exact ⟨by omega, by rwa [hstep, List.getElem?_cons_succ]⟩

/-- Tokens are delivered in their order, and each once. -/
theorem pairwise_lt (h : Accounted n ts delivered) :
    delivered.Pairwise fun d d' => d.1 < d'.1 := by
  induction h with
  | nil => exact .nil
  | passed ht hts ih => exact ih
  | delivered hts ih => exact .cons (fun d hd => (hts.getElem?_of_mem d hd).1) ih

/-- What is not delivered is a newline or a comment. -/
theorem isTrivia_of_notMem (h : Accounted n ts delivered) {i : Nat} (hi : i < ts.length)
    (hnot : n + i ∉ delivered.map Prod.fst) : ts[i].kind.isTrivia = true := by
  induction h generalizing i with
  | nil => cases hi
  | @passed n t ts delivered ht hts ih =>
    cases i with
    | zero => exact ht
    | succ i => exact ih (Nat.lt_of_succ_lt_succ hi) (by rwa [Nat.add_right_comm])
  | @delivered n t ts delivered hts ih =>
    rw [List.map_cons, List.mem_cons, not_or] at hnot
    cases i with
    | zero => exact absurd rfl hnot.1
    | succ i =>
      refine ih (Nat.lt_of_succ_lt_succ hi) ?_
      rw [Nat.add_right_comm]
      exact hnot.2

/-- Newlines and comments need no account. -/
theorem trivia_append {gap : List Token} (hgap : Trivia gap)
    (h : Accounted (n + gap.length) ts delivered) : Accounted n (gap ++ ts) delivered := by
  induction gap generalizing n with
  | nil => exact h
  | cons t gap ih =>
    obtain ⟨ht, hgap⟩ := trivia_cons.1 hgap
    refine .passed ht (ih hgap ?_)
    rwa [List.length_cons, ← Nat.add_assoc, Nat.add_right_comm] at h

end Accounted

/-- A stream over the tokens that has passed some, among them no end of the text. -/
structure Stands (tokens passed : List Token) (s : Stream) : Prop where
  split : tokens = passed ++ s.unread
  noEof : ∀ t ∈ passed, t.kind ≠ .eof

namespace Stands

variable {tokens passed : List Token} {s : Stream}

theorem initial (tokens : List Token) : Stands tokens [] ⟨tokens⟩ := ⟨rfl, nofun⟩

theorem index_eq (h : Stands tokens passed s) : index tokens s = passed.length := by
  rw [index, h.split, List.length_append]
  omega

/-- The passed tokens are the first of those before the end of the text. -/
theorem beforeEof_eq (h : Stands tokens passed s) :
    Token.beforeEof tokens = passed ++ Token.beforeEof s.unread := by
  rw [h.split]
  exact Token.beforeEof_append h.noEof _

/-- A call passes some newlines and comments, and the token that it delivers. -/
theorem exists_run (h : Stands tokens passed s) {call : Call} (hcall : call ≠ .take .eof) :
    ∃ gap, Trivia gap ∧
      Stands tokens (passed ++ (gap ++ (call.run s).1.delivered?.toList)) (call.run s).2 := by
  obtain ⟨gap, hgap, hsplit, heof⟩ := exists_run_eq hcall s
  refine ⟨gap, hgap, ?_, fun t ht => ?_⟩
  · rw [h.split, hsplit, List.append_assoc, List.append_assoc]
  · rcases List.mem_append.1 ht with ht | ht
    · exact h.noEof t ht
    · rcases List.mem_append.1 ht with ht | ht
      · exact kind_ne_eof_of_isTrivia (hgap t ht)
      · exact heof t (by simpa using ht)

end Stands

theorem deliveries_cons (tokens : List Token) (s : Stream) (call : Call) (calls : List Call) :
    deliveries tokens s (call :: calls) =
      ((call.run s).1.delivered?.map fun t => (index tokens (call.run s).2 - 1, t)).toList ++
        deliveries tokens (call.run s).2 calls := by
  rw [deliveries, answers, List.filterMap_cons]
  cases (call.run s).1.delivered? <;> rfl

/-- What a run of calls passes is accounted for by what it delivers. -/
theorem exists_accounted {tokens passed : List Token} {s : Stream} (hs : Stands tokens passed s)
    {calls : List Call} (hcalls : ∀ call ∈ calls, call ≠ .take .eof) :
    ∃ more, Stands tokens (passed ++ more) (after s calls) ∧
      Accounted passed.length more (deliveries tokens s calls) := by
  induction calls generalizing s passed with
  | nil => exact ⟨[], by rwa [List.append_nil], .nil⟩
  | cons call calls ih =>
    obtain ⟨hcall, hcalls⟩ := List.forall_mem_cons.1 hcalls
    obtain ⟨gap, hgap, hrun⟩ := hs.exists_run hcall
    obtain ⟨more, hafter, haccounted⟩ := ih hrun hcalls
    -- The call accounts for what it passes, the later calls for the rest.
    rw [deliveries_cons, hrun.index_eq]
    generalize (call.run s).1.delivered? = t? at hrun hafter haccounted ⊢
    rw [List.append_assoc, List.append_assoc] at hafter
    refine ⟨gap ++ (t?.toList ++ more), hafter, .trivia_append hgap ?_⟩
    cases t? with
    | none => simpa using haccounted
    | some t =>
      have hindex : (passed ++ (gap ++ (some t).toList)).length - 1 =
          passed.length + gap.length := by
        simp [← Nat.add_assoc]
      rw [hindex]
      refine .delivered ?_
      simpa [Nat.add_assoc] using haccounted

/-! ## The end of the tokens -/

/-- There is nothing to read exactly if nothing but newlines and comments is left. -/
theorem next_eq_noMoreTokens_iff (s : Stream) :
    s.next.1 = .error .noMoreTokens ↔ Exhausted s := by
  rcases s.next_cases with ⟨hs, hnext⟩ | ⟨gap, t, rest, hgap, ht, heof, hsplit, hnext⟩
  · rw [hnext]
    exact iff_of_true rfl hs
  · have hrest : Exhausted s ↔ Exhausted ⟨t :: rest⟩ := exhausted_iff_of_eq_append hgap hsplit
    have hmem : t ∈ Token.beforeEof (t :: rest) := by simp [Token.beforeEof, heof]
    rw [hnext, hrest]
    refine iff_of_false nofun fun hall => ?_
    rw [hall t hmem] at ht
    cases ht

theorem expect_eq_noMoreTokens_iff (s : Stream) (kinds : List TokenKind) (expected : String) :
    (s.expect kinds expected).1 = .error .noMoreTokens ↔ Exhausted s := by
  have hexpect : (s.expect kinds expected).1 = s.next.1.bind fun t =>
      if t.kind ∈ kinds then .ok t else .error (.unexpectedToken expected t) := rfl
  rw [← next_eq_noMoreTokens_iff, hexpect]
  cases s.next.1 with
  | error e => rfl
  | ok t =>
    -- A token that is there is given back or refused, which is another error.
    refine iff_of_false ?_ nofun
    by_cases hkind : t.kind ∈ kinds <;> simp [Except.bind, hkind]

/-- There is another token exactly if not all that are left are passed over. -/
theorem hasNext_fst_iff (s : Stream) : s.hasNext.1 = true ↔ ¬ Exhausted s := by
  obtain ⟨gap, hgap, hsplit, hhead⟩ := s.exists_skipTrivia
  rw [exhausted_iff_of_eq_append hgap hsplit, hasNext]
  generalize s.skipTrivia = skipped at hhead ⊢
  obtain ⟨unread⟩ := skipped
  cases unread with
  | nil => simp [Exhausted, Token.beforeEof, trivia_nil]
  | cons t rest =>
    by_cases heof : t.kind = .eof
    · simp [Exhausted, Token.beforeEof, heof, trivia_nil]
    · have ht : t.kind.isTrivia = false := hhead t rfl
      simp [Exhausted, Token.beforeEof_cons heof, heof, trivia_cons, ht]

/-- Where nothing is left, a call leaves it so. -/
theorem exhausted_run {s : Stream} (hs : Exhausted s) {call : Call} (hcall : call ≠ .take .eof) :
    Exhausted (call.run s).2 := by
  obtain ⟨gap, hgap, hsplit, heof⟩ := exists_run_eq hcall s
  have hrest : Exhausted ⟨(call.run s).1.delivered?.toList ++ (call.run s).2.unread⟩ :=
    (exhausted_iff_of_eq_append hgap hsplit).1 hs
  rw [Exhausted, Token.beforeEof_append (fun t ht => heof t (by simpa using ht)),
    trivia_append] at hrest
  exact hrest.2

/-- Where nothing is left, every call that reads says so. -/
theorem read_eq_noMoreTokens {s : Stream} (hs : Exhausted s) {call : Call}
    {result : Except Error Token} (h : (call.run s).1 = .read result) :
    result = .error .noMoreTokens := by
  cases call with
  | next =>
    rw [← Answer.read.inj h]
    exact s.next_eq_noMoreTokens_iff.2 hs
  | expect kinds expected =>
    rw [← Answer.read.inj h]
    exact (s.expect_eq_noMoreTokens_iff kinds expected).2 hs
  | hasNext => cases h
  | take kind => cases h

/-- Once nothing is left, all calls that read say so. -/
theorem read_eq_noMoreTokens_of_mem_answers {s : Stream} (hs : Exhausted s) {calls : List Call}
    (hcalls : ∀ call ∈ calls, call ≠ .take .eof) :
    ∀ a ∈ answers s calls, ∀ result, a.1 = .read result → result = .error .noMoreTokens := by
  induction calls generalizing s with
  | nil => nofun
  | cons call calls ih =>
    obtain ⟨hcall, hcalls⟩ := List.forall_mem_cons.1 hcalls
    intro a ha
    rcases List.mem_cons.1 ha with rfl | ha
    · exact fun result hresult => read_eq_noMoreTokens hs hresult
    · exact ih (exhausted_run hs hcall) hcalls a ha

/-! ## Looking ahead -/

/-- Calls, each behind a number of further ones that look ahead and have a mark. -/
def withLookahead (padded : List (Nat × Call)) : List (Bool × Call) :=
  padded.flatMap fun p => List.replicate p.1 (true, .hasNext) ++ [(false, p.2)]

/-- Makes calls one after the other: what each call without a mark gives back, and the stream behind
    it. -/
def answersUnmarked (s : Stream) : List (Bool × Call) → List (Answer × Stream)
  | [] => []
  | (mark, call) :: calls =>
    (if mark then [] else [call.run s]) ++ answersUnmarked (call.run s).2 calls

theorem skipTrivia_skipTrivia (s : Stream) : s.skipTrivia.skipTrivia = s.skipTrivia :=
  congrArg Stream.mk (List.dropWhile_idempotent _ _)

/-- A call that passes over newlines and comments does not depend on those in front. -/
theorem run_skipTrivia {call : Call} (hcall : ∀ kind, call ≠ .take kind) (s : Stream) :
    call.run s.skipTrivia = call.run s := by
  cases call with
  | hasNext => simp only [Call.run, hasNext, skipTrivia_skipTrivia]
  | next => simp only [Call.run, next, skipTrivia_skipTrivia]
  | expect kinds expected => simp only [Call.run, expect, next, skipTrivia_skipTrivia]
  | take kind => exact absurd rfl (hcall kind)

/-- Further calls that look ahead, right before a call that passes over newlines and comments,
    change neither its answer nor the stream behind it. -/
theorem answersUnmarked_replicate {call : Call} (n : Nat)
    (hcall : n ≠ 0 → ∀ kind, call ≠ .take kind) (s : Stream) (calls : List (Bool × Call)) :
    answersUnmarked s (List.replicate n (true, .hasNext) ++ (false, call) :: calls) =
      call.run s :: answersUnmarked (call.run s).2 calls := by
  induction n generalizing s with
  | zero => rfl
  | succ n ih =>
    have hcall : ∀ kind, call ≠ .take kind := hcall (Nat.succ_ne_zero n)
    rw [List.replicate_succ, List.cons_append]
    calc answersUnmarked s ((true, .hasNext) ::
          (List.replicate n (true, .hasNext) ++ (false, call) :: calls))
      _ = answersUnmarked s.skipTrivia
          (List.replicate n (true, .hasNext) ++ (false, call) :: calls) := rfl
      _ = call.run s :: answersUnmarked (call.run s).2 calls := by
        rw [ih fun _ => hcall, run_skipTrivia hcall]

/-- Further calls that look ahead, each right before a call that passes over newlines and comments,
    change no answer and no stream. -/
theorem answersUnmarked_withLookahead {padded : List (Nat × Call)}
    (hpadded : ∀ p ∈ padded, p.1 ≠ 0 → ∀ kind, p.2 ≠ .take kind) (s : Stream) :
    answersUnmarked s (withLookahead padded) = answers s (padded.map Prod.snd) := by
  induction padded generalizing s with
  | nil => rfl
  | cons p padded ih =>
    obtain ⟨hp, hpadded⟩ := List.forall_mem_cons.1 hpadded
    have hsplit : withLookahead (p :: padded) =
        List.replicate p.1 (true, .hasNext) ++ (false, p.2) :: withLookahead padded := by
      simp [withLookahead]
    rw [hsplit, answersUnmarked_replicate p.1 hp, ih hpadded]
    rfl

/-! ## Any tokens and any calls -/

/-- What any calls to a stream over any tokens give, as long as none of them asks for the end of the
    text itself. The tokens that they deliver have increasing indices, all before the end of the
    text. What is passed over otherwise are newlines and comments. The end of the text is not
    passed. A call that reads finds nothing exactly if nothing but newlines and comments is left,
    and all later ones find nothing either. Further calls that look ahead, put right before calls
    other than those for the very next token, change no answer. -/
theorem calls_deliver_in_order (tokens : List Token) {calls : List Call}
    (hcalls : ∀ call ∈ calls, call ≠ .take .eof) :
    ((deliveries tokens ⟨tokens⟩ calls).Pairwise fun d d' => d.1 < d'.1) ∧
    (∀ d ∈ deliveries tokens ⟨tokens⟩ calls, (Token.beforeEof tokens)[d.1]? = some d.2) ∧
    (∀ i t, i < index tokens (after ⟨tokens⟩ calls) → tokens[i]? = some t →
      i ∉ (deliveries tokens ⟨tokens⟩ calls).map Prod.fst → t.kind.isTrivia = true) ∧
    ((after ⟨tokens⟩ calls).unread = tokens.drop (index tokens (after ⟨tokens⟩ calls)) ∧
      index tokens (after ⟨tokens⟩ calls) ≤ (Token.beforeEof tokens).length) ∧
    (((after ⟨tokens⟩ calls).next.1 = .error .noMoreTokens ↔ Exhausted (after ⟨tokens⟩ calls)) ∧
      (∀ kinds expected, ((after ⟨tokens⟩ calls).expect kinds expected).1 = .error .noMoreTokens ↔
        Exhausted (after ⟨tokens⟩ calls)) ∧
      (Exhausted (after ⟨tokens⟩ calls) → ∀ later, (∀ call ∈ later, call ≠ .take .eof) →
        ∀ a ∈ answers (after ⟨tokens⟩ calls) later, ∀ result, a.1 = .read result →
          result = .error .noMoreTokens)) ∧
    (∀ padded : List (Nat × Call), (∀ p ∈ padded, p.1 ≠ 0 → ∀ kind, p.2 ≠ .take kind) →
      padded.map Prod.snd = calls →
      answersUnmarked ⟨tokens⟩ (withLookahead padded) = answers ⟨tokens⟩ calls) := by
  obtain ⟨passed, hafter, haccounted⟩ := exists_accounted (.initial tokens) hcalls
  replace haccounted : Accounted 0 passed (deliveries tokens ⟨tokens⟩ calls) := haccounted
  rw [List.nil_append] at hafter
  have hindex := hafter.index_eq
  refine ⟨haccounted.pairwise_lt, fun d hd => ?_, fun i t hi ht hnot => ?_, ⟨?_, ?_⟩,
    ⟨next_eq_noMoreTokens_iff _, expect_eq_noMoreTokens_iff _,
      fun hexhausted later hlater => read_eq_noMoreTokens_of_mem_answers hexhausted hlater⟩, ?_⟩
  · obtain ⟨-, hget⟩ := haccounted.getElem?_of_mem d hd
    rw [Nat.sub_zero] at hget
    obtain ⟨hlt, -⟩ := List.getElem?_eq_some_iff.1 hget
    rw [hafter.beforeEof_eq, List.getElem?_append_left hlt]
    exact hget
  · rw [hindex] at hi
    rw [hafter.split, List.getElem?_append_left hi, List.getElem?_eq_getElem hi] at ht
    rw [← Option.some.inj ht]
    exact haccounted.isTrivia_of_notMem hi (by simpa using hnot)
  · rw [hindex]
    conv_rhs => rw [hafter.split, List.drop_left]
  · rw [hindex, hafter.beforeEof_eq, List.length_append]
    exact Nat.le_add_right _ _
  · rintro padded hpadded rfl
    exact answersUnmarked_withLookahead hpadded _

/-- A token that is refused behind a newline is delivered all the same, and is the last one before
    the end of the text. -/
theorem calls_deliver_in_order_refused :
    (∀ call ∈ [Call.hasNext, .expect [.typeKeyword] "\"type\""], call ≠ .take .eof) ∧
    deliveries
      [⟨.newline, "\n", ⟨1, 1⟩⟩, ⟨.ident, "a", ⟨2, 1⟩⟩, ⟨.eof, "", ⟨2, 2⟩⟩, ⟨.ident, "b", ⟨2, 2⟩⟩]
      ⟨[⟨.newline, "\n", ⟨1, 1⟩⟩, ⟨.ident, "a", ⟨2, 1⟩⟩, ⟨.eof, "", ⟨2, 2⟩⟩, ⟨.ident, "b", ⟨2, 2⟩⟩]⟩
      [.hasNext, .expect [.typeKeyword] "\"type\""] = [(1, ⟨.ident, "a", ⟨2, 1⟩⟩)] ∧
    (after
      ⟨[⟨.newline, "\n", ⟨1, 1⟩⟩, ⟨.ident, "a", ⟨2, 1⟩⟩, ⟨.eof, "", ⟨2, 2⟩⟩, ⟨.ident, "b", ⟨2, 2⟩⟩]⟩
      [.hasNext, .expect [.typeKeyword] "\"type\""]).next.1 = .error .noMoreTokens := by
  have hcalls : ∀ call ∈ [Call.hasNext, .expect [.typeKeyword] "\"type\""],
      call ≠ .take .eof := by
    decide
  obtain ⟨-, -, -, -, ⟨hnext, -, -⟩, -⟩ := calls_deliver_in_order
    [⟨.newline, "\n", ⟨1, 1⟩⟩, ⟨.ident, "a", ⟨2, 1⟩⟩, ⟨.eof, "", ⟨2, 2⟩⟩, ⟨.ident, "b", ⟨2, 2⟩⟩]
    hcalls
  refine ⟨hcalls, by decide, hnext.2 ?_⟩
  unfold Exhausted Trivia
  decide

end StructSchema.Stream
