import Mathlib.Data.List.Basic
import StructSchema.Proofs.Text.SnakeCasing
import StructSchema.Proofs.Unicode.CaseTables

/-!
# The words of a name in snake case

Snake case puts every uppercase character in lower case and a separator in front of some of them.
Nothing else is put in and nothing is left out. A separator stands between two characters of the
name. A run of uppercase characters stays together, but for its last one, which begins a word of its
own if a lowercase one follows.

## Key results

- `snakeCaseAfter_eq_spelled`: a name in snake case by the places of its separators
- `spelled_of_mark`: a separator stands alone
- `mark_inside_run_iff`, `mark_before_run_iff`: where separators stand at a run of uppercase
  characters
- `snakeCaseAfter_eq_self`: a name without uppercase characters is left as it is
- `snakeCase_separates_words`: all of this for every name
-/

namespace StructSchema.Text

open StructSchema.Unicode

/-- An uppercase character in lower case, any other as it is. -/
def lowered (c : Char) : List Char := if isUppercase c then lowercase c else [c]

/-- A name in lower case, with a separator in front of each character that has a mark. -/
def spelled (marks : List Bool) (name : List Char) : List Char :=
  (marks.zip name).flatMap fun p => (if p.1 then ['_'] else []) ++ lowered p.2

/-- The marks of the characters in front of which snake case puts a separator, for a name behind the
    character `previous`. -/
def wordMarks (previous : Option Char) : List Char → List Bool
  | [] => []
  | c :: rest => (isUppercase c && beginsWord previous rest.head?) :: wordMarks (some c) rest

/-- The marks say where the words of a name begin. -/
structure MarksWords (marks : List Bool) (name : List Char) : Prop where
  /-- There is a mark, set or not, for each character. -/
  length_eq : marks.length = name.length
  /-- Words that need a separator begin with uppercase characters. -/
  uppercase : ∀ i : Nat, marks[i]? = some true → ∃ c, name[i]? = some c ∧ isUppercase c = true
  /-- A separator stands behind what is spelled of the characters in front of its mark. It has
      characters on both sides, and they are no separators. -/
  alone : ∀ i : Nat, marks[i]? = some true →
    ∃ front c d back, spelled marks name = front ++ c :: '_' :: d :: back ∧
      front ++ [c] = spelled (marks.take i) (name.take i) ∧ c ≠ '_' ∧ d ≠ '_'
  /-- A run of uppercase characters has a separator in front of it if there is a character there and
      that is no separator. -/
  before_run : ∀ front c back, name = front ++ c :: back → isUppercase c = true →
    (∀ p, front.getLast? = some p → isUppercase p = false) →
    (marks[front.length]? = some true ↔ ∃ p, front.getLast? = some p ∧ p ≠ '_')
  /-- Inside a run there is at most a separator in front of the last character, and only if a
      lowercase one follows the run. -/
  inside_run : ∀ front run back, name = front ++ run ++ back →
    (∀ c ∈ run, isUppercase c = true) →
    ∀ i, front.length < i → i < front.length + run.length →
      (marks[i]? = some true ↔
        i + 1 = front.length + run.length ∧ ∃ c, back.head? = some c ∧ isLowercase c = true)

/-! ## Characters -/

theorem lowered_ne_nil (c : Char) : lowered c ≠ [] := by
  unfold lowered lowercase
  split
  · split <;> simp
  · simp

/-- Lower case brings no separator into a name. -/
theorem underscore_notMem_lowered {c : Char} (h : c ≠ '_') : '_' ∉ lowered c := by
  intro hmem
  unfold lowered at hmem
  split at hmem
  · rcases lt_toNat_of_mem_lowercase hmem with hsame | hbeyond
    · exact h hsame.symm
    · exact absurd hbeyond (by decide)
  · exact h (List.mem_singleton.1 hmem).symm

theorem ne_underscore_of_isUppercase {c : Char} (h : isUppercase c = true) : c ≠ '_' := by
  rintro rfl
  revert h
  decide +kernel

/-- No word begins behind a separator. -/
theorem ne_underscore_of_beginsWord {p : Char} {next : Option Char}
    (h : beginsWord (some p) next = true) : p ≠ '_' := by
  by_cases hp : isUppercase p = true
  · exact ne_underscore_of_isUppercase hp
  · simpa [beginsWord, hp] using h

/-! ## Marks -/

/-- A name in snake case is spelled with the marks of its words. -/
theorem snakeCaseAfter_eq_spelled (previous : Option Char) (name : List Char) :
    snakeCaseAfter previous name = spelled (wordMarks previous name) name := by
  induction name generalizing previous with
  | nil => rfl
  | cons c rest ih =>
    have hsplit : spelled (wordMarks previous (c :: rest)) (c :: rest) =
        ((if isUppercase c && beginsWord previous rest.head? then ['_'] else []) ++ lowered c) ++
          spelled (wordMarks (some c) rest) rest := rfl
    rw [hsplit, ← ih, snakeCaseAfter, separator, lowered]
    by_cases hc : isUppercase c = true
    · simp only [hc, if_true, Bool.true_and]
    · simp [hc]

theorem length_wordMarks (previous : Option Char) (name : List Char) :
    (wordMarks previous name).length = name.length := by
  induction name generalizing previous with
  | nil => rfl
  | cons c rest ih => rw [wordMarks, List.length_cons, List.length_cons, ih]

/-- The mark of a character behind the first depends on it and on those next to it. -/
theorem getElem?_wordMarks_succ (previous : Option Char) (name : List Char) (i : Nat) :
    (wordMarks previous name)[i + 1]? =
      name[i + 1]?.map fun c => isUppercase c && beginsWord name[i]? name[i + 2]? := by
  induction name generalizing previous i with
  | nil => rfl
  | cons c rest ih =>
    rw [wordMarks, List.getElem?_cons_succ, List.getElem?_cons_succ, List.getElem?_cons_succ]
    cases i with
    | zero =>
      cases rest with
      | nil => rfl
      | cons d rest => simp [wordMarks, List.head?_eq_getElem?]
    | succ i => rw [ih, List.getElem?_cons_succ]

/-- The first character has no mark, and no other without a word that begins. -/
theorem mark_iff {name : List Char} {i : Nat} : (wordMarks none name)[i]? = some true ↔
    ∃ j p c, i = j + 1 ∧ name[j]? = some p ∧ name[j + 1]? = some c ∧ isUppercase c = true ∧
      beginsWord (some p) name[j + 2]? = true := by
  cases i with
  | zero =>
    refine iff_of_false (fun h => ?_) (fun ⟨j, p, c, hi, _⟩ => by cases hi)
    cases name with
    | nil => cases h
    | cons c rest => simp [wordMarks, beginsWord] at h
  | succ j =>
    rw [getElem?_wordMarks_succ, Option.map_eq_some_iff]
    constructor
    · rintro ⟨c, hc, hmark⟩
      obtain ⟨hupper, hbegins⟩ := Bool.and_eq_true_iff.1 hmark
      obtain ⟨hlt, -⟩ := List.getElem?_eq_some_iff.1 hc
      have hp : name[j]? = some name[j] := List.getElem?_eq_getElem (by omega)
      exact ⟨j, name[j], c, rfl, hp, hc, hupper, hp ▸ hbegins⟩
    · rintro ⟨j', p, c, hj, hp, hc, hupper, hbegins⟩
      obtain rfl : j = j' := by omega
      exact ⟨c, hc, by rw [hupper, hp, hbegins, Bool.and_self]⟩

/-! ## Separators -/

theorem spelled_cons (mark : Bool) (marks : List Bool) (c : Char) (name : List Char) :
    spelled (mark :: marks) (c :: name) =
      (if mark then ['_'] else []) ++ lowered c ++ spelled marks name := rfl

theorem spelled_append {marks : List Bool} {name : List Char} (h : marks.length = name.length)
    (marks' : List Bool) (name' : List Char) :
    spelled (marks ++ marks') (name ++ name') = spelled marks name ++ spelled marks' name' := by
  rw [spelled, List.zip_append h, List.flatMap_append]
  rfl

theorem spelled_take_append_drop {marks : List Bool} {name : List Char}
    (h : marks.length = name.length) (i : Nat) :
    spelled (marks.take i) (name.take i) ++ spelled (marks.drop i) (name.drop i) =
      spelled marks name := by
  have htake : (marks.take i).length = (name.take i).length := by
    rw [List.length_take, List.length_take, h]
  rw [← spelled_append htake, List.take_append_drop, List.take_append_drop]

/-- What is spelled up to a character ends with its separator, if it has a mark, and its lower
    case. -/
theorem spelled_take_succ {marks : List Bool} {name : List Char} {i : Nat} {mark : Bool} {c : Char}
    (hmark : marks[i]? = some mark) (hc : name[i]? = some c) :
    spelled (marks.take (i + 1)) (name.take (i + 1)) =
      spelled (marks.take i) (name.take i) ++ ((if mark then ['_'] else []) ++ lowered c) := by
  obtain ⟨hlt, -⟩ := List.getElem?_eq_some_iff.1 hmark
  obtain ⟨hlt', -⟩ := List.getElem?_eq_some_iff.1 hc
  have htake : (marks.take i).length = (name.take i).length := by
    rw [List.length_take_of_le (Nat.le_of_lt hlt), List.length_take_of_le (Nat.le_of_lt hlt')]
  rw [List.take_add_one, List.take_add_one, hmark, hc, Option.toList_some, Option.toList_some,
    spelled_append htake]
  simp [spelled]

/-- The last character that is spelled of a name is a separator only if that of the name is. -/
theorem exists_spelled_take_succ {marks : List Bool} {name : List Char}
    (h : marks.length = name.length) {i : Nat} {c : Char} (hc : name[i]? = some c) (hne : c ≠ '_') :
    ∃ front d, spelled (marks.take (i + 1)) (name.take (i + 1)) = front ++ [d] ∧ d ≠ '_' := by
  obtain ⟨hlt, -⟩ := List.getElem?_eq_some_iff.1 hc
  have hmark : marks[i]? = some marks[i] := List.getElem?_eq_getElem (h ▸ hlt)
  obtain ⟨letters, d, hletters⟩ :=
    (List.eq_nil_or_concat' (lowered c)).resolve_left (lowered_ne_nil c)
  have hd : d ∈ lowered c := by simp [hletters]
  refine ⟨spelled (marks.take i) (name.take i) ++ ((if marks[i] then ['_'] else []) ++ letters), d,
    ?_, ne_of_mem_of_not_mem hd (underscore_notMem_lowered hne)⟩
  rw [spelled_take_succ hmark hc, hletters, List.append_assoc, List.append_assoc]

/-- A separator stands between two characters of the name, neither of which is a separator. -/
theorem spelled_of_mark {name : List Char} {i : Nat}
    (h : (wordMarks none name)[i]? = some true) :
    ∃ front c d back, spelled (wordMarks none name) name = front ++ c :: '_' :: d :: back ∧
      front ++ [c] = spelled ((wordMarks none name).take i) (name.take i) ∧ c ≠ '_' ∧ d ≠ '_' := by
  obtain ⟨j, p, u, rfl, hp, hu, hupper, hbegins⟩ := mark_iff.1 h
  have hlength := length_wordMarks none name
  obtain ⟨front, c, hfront, hc⟩ :=
    exists_spelled_take_succ hlength hp (ne_underscore_of_beginsWord hbegins)
  obtain ⟨d, letters, hletters⟩ := List.exists_cons_of_ne_nil (lowered_ne_nil u)
  have hd : d ∈ lowered u := by simp [hletters]
  have hne : d ≠ '_' :=
    ne_of_mem_of_not_mem hd (underscore_notMem_lowered (ne_underscore_of_isUppercase hupper))
  refine ⟨front, c, d, letters ++ spelled ((wordMarks none name).drop (j + 2)) (name.drop (j + 2)),
    ?_, hfront.symm, hc, hne⟩
  rw [← spelled_take_append_drop hlength (j + 2), spelled_take_succ h hu, hfront, hletters]
  simp

/-- Without its separators a name in snake case is the name in lower case without them. -/
theorem filter_spelled {marks : List Bool} {name : List Char} (h : marks.length = name.length) :
    (spelled marks name).filter (· != '_') = (name.flatMap lowered).filter (· != '_') := by
  induction name generalizing marks with
  | nil => simp [spelled]
  | cons c name ih =>
    obtain ⟨mark, marks, rfl⟩ := List.exists_cons_of_length_eq_add_one h
    rw [spelled_cons, List.flatMap_cons, List.filter_append, List.filter_append,
      ih (Nat.succ.inj h), List.filter_append]
    cases mark <;> simp

/-! ## Runs of uppercase characters -/

section

variable {front run back : List Char}

variable (front back) in
theorem exists_getElem?_run (hrun : ∀ c ∈ run, isUppercase c = true) {i : Nat}
    (hfirst : front.length ≤ i) (hlast : i < front.length + run.length) :
    ∃ c, (front ++ run ++ back)[i]? = some c ∧ isUppercase c = true := by
  have hlt : i - front.length < run.length := by omega
  refine ⟨run[i - front.length], ?_, hrun _ (List.getElem_mem hlt)⟩
  rw [List.append_assoc, List.getElem?_append_right hfirst, List.getElem?_append_left hlt,
    List.getElem?_eq_getElem hlt]

/-- Inside a run of uppercase characters only the last one has a mark, if a lowercase one
    follows. -/
theorem mark_inside_run_iff (hrun : ∀ c ∈ run, isUppercase c = true) {i : Nat}
    (hfirst : front.length < i) (hlast : i < front.length + run.length) :
    (wordMarks none (front ++ run ++ back))[i]? = some true ↔
      i + 1 = front.length + run.length ∧ ∃ c, back.head? = some c ∧ isLowercase c = true := by
  obtain ⟨j, rfl⟩ := Nat.exists_eq_add_one_of_ne_zero (Nat.ne_zero_of_lt hfirst)
  obtain ⟨p, hp, hpupper⟩ :=
    exists_getElem?_run front back hrun (Nat.le_of_lt_succ hfirst) (Nat.lt_of_succ_lt hlast)
  obtain ⟨c, hc, hcupper⟩ := exists_getElem?_run front back hrun (Nat.le_of_lt hfirst) hlast
  have hmark : (wordMarks none (front ++ run ++ back))[j + 1]? = some true ↔
      (front ++ run ++ back)[j + 2]?.any isLowercase = true := by
    rw [getElem?_wordMarks_succ, hc, hp]
    simp [beginsWord, hpupper, hcupper]
  rw [hmark]
  by_cases hend : j + 2 = front.length + run.length
  · have hnext : (front ++ run ++ back)[j + 2]? = back.head? := by
      rw [hend, ← List.length_append, List.getElem?_append_right (Nat.le_refl _), Nat.sub_self,
        List.head?_eq_getElem?]
    rw [hnext, Option.any_eq_true]
    simp [hend]
  · -- The next character belongs to the run and is therefore not lowercase.
    have hlater : j + 2 < front.length + run.length := by omega
    obtain ⟨d, hd, hdupper⟩ :=
      exists_getElem?_run front back hrun (Nat.le_succ_of_le (Nat.le_of_lt hfirst)) hlater
    rw [hd, Option.any_some, isLowercase_eq_false_of_isUppercase hdupper]
    simp [hend]

/-- The first of a run of uppercase characters has a mark if there is a character in front of it and
    that is no separator. -/
theorem mark_before_run_iff {c : Char} (hc : isUppercase c = true)
    (hfront : ∀ p, front.getLast? = some p → isUppercase p = false) :
    (wordMarks none (front ++ c :: back))[front.length]? = some true ↔
      ∃ p, front.getLast? = some p ∧ p ≠ '_' := by
  rcases List.eq_nil_or_concat' front with rfl | ⟨front, p, rfl⟩
  · simp [wordMarks, beginsWord]
  · have hp : isUppercase p = false := hfront p (by simp)
    have hlast : (front ++ [p] ++ c :: back)[front.length]? = some p := by simp
    have hnext : (front ++ [p] ++ c :: back)[front.length + 1]? = some c := by simp
    rw [List.length_append, List.length_singleton, getElem?_wordMarks_succ, hlast, hnext]
    simp [beginsWord, hp, hc]

end

/-! ## Names without uppercase characters -/

theorem snakeCaseAfter_eq_self {name : List Char} (h : ∀ c ∈ name, isUppercase c = false)
    (previous : Option Char) : snakeCaseAfter previous name = name := by
  induction name generalizing previous with
  | nil => rfl
  | cons c name ih =>
    obtain ⟨hc, hname⟩ := List.forall_mem_cons.1 h
    rw [snakeCaseAfter, if_neg (by simp [hc]), ih hname]

theorem mem_spelled {marks : List Bool} {name : List Char} {d : Char}
    (h : d ∈ spelled marks name) : d = '_' ∨ ∃ c ∈ name, d ∈ lowered c := by
  obtain ⟨⟨mark, c⟩, hmem, hd⟩ := List.mem_flatMap.1 h
  rcases List.mem_append.1 hd with hseparator | hletter
  · cases mark with
    | true => exact .inl (List.mem_singleton.1 hseparator)
    | false => cases hseparator
  · exact .inr ⟨c, (List.of_mem_zip hmem).2, hletter⟩

/-- If lower case leaves no uppercase character, what is spelled has none. -/
theorem isUppercase_eq_false_of_mem_spelled {name : List Char}
    (h : ∀ c ∈ name, isUppercase c = true → ∀ d ∈ lowercase c, isUppercase d = false)
    {marks : List Bool} {d : Char} (hd : d ∈ spelled marks name) : isUppercase d = false := by
  rcases mem_spelled hd with rfl | ⟨c, hc, hletter⟩
  · decide +kernel
  · unfold lowered at hletter
    split at hletter
    case isTrue hupper => exact h c hc hupper d hletter
    case isFalse hlower =>
      rw [List.mem_singleton.1 hletter]
      exact Bool.eq_false_iff.2 hlower

/-! ## Names -/

theorem wordMarks_marksWords (name : List Char) : MarksWords (wordMarks none name) name where
  length_eq := length_wordMarks none name
  uppercase i hmark := by
    obtain ⟨j, p, c, rfl, -, hc, hupper, -⟩ := mark_iff.1 hmark
    exact ⟨c, hc, hupper⟩
  alone _ hmark := spelled_of_mark hmark
  before_run front c back hname hc hfront := by
    subst hname
    exact mark_before_run_iff hc hfront
  inside_run front run back hname hrun i hfirst hlast := by
    subst hname
    exact mark_inside_run_iff hrun hfirst hlast

/-- Snake case puts a separator in front of some characters of a name, each uppercase character in
    lower case, and does nothing else: separators apart, it is the name in lower case. The
    separators stand between two characters and keep runs of uppercase characters together. A name
    in snake case stays as it is, unless lower case has left an uppercase character in it. -/
theorem snakeCase_separates_words (name : String) :
    (∃ marks, MarksWords marks name.toList ∧
      (snakeCase name).toList = spelled marks name.toList) ∧
    (snakeCase name).toList.filter (· != '_') =
      (name.toList.flatMap lowered).filter (· != '_') ∧
    ((∀ c ∈ name.toList, isUppercase c = true → ∀ d ∈ lowercase c, isUppercase d = false) →
      snakeCase (snakeCase name) = snakeCase name) := by
  have hspelled : (snakeCase name).toList = spelled (wordMarks none name.toList) name.toList := by
    rw [snakeCase, String.toList_ofList, snakeCaseAfter_eq_spelled]
  refine ⟨⟨_, wordMarks_marksWords name.toList, hspelled⟩, ?_, fun hlower => ?_⟩
  · rw [hspelled, filter_spelled (length_wordMarks none name.toList)]
  · have hlowered (d : Char) (hd : d ∈ (snakeCase name).toList) : isUppercase d = false := by
      rw [hspelled] at hd
      exact isUppercase_eq_false_of_mem_spelled hlower hd
    rw [snakeCase, snakeCaseAfter_eq_self hlowered, String.ofList_toList]

/-- The name `HTTPServer` in snake case stays as it is, since its capital letters have small
    ones. -/
theorem snakeCase_separates_words_of_server :
    (∀ c ∈ "HTTPServer".toList, isUppercase c = true → ∀ d ∈ lowercase c, isUppercase d = false) ∧
    snakeCase "HTTPServer" = "http_server" ∧ snakeCase "http_server" = "http_server" := by
  have hall : "HTTPServer".toList.all fun c =>
      !isUppercase c || (lowercase c).all fun d => !isUppercase d := by
    decide +kernel
  have hlower (c : Char) (hc : c ∈ "HTTPServer".toList) (hupper : isUppercase c = true) (d : Char)
      (hd : d ∈ lowercase c) : isUppercase d = false := by
    have hletters := List.all_eq_true.1 hall c hc
    rw [hupper, Bool.not_true, Bool.false_or, List.all_eq_true] at hletters
    simpa using hletters d hd
  have hsnake : snakeCase "HTTPServer" = "http_server" := by decide +kernel
  exact ⟨hlower, hsnake, hsnake ▸ (snakeCase_separates_words "HTTPServer").2.2 hlower⟩

end StructSchema.Text
