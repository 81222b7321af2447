import StructSchema.Proofs.Render.TagEntries

/-!
# The runs of a tag

Quotes cut a tag into runs. The search for entries can be said in terms of these: a run that ends in
a key and a colon gives the key, and the run behind it is the value. No run is looked at as a whole,
so that what a key is, and where one starts, depends on the end of a run only.

## Key results

- `StructTag.entries_append_quote`: what the search does with the first run
- `StructTag.entries_intercalate`: the entries of a tag in terms of its runs
- `StructTag.entries_tagText`: those of a tag that is written as entries, a blank between any two
- `StructTag.entriesOfRuns_runs`: these are the entries as they are written if every key is one to
  the search
-/

namespace StructSchema.StructTag

/-! ## Runs -/

/-- The longest key that a run ends in, a colon behind it. -/
def keyAtEnd? : List Char → Option (List Char)
  | [] => none
  | c :: cs =>
    if isKeyStart c ∧ cs.dropWhile isKeyChar = [':'] then some (c :: cs.takeWhile isKeyChar)
    else keyAtEnd? cs

/-- The entries of a tag with these runs. The last run stands behind the last quote, so that no
    quote closes it. -/
def entriesOfRuns : List (List Char) → List (List Char × List Char)
  | run :: value :: next :: rest =>
    match keyAtEnd? run with
    | some key => (key, value) :: entriesOfRuns (next :: rest)
    | none => entriesOfRuns (value :: next :: rest)
  | _ => []

theorem readValue?_eq_none_of_notMem {cs : List Char} (h : '"' ∉ cs) : readValue? cs = none := by
  rw [Option.eq_none_iff_forall_ne_some]
  rintro ⟨value, rest⟩ hread
  obtain ⟨-, rfl⟩ := readValue?_eq_some_iff.1 hread
  simp at h

/-- Without a quote there is no entry. -/
theorem entries_eq_nil_of_notMem {cs : List Char} (h : '"' ∉ cs) : entries cs = [] := by
  induction cs using entries.induct with
  | case1 => rw [entries]
  | case2 c cs hstart value rest hvalue ih =>
    have hnone := readValue?_eq_none_of_notMem fun hmem =>
      h (List.mem_cons_of_mem c ((List.dropWhile_suffix isKeyChar).subset hmem))
    rw [hvalue] at hnone
    cases hnone
  | case3 c cs hstart hvalue ih =>
    rw [entries_of_readValue?_eq_none hstart hvalue]
    exact ih fun hmem => h (List.mem_cons_of_mem c ((List.dropWhile_suffix isKeyChar).subset hmem))
  | case4 c cs hstart ih =>
    rw [entries_of_not_isKeyStart (by simpa using hstart)]
    exact ih fun hmem => h (List.mem_cons_of_mem c hmem)

/-- Inside a key that no colon ends the run behind, there is no other key that it does. -/
theorem keyAtEnd?_dropWhile {cs : List Char} (h : cs.dropWhile isKeyChar ≠ [':']) :
    keyAtEnd? cs = keyAtEnd? (cs.dropWhile isKeyChar) := by
  induction cs with
  | nil => rfl
  | cons c cs ih =>
    by_cases hc : isKeyChar c = true
    · rw [List.dropWhile_cons_of_pos hc] at h ⊢
      rw [keyAtEnd?, if_neg fun hboth => h hboth.2, ih h]
    · rw [List.dropWhile_cons_of_neg hc]

/-- A value is read behind a colon that ends a run, and nowhere else in the run. -/
theorem readValue?_append_quote {run rest : List Char} (hrun : '"' ∉ run) (h : run ≠ [':']) :
    readValue? (run ++ '"' :: rest) = none := by
  rw [Option.eq_none_iff_forall_ne_some]
  rintro ⟨value, after⟩ hread
  obtain ⟨-, hcut⟩ := readValue?_eq_some_iff.1 hread
  match run, hrun, h, hcut with
  | [], _, _, hcut => cases hcut
  | [c], _, h, hcut => exact h (by rw [(List.cons.inj hcut).1])
  | c :: d :: run, hrun, _, hcut =>
    obtain ⟨-, hcut⟩ := List.cons.inj hcut
    obtain ⟨rfl, -⟩ := List.cons.inj hcut
    simp at hrun

/-- What the search does with the first run: it is either done with it, or has found a key at its
    end. -/
theorem entries_append_quote {run : List Char} (hrun : '"' ∉ run) (rest : List Char) :
    entries (run ++ '"' :: rest) =
      match keyAtEnd? run, readValue? (':' :: '"' :: rest) with
      | some key, some (value, after) => (key, value) :: entries after
      | _, _ => entries rest := by
  have hquote : ∀ c, ('"' :: rest).head? = some c → isKeyChar c = false := by
    intro c hc
    rw [← Option.some.inj hc]
    decide
  -- The scan goes along the run as along the whole tag, up to a key that the run may end in.
  induction run using entries.induct with
  | case1 =>
    rw [List.nil_append, entries_of_not_isKeyStart (by decide)]
    rfl
  | case2 c cs hstart value after hvalue ih =>
    -- Inside the run, which has no quote, no value is read.
    have hnone := readValue?_eq_none_of_notMem fun hmem =>
      hrun (List.mem_cons_of_mem c ((List.dropWhile_suffix isKeyChar).subset hmem))
    rw [hvalue] at hnone
    cases hnone
  | case3 c cs hstart hvalue ih =>
    have hcs : '"' ∉ cs.dropWhile isKeyChar := fun hmem =>
      hrun (List.mem_cons_of_mem c ((List.dropWhile_suffix isKeyChar).subset hmem))
    obtain ⟨taken, dropped⟩ := takeWhile_dropWhile_append_of_head? cs hquote
    by_cases hcolon : cs.dropWhile isKeyChar = [':']
    · -- The run ends in this key and a colon.
      have hkey : keyAtEnd? (c :: cs) = some (c :: cs.takeWhile isKeyChar) :=
        if_pos ⟨hstart, hcolon⟩
      rw [hcolon, List.singleton_append] at dropped
      rw [hkey, List.cons_append]
      cases hread : readValue? (':' :: '"' :: rest) with
      | some read =>
        rw [entries_of_readValue? hstart (dropped ▸ hread), taken]
      | none =>
        rw [entries_of_readValue?_eq_none hstart (dropped ▸ hread), dropped,
          entries_of_not_isKeyStart (by decide), entries_of_not_isKeyStart (by decide)]
    · have hkey : keyAtEnd? (c :: cs) = keyAtEnd? (cs.dropWhile isKeyChar) := by
        rw [keyAtEnd?, if_neg fun hboth => hcolon hboth.2, keyAtEnd?_dropWhile hcolon]
      have hread : readValue? (cs.dropWhile isKeyChar ++ '"' :: rest) = none :=
        readValue?_append_quote hcs hcolon
      rw [← dropped] at hread
      rw [hkey, ← ih hcs, List.cons_append, entries_of_readValue?_eq_none hstart hread, dropped]
  | case4 c cs hstart ih =>
    have hstart : isKeyStart c = false := by simpa using hstart
    have hkey : keyAtEnd? (c :: cs) = keyAtEnd? cs := by
      rw [keyAtEnd?, if_neg (by simp [hstart])]
    rw [hkey, ← ih fun hmem => hrun (List.mem_cons_of_mem c hmem), List.cons_append,
      entries_of_not_isKeyStart hstart]

/-- The entries of a tag in terms of its runs. -/
theorem entries_intercalate {runs : List (List Char)} (h : ∀ run ∈ runs, '"' ∉ run) :
    entries (['"'].intercalate runs) = entriesOfRuns runs := by
  induction runs using entriesOfRuns.induct with
  | case1 run value next rest key hkey ih =>
    obtain ⟨hrun, hvalue, hrest⟩ : '"' ∉ run ∧ '"' ∉ value ∧ ∀ r ∈ next :: rest, '"' ∉ r := by
      simpa only [List.forall_mem_cons] using h
    have hread : readValue? (':' :: '"' :: (value ++ '"' :: ['"'].intercalate (next :: rest))) =
        some (value, ['"'].intercalate (next :: rest)) :=
      readValue?_eq_some_iff.2 ⟨hvalue, rfl⟩
    rw [List.intercalate_cons_cons, List.append_assoc, List.singleton_append,
      List.intercalate_cons_cons, List.append_assoc, List.singleton_append,
      entries_append_quote hrun, hkey, hread, entriesOfRuns, hkey]
    exact congrArg ((key, value) :: ·) (ih hrest)
  | case2 run value next rest hkey ih =>
    -- The quote behind the run opens no value, so that the next run may end in a key.
    obtain ⟨hrun, hrest⟩ := List.forall_mem_cons.1 h
    rw [List.intercalate_cons_cons, List.append_assoc, List.singleton_append,
      entries_append_quote hrun, hkey, entriesOfRuns, hkey, ih hrest]
  | case3 runs hshort =>
    -- One quote at most, which opens a value that no quote closes.
    match runs, h, hshort with
    | [], _, _ =>
      rw [List.intercalate_nil, entries_eq_nil_of_notMem List.not_mem_nil]
      rfl
    | [run], h, _ =>
      rw [List.intercalate_singleton, entries_eq_nil_of_notMem (h run List.mem_cons_self)]
      rfl
    | [run, value], h, _ =>
      obtain ⟨hrun, hvalue, -⟩ : '"' ∉ run ∧ '"' ∉ value ∧ ∀ r ∈ [], '"' ∉ r := by
        simpa only [List.forall_mem_cons] using h
      have hread : readValue? (':' :: '"' :: value) = none := by
        rw [Option.eq_none_iff_forall_ne_some]
        rintro ⟨inside, rest⟩ hread
        obtain ⟨-, hcut⟩ := readValue?_eq_some_iff.1 hread
        simp only [List.cons.injEq, true_and] at hcut
        simp [hcut] at hvalue
      rw [List.intercalate_cons_cons, List.intercalate_singleton, List.append_assoc,
        List.singleton_append, entries_append_quote hrun, hread, entries_eq_nil_of_notMem hvalue]
      cases keyAtEnd? run <;> rfl
    | run :: value :: next :: rest, _, hshort => exact (hshort run value next rest rfl).elim

/-! ## Tags that are written as entries -/

/-- The tag of some entries, each a key with its value: a blank stands between any two. -/
def tagText (written : List (String × String)) : String :=
  " ".intercalate (written.map fun e => entryText e.1 e.2)

theorem tagText_singleton (e : String × String) : tagText [e] = entryText e.1 e.2 := by
  simp [tagText]

theorem tagText_cons_cons (e next : String × String) (written : List (String × String)) :
    tagText (e :: next :: written) = entryText e.1 e.2 ++ " " ++ tagText (next :: written) := by
  apply String.toList_inj.1
  simp [tagText, String.toList_intercalate]

/-- The runs of such a tag, with one more blank in front of it: for each entry its key, between a
    blank and a colon, and its value. Nothing stands behind the last quote. -/
def runs : List (String × String) → List (List Char)
  | [] => [[]]
  | e :: written => (' ' :: e.1.toList ++ [':']) :: e.2.toList :: runs written

theorem quote_notMem_of_mem_runs {written : List (String × String)}
    (h : ∀ e ∈ written, '"' ∉ e.1.toList ∧ '"' ∉ e.2.toList) : ∀ run ∈ runs written, '"' ∉ run := by
  induction written with
  | nil => simp [runs]
  | cons e written ih =>
    obtain ⟨⟨hkey, hvalue⟩, hwritten⟩ := List.forall_mem_cons.1 h
    simp only [runs, List.forall_mem_cons]
    exact ⟨by simpa using hkey, hvalue, ih hwritten⟩

theorem exists_runs_eq_cons (written : List (String × String)) :
    ∃ run rest, runs written = run :: rest := by
  cases written with
  | nil => exact ⟨_, _, rfl⟩
  | cons => exact ⟨_, _, rfl⟩

/-- The runs of an entry are those of its text, with a blank in front of it. -/
theorem intercalate_runs_cons (e : String × String) (written : List (String × String)) :
    ['"'].intercalate (runs (e :: written)) =
      ' ' :: (entryText e.1 e.2).toList ++ ['"'].intercalate (runs written) := by
  obtain ⟨run, rest, hruns⟩ := exists_runs_eq_cons written
  rw [runs, hruns, List.intercalate_cons_cons, List.intercalate_cons_cons]
  simp [entryText]

/-- With a blank in front of it, a tag of entries is made of their runs. -/
theorem cons_tagText_eq_intercalate {written : List (String × String)} (h : written ≠ []) :
    ' ' :: (tagText written).toList = ['"'].intercalate (runs written) := by
  induction written with
  | nil => exact absurd rfl h
  | cons e written ih =>
    rw [intercalate_runs_cons]
    cases written with
    | nil => simp [tagText_singleton, runs]
    | cons next written =>
      rw [← ih (List.cons_ne_nil next written), tagText_cons_cons]
      simp

/-- What the search finds in a tag that is written as entries. -/
theorem entries_tagText {written : List (String × String)} (hne : written ≠ [])
    (h : ∀ e ∈ written, '"' ∉ e.1.toList ∧ '"' ∉ e.2.toList) :
    entries (tagText written).toList = entriesOfRuns (runs written) := by
  have hblank : isKeyStart ' ' = false := by decide
  rw [← entries_of_not_isKeyStart hblank, cons_tagText_eq_intercalate hne,
    entries_intercalate (quote_notMem_of_mem_runs h)]

/-- A key behind a blank is found as it is. -/
theorem keyAtEnd?_of_isTagKey {key : String} (h : IsTagKey key) :
    keyAtEnd? (' ' :: key.toList ++ [':']) = some key.toList := by
  obtain ⟨c, cs, hchars, hstart, taken, dropped⟩ := exists_scan_of_isTagKey h []
  have hblank : isKeyStart ' ' ≠ true := by decide
  rw [hchars, List.cons_append, List.cons_append, keyAtEnd?, if_neg fun hboth => hblank hboth.1,
    keyAtEnd?, if_pos ⟨hstart, dropped⟩, taken]

/-- If every key is one to the search, it finds the entries as they are written. -/
theorem entriesOfRuns_runs {written : List (String × String)} (h : ∀ e ∈ written, IsTagKey e.1) :
    entriesOfRuns (runs written) = written.map fun e => (e.1.toList, e.2.toList) := by
  induction written with
  | nil => rfl
  | cons e written ih =>
    obtain ⟨hkey, hwritten⟩ := List.forall_mem_cons.1 h
    obtain ⟨run, rest, hruns⟩ := exists_runs_eq_cons written
    rw [runs, hruns, entriesOfRuns, keyAtEnd?_of_isTagKey hkey, ← hruns, ih hwritten, List.map_cons]

end StructSchema.StructTag
