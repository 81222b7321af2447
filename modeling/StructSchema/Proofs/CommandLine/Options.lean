import StructSchema.CommandLine.Arguments

/-!
# Options that are read

Arguments that are accepted make up a command and values of its own options, and whatever values a
command's options are to have, there are arguments that give them.

## Key results

- `mem_of_readOptions_eq_ok`: no option is read that is not allowed
- `Request.exists_ofValues`: a request is made of a command and values of its options
- `Request.ofArguments_spelled`: values of a command's options, as arguments
-/

namespace StructSchema.CommandLine

/-! ## What is read -/

theorem Values.eq_of_add_eq_ok {given given' : Values} {name : OptionName} {value : String}
    (h : given.add name value = .ok given') : given' = (name, value) :: given := by
  unfold Values.add at h
  split at h
  · exact (Except.ok.inj h).symm
  · cases h

theorem Argument.mem_of_option? {allowed : List OptionName} {argument : Argument}
    {name : OptionName} {attached? : Option String}
    (h : argument.option? allowed = some (name, attached?)) : name ∈ allowed := by
  unfold Argument.option? at h
  split at h
  · obtain ⟨option, hfind, hoption⟩ := Option.map_eq_some_iff.1 h
    cases hoption
    exact List.mem_of_find?_eq_some hfind
  · obtain ⟨option, hfind, hoption⟩ := Option.map_eq_some_iff.1 h
    cases hoption
    exact List.mem_of_find?_eq_some hfind
  · cases h

/-- A value that is added belongs to an option that is allowed. -/
theorem Values.mem_of_add_eq_ok {allowed : List OptionName} {given given' : Values}
    {argument : Argument} {name : OptionName} {attached? : Option String} {value : String}
    (hgiven : ∀ entry ∈ given, entry.1 ∈ allowed)
    (hoption : argument.option? allowed = some (name, attached?))
    (hadded : given.add name value = .ok given') : ∀ entry ∈ given', entry.1 ∈ allowed := by
  rw [Values.eq_of_add_eq_ok hadded]
  exact List.forall_mem_cons.2 ⟨Argument.mem_of_option? hoption, hgiven⟩

/-- Only options that are allowed are read. -/
theorem mem_of_readOptions_eq_ok {allowed : List OptionName} {given values : Values}
    {arguments : List String} (hgiven : ∀ entry ∈ given, entry.1 ∈ allowed)
    (h : readOptions allowed given arguments = .ok values) :
    ∀ entry ∈ values, entry.1 ∈ allowed := by
  fun_induction readOptions allowed given arguments with
  | case1 | case3 =>
    cases h
    exact hgiven
  | case2 | case4 | case5 | case7 | case9 => cases h
  | case6 given first rest argument _ _ name value hoption ih =>
    -- The value is a part of the argument.
    cases hadded : given.add name value with
    | error stop => rw [hadded] at h; cases h
    | ok given' =>
      rw [hadded] at h
      exact ih given' (Values.mem_of_add_eq_ok hgiven hoption hadded) h
  | case8 given first argument _ _ name hoption next rest value _ ih =>
    -- The value is the next argument.
    cases hadded : given.add name value with
    | error stop => rw [hadded] at h; cases h
    | ok given' =>
      rw [hadded] at h
      exact ih given' (Values.mem_of_add_eq_ok hgiven hoption hadded) h

/-- A request is made of a command and values of its options. -/
theorem Request.exists_ofValues {arguments : List String} {r : Request}
    (h : Request.ofArguments arguments = .ok r) :
    ∃ target given, r = .ofValues target given ∧ ∀ entry ∈ given, entry.1 ∈ optionsOf target := by
  unfold Request.ofArguments at h
  split at h
  · cases h
  · next first rest =>
    split at h
    · cases h
    split at h
    · cases h
    split at h
    · cases h
    · next target _ =>
      cases hread : readOptions (optionsOf target) [] rest with
      | error stop => rw [hread] at h; cases h
      | ok given =>
        rw [hread] at h
        exact ⟨target, given, (Except.ok.inj h).symm,
          mem_of_readOptions_eq_ok (List.forall_mem_nil _) hread⟩

/-- A description is never written to a file. -/
theorem Request.target_ne_description {arguments : List String} {r : Request} {path : String}
    (h : Request.ofArguments arguments = .ok r) (houtput : r.output? = some path) :
    r.target ≠ .description := by
  obtain ⟨target, given, rfl, hgiven⟩ := Request.exists_ofValues h
  obtain ⟨front, back, hentries, -⟩ := List.lookup_eq_some_iff.1 houtput
  have hallowed : OptionName.output ∈ optionsOf target :=
    hgiven (.output, path) (by rw [hentries]; simp)
  rintro rfl
  revert hallowed
  decide

/-! ## Every request can be made -/

/-- An option with its value as one argument. -/
def spelledOption (name : OptionName) (value : String) : String :=
  "--" ++ name.long ++ "=" ++ value

/-- The options with their values as arguments, the latest last. -/
def Values.spelled (given : Values) : List String :=
  given.reverse.map fun entry => spelledOption entry.1 entry.2

theorem Argument.ofText_spelledOption (name : OptionName) (value : String) :
    Argument.ofText (spelledOption name value) = .long name.long (some value) := by
  cases name <;> simp [Argument.ofText, spelledOption, OptionName.long]

theorem OptionName.eq_of_long_eq {name other : OptionName} (h : other.long = name.long) :
    other = name := by
  cases name <;> cases other <;> first | rfl | exact absurd h (by decide)

theorem Argument.option?_long {allowed : List OptionName} {name : OptionName} (h : name ∈ allowed)
    (attached? : Option String) :
    (Argument.long name.long attached?).option? allowed = some (name, attached?) := by
  have hfind : allowed.find? (·.long == name.long) = some name := by
    cases hfound : allowed.find? (·.long == name.long) with
    | none =>
      have hnone := List.find?_eq_none.1 hfound name h
      simp at hnone
    | some other =>
      have hlong : other.long = name.long := by simpa using List.find?_some hfound
      rw [OptionName.eq_of_long_eq hlong]
  simp only [Argument.option?, hfind, Option.map_some]

/-- An option that is allowed and has no value yet gets its value. -/
theorem readOptions_spelledOption {allowed : List OptionName} {given : Values} {name : OptionName}
    {value : String} (hallowed : name ∈ allowed) (hnew : name ∉ given.map Prod.fst)
    (hadmits : name.admits value = true) (rest : List String) :
    readOptions allowed given (spelledOption name value :: rest) =
      readOptions allowed ((name, value) :: given) rest := by
  have hnone : given.lookup name = none := by
    rw [List.lookup_eq_none_iff]
    intro entry hentry
    have hother : entry.1 ≠ name := fun heq => hnew (heq ▸ List.mem_map_of_mem hentry)
    simpa using hother.symm
  have hadd : given.add name value = .ok ((name, value) :: given) := by
    simp [Values.add, hnone, hadmits]
  have hhelp : (Argument.long name.long (some value)).asksHelp = false := by
    cases name <;> rfl
  rw [readOptions, Argument.ofText_spelledOption, hhelp, Argument.option?_long hallowed]
  simp [hadd, Except.bind]

/-- Options that are allowed, each given once, get their values. -/
theorem readOptions_spelled_append {allowed : List OptionName} {given : Values}
    (hallowed : ∀ entry ∈ given, entry.1 ∈ allowed ∧ entry.1.admits entry.2 = true)
    (hnodup : (given.map Prod.fst).Nodup) (rest : List String) :
    readOptions allowed [] (given.spelled ++ rest) = readOptions allowed given rest := by
  induction given generalizing rest with
  | nil => rfl
  | cons entry given ih =>
    obtain ⟨hentry, hgiven⟩ := List.forall_mem_cons.1 hallowed
    rw [List.map_cons, List.nodup_cons] at hnodup
    -- The latest option is the last of the arguments.
    have hspelled : Values.spelled (entry :: given) ++ rest =
        Values.spelled given ++ spelledOption entry.1 entry.2 :: rest := by
      simp [Values.spelled]
    rw [hspelled, ih hgiven hnodup.2, readOptions_spelledOption hentry.1 hnodup.1 hentry.2]

/-- Whatever values the options of a command are to have, each at most one, there are arguments that
    give them. -/
theorem Request.ofArguments_spelled {command : String} {target : Target} {given : Values}
    (hcommand : (command, target) ∈ commands)
    (hallowed : ∀ entry ∈ given, entry.1 ∈ optionsOf target ∧ entry.1.admits entry.2 = true)
    (hnodup : (given.map Prod.fst).Nodup) :
    Request.ofArguments (command :: given.spelled) = .ok (.ofValues target given) := by
  have hread : readOptions (optionsOf target) [] given.spelled = .ok given := by
    have happend := readOptions_spelled_append hallowed hnodup []
    rw [List.append_nil] at happend
    rw [happend, readOptions]
  simp only [commands, List.mem_cons, Prod.mk.injEq, List.not_mem_nil, or_false] at hcommand
  rcases hcommand with ⟨rfl, rfl⟩ | ⟨rfl, rfl⟩ | ⟨rfl, rfl⟩ <;>
    exact (congrArg (Except.map _) hread).trans rfl

end StructSchema.CommandLine
