import StructSchema.CommandLine.Machine

/-!
# File systems

What holds of the files and streams around a run, whatever keeps them: reading changes nothing, a
write gives one file its content or fails and changes nothing, and what is printed is added to what
was printed before.

## Key results

- `View.Unchanged`, `View.Delivered`: what a run may do to its surroundings
- `FileSystem`: a host that keeps to this
- `Machine.resolve_cases`: a path leads to one and the same name, whatever the files hold
- `Machine.fileSystem`: a machine keeps to it
-/

namespace StructSchema.CommandLine

/-! ## What is seen of a state -/

/-- What is seen of the state of a host. -/
structure View (σ : Type) where
  /-- The files that there are or could be. -/
  File : Type
  /-- The file that a path leads to, whether there is one already or it could be made. -/
  target? : σ → String → Option File
  /-- The bytes of a file that there is. -/
  content? : σ → File → Option ByteArray
  /-- The bytes of standard input. -/
  input : σ → ByteArray
  /-- What was printed. -/
  printed : σ → String

namespace View

variable {σ : Type} (v : View σ)

/-- Nothing was printed, and every path and every file is what it was. -/
structure Unchanged (s s' : σ) : Prop where
  target?_eq : v.target? s' = v.target? s
  content?_eq : v.content? s' = v.content? s
  printed_eq : v.printed s' = v.printed s

/-- The text was put out and nothing else has changed: without a path it was printed, with a path it
    is the whole content of the file that the path leads to. -/
def Delivered (s s' : σ) (output? : Option String) (text : String) : Prop :=
  match output? with
  | none => v.content? s' = v.content? s ∧ v.printed s' = v.printed s ++ text
  | some path =>
    v.printed s' = v.printed s ∧ ∃ file, v.target? s path = some file ∧
      v.target? s' path = some file ∧ v.content? s' file = some text.toUTF8 ∧
      ∀ other, other ≠ file → v.content? s' other = v.content? s other

variable {v}

theorem Unchanged.refl (s : σ) : v.Unchanged s s := ⟨rfl, rfl, rfl⟩

theorem Unchanged.trans {s s' s'' : σ} (h : v.Unchanged s s') (h' : v.Unchanged s' s'') :
    v.Unchanged s s'' :=
  ⟨h'.target?_eq.trans h.target?_eq, h'.content?_eq.trans h.content?_eq,
    h'.printed_eq.trans h.printed_eq⟩

/-- What is put out after nothing has changed is all that is put out. -/
theorem Delivered.of_unchanged {s s' s'' : σ} {output? : Option String} {text : String}
    (h : v.Unchanged s s') (hdelivered : v.Delivered s' s'' output? text) :
    v.Delivered s s'' output? text := by
  unfold Delivered at *
  rwa [h.target?_eq, h.content?_eq, h.printed_eq] at hdelivered

end View

/-- A host that keeps a state, with what is seen of it. -/
structure FileSystem (σ : Type) [Host (StateM σ)] extends View σ where
  /-- Reading a file gives its bytes, or fails. -/
  readFile_ok : ∀ path s bytes, ((Host.readFile path : StateM σ _).run s).1 = .ok bytes →
    ∃ file, target? s path = some file ∧ content? s file = some bytes
  readFile_unchanged : ∀ path s,
    toView.Unchanged s ((Host.readFile path : StateM σ _).run s).2
  readInput_eq : ∀ s, ((Host.readInput : StateM σ _).run s).1 = input s
  readInput_unchanged : ∀ s, toView.Unchanged s ((Host.readInput : StateM σ _).run s).2
  /-- A write that fails has not touched the file. -/
  writeFile_error : ∀ path text s fault,
    ((Host.writeFile path text : StateM σ _).run s).1 = .error fault →
      toView.Unchanged s ((Host.writeFile path text : StateM σ _).run s).2
  /-- A write that does not fail has written the whole text. -/
  writeFile_ok : ∀ path text s, ((Host.writeFile path text : StateM σ _).run s).1 = .ok () →
    toView.Delivered s ((Host.writeFile path text : StateM σ _).run s).2 (some path) text
  print_delivered : ∀ text s,
    toView.Delivered s ((Host.print text : StateM σ _).run s).2 none text

/-! ## Machines -/

/-- The name of the file that there is at a place, or that could be made there. -/
def Place.name? : Place → Option String
  | .file name _ | .free name => some name
  | _ => none

namespace Machine

/-- The name of the file that a path leads to. -/
def target? (m : Machine) (path : String) : Option String :=
  if endsInSlash path then none else (m.resolve path).name?

theorem foldl_enter_lost (m : Machine) (parts : List String) (fault : FileFault) :
    parts.foldl m.enter (.lost fault) = .lost fault := by
  induction parts with
  | nil => rfl
  | cons part parts ih => exact ih

/-- No name leads on. -/
theorem exists_enter_look_eq_lost (m : Machine) (lead name part : String) :
    ∃ fault, m.enter (m.look lead name) part = .lost fault := by
  unfold look
  split
  · exact ⟨_, rfl⟩
  · split <;> exact ⟨_, rfl⟩

/-- From a directory, the parts of a path lead to one and the same name, whatever the files hold, or
    to none. -/
theorem foldl_enter_cases {place : Place} (hplace : place = .here ∨ place = .top)
    (parts : List String) :
    (∃ lead name, ∀ m : Machine, parts.foldl m.enter place = m.look lead name) ∨
      ∀ m : Machine, (parts.foldl m.enter place).name? = none := by
  induction parts generalizing place with
  | nil =>
    right
    intro m
    rcases hplace with rfl | rfl <;> rfl
  | cons part parts ih =>
    -- The first part leads to a directory again, or to a name in the directory.
    have hfirst :
        (∃ next, (next = .here ∨ next = .top) ∧ ∀ m : Machine, m.enter place part = next) ∨
          ∃ lead, ∀ m : Machine, m.enter place part = m.look lead part := by
      rcases hplace with rfl | rfl
      · by_cases hsame : part = "" ∨ part = "."
        · exact .inl ⟨.here, .inl rfl, fun m => by simp [enter, hsame]⟩
        by_cases hup : part = ".."
        · exact .inl ⟨.top, .inr rfl, fun m => by simp [enter, hup]⟩
        · exact .inr ⟨"", fun m => by simp [enter, hsame, hup]⟩
      · by_cases hsame : part = "" ∨ part = "." ∨ part = ".."
        · exact .inl ⟨.top, .inr rfl, fun m => by simp [enter, hsame]⟩
        · exact .inr ⟨"../", fun m => by simp [enter, hsame]⟩
    rcases hfirst with ⟨next, hnext, henter⟩ | ⟨lead, henter⟩
    · simp only [List.foldl_cons, henter]
      exact ih hnext
    · simp only [List.foldl_cons, henter]
      cases parts with
      | nil => exact .inl ⟨lead, part, fun m => rfl⟩
      | cons later parts =>
        right
        intro m
        obtain ⟨fault, hlost⟩ := m.exists_enter_look_eq_lost lead part later
        rw [List.foldl_cons, hlost, foldl_enter_lost]
        rfl

/-- A path leads to one and the same name, whatever the files hold, or to none. -/
theorem resolve_cases (path : String) :
    (∃ lead name, ∀ m : Machine, m.resolve path = m.look lead name) ∨
      ∀ m : Machine, (m.resolve path).name? = none := by
  unfold resolve
  split
  · exact .inr fun _ => rfl
  · refine foldl_enter_cases ?_ _
    split
    · exact .inr rfl
    · exact .inl rfl

theorem look_eq_file {m : Machine} {lead part name : String} {content : ByteArray}
    (h : m.look lead part = .file name content) : m.files.lookup name = some content := by
  unfold look at h
  split at h
  · cases h
  · split at h
    · next hlookup =>
      cases h
      exact hlookup
    · cases h

/-- What a path leads to has the content that the files have under its name. -/
theorem lookup_of_resolve_eq_file {m : Machine} {path name : String} {content : ByteArray}
    (h : m.resolve path = .file name content) : m.files.lookup name = some content := by
  rcases resolve_cases path with ⟨lead, part, hresolve⟩ | hnone
  · rw [hresolve m] at h
    exact look_eq_file h
  · have := hnone m
    rw [h] at this
    cases this

/-- The path that led to the name of a file goes on to do so when the file is given a content. -/
theorem resolve_put {m : Machine} {path name : String} (h : (m.resolve path).name? = some name)
    (content : ByteArray) : (m.put name content).resolve path = .file name content := by
  rcases resolve_cases path with ⟨lead, part, hresolve⟩ | hnone
  · rw [hresolve] at h ⊢
    unfold look at h ⊢
    split at h
    · cases h
    · next hlength =>
      have hname : lead ++ part = name := by
        split at h <;> exact Option.some.inj h
      have hlookup : (m.put name content).files.lookup (lead ++ part) = some content := by
        rw [lookup_put, if_pos hname]
      rw [if_neg hlength, hlookup, hname]
  · rw [hnone m] at h
    cases h

/-- A file is written if its path leads to a name, and then the file of this name. -/
theorem write_of_target? {m : Machine} {path name : String} (h : m.target? path = some name)
    (text : String) : m.write path text = .ok (m.put name text.toUTF8) := by
  unfold target? at h
  split at h
  · cases h
  · next hslash =>
    unfold write
    cases hplace : m.resolve path with
    | file own content =>
      rw [hplace] at h
      obtain rfl := Option.some.inj h
      simp [hslash]
    | free own =>
      rw [hplace] at h
      obtain rfl := Option.some.inj h
      simp [hslash]
    | _ => rw [hplace] at h; cases h

theorem exists_write_eq_error {m : Machine} {path : String} (h : m.target? path = none)
    (text : String) : ∃ fault, m.write path text = .error fault := by
  unfold target? at h
  unfold write
  split at h
  · next hslash => split <;> simp [hslash]
  · cases hplace : m.resolve path with
    | file own content => rw [hplace] at h; cases h
    | free own => rw [hplace] at h; cases h
    | tooLong =>
      simp only
      split <;> exact ⟨_, rfl⟩
    | _ => exact ⟨_, rfl⟩

theorem target?_put {m : Machine} {path name : String} (h : m.target? path = some name)
    (content : ByteArray) : (m.put name content).target? path = some name := by
  unfold target? at *
  split at h
  · cases h
  · next hslash => rw [if_neg hslash, resolve_put h]; rfl

theorem target?_of_read_eq_ok {m : Machine} {path : String} {bytes : ByteArray}
    (h : m.read path = .ok bytes) :
    ∃ name, m.target? path = some name ∧ m.files.lookup name = some bytes := by
  unfold read at h
  cases hplace : m.resolve path with
  | file name content =>
    simp only [hplace] at h
    split at h
    · cases h
    · next hslash =>
      cases h
      refine ⟨name, ?_, lookup_of_resolve_eq_file hplace⟩
      rw [target?, if_neg hslash, hplace]
      rfl
  | _ => simp [hplace] at h

theorem run_writeFile (m : Machine) (path text : String) :
    (Host.writeFile path text : StateM Machine (Except FileFault Unit)).run m =
      match m.write path text with
      | .ok m' => (.ok (), m')
      | .error fault => (.error fault, m) := rfl

theorem run_writeFile_of_target? {m : Machine} {path name : String}
    (h : m.target? path = some name) (text : String) :
    (Host.writeFile path text : StateM Machine _).run m = (.ok (), m.put name text.toUTF8) := by
  rw [run_writeFile, write_of_target? h]

theorem exists_run_writeFile_eq {m : Machine} {path : String} (h : m.target? path = none)
    (text : String) :
    ∃ fault, (Host.writeFile path text : StateM Machine _).run m = (.error fault, m) := by
  obtain ⟨fault, hwrite⟩ := exists_write_eq_error h text
  refine ⟨fault, ?_⟩
  rw [run_writeFile, hwrite]

/-- What is seen of a machine. -/
def view : View Machine where
  File := String
  target? := target?
  content? m name := m.files.lookup name
  input := Machine.input
  printed := Machine.printed

/-- A write on a machine gives the file its content and leaves all others, or does nothing. -/
theorem delivered_put {m : Machine} {path name : String} (h : m.target? path = some name)
    (text : String) : view.Delivered m (m.put name text.toUTF8) (some path) text := by
  refine ⟨rfl, name, h, target?_put h _, ?_, ?_⟩
  · show (m.put name text.toUTF8).files.lookup name = _
    rw [lookup_put, if_pos rfl]
  · intro (other : String) (hother : other ≠ name)
    show (m.put name text.toUTF8).files.lookup other = m.files.lookup other
    rw [lookup_put, if_neg hother]

/-- A machine keeps to what holds of files and streams. -/
def fileSystem : FileSystem Machine where
  toView := view
  readFile_ok _ _ _ h := target?_of_read_eq_ok h
  readFile_unchanged _ m := .refl m
  readInput_eq _ := rfl
  readInput_unchanged m := .refl m
  writeFile_error path text m fault h := by
    cases htarget : m.target? path with
    | some name =>
      rw [run_writeFile_of_target? htarget] at h
      cases h
    | none =>
      obtain ⟨fault, hrun⟩ := exists_run_writeFile_eq htarget text
      rw [hrun]
      exact .refl m
  writeFile_ok path text m h := by
    cases htarget : m.target? path with
    | some name =>
      rw [run_writeFile_of_target? htarget]
      exact delivered_put htarget text
    | none =>
      obtain ⟨fault, hrun⟩ := exists_run_writeFile_eq htarget text
      rw [hrun] at h
      cases h
  print_delivered _ _ := ⟨rfl, rfl⟩

end Machine

end StructSchema.CommandLine
