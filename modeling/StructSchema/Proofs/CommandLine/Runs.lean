import Mathlib.Control.Monad.Basic
import StructSchema.CommandLine.Run
import StructSchema.Proofs.CommandLine.FileSystem
import StructSchema.Proofs.CommandLine.Options

/-!
# Runs of the program

A run reads its text, converts it and then writes the result. Whatever keeps the files, a run that
fails has changed nothing, and how a run ends depends on the text alone and not on the way that the
text comes in and the result goes out.

## Key results

- `FileSystem.Performed`, `FileSystem.performed_perform`: everything that a request can do
- `run_unchanged_or_delivered`: a run changes nothing or puts out its whole result
- `run_spelled`: how the options are written does not matter
- `runs_agree`: runs on the same text end in the same way
-/

namespace StructSchema.CommandLine

/-- Bytes are decoded if they are the encoding of a text. -/
theorem decode_eq_ok_iff {bytes : ByteArray} {text : String} :
    decode bytes = .ok text ↔ bytes = text.toUTF8 := by
  have hencoded : String.fromUTF8? bytes = some text ↔ bytes = text.toUTF8 := by
    unfold String.fromUTF8?
    constructor
    · intro h
      split at h
      · cases h
        rfl
      · cases h
    · rintro rfl
      exact dif_pos text.isValidUTF8
  rw [← hencoded, decode]
  cases String.fromUTF8? bytes <;> simp

theorem Request.result_eq_convert {r : Request} (h : r.target ≠ .description) (text : String) :
    r.result text = convert r.target r.options text := by
  unfold Request.result
  cases convert r.target r.options text <;> simp [Except.map, h]

theorem run_bind_of_run_eq {σ α β : Type} {x : StateM σ α} {s s' : σ} {a : α}
    (h : x.run s = (a, s')) (next : α → StateM σ β) : (x >>= next).run s = (next a).run s' := by
  rw [StateT.run_bind, h]
  rfl

variable {σ : Type} [Host (StateM σ)]

/-- The file that is to be read, if there is one, can be read. -/
def Readable (s : σ) (input? : Option String) : Prop :=
  ∀ path, input? = some path → ∃ bytes, ((Host.readFile path : StateM σ _).run s).1 = .ok bytes

/-! ## The steps of a request -/

section Steps

variable {r : Request} {s s' s'' : σ} {text out : String} {fault : FileFault}

theorem Request.run_perform_of_unread
    (hread : (readText r.input? : StateM σ _).run s = (.error fault, s')) :
    (r.perform : StateM σ Outcome).run s = (.failed (.file fault), s') := by
  rw [Request.perform, run_bind_of_run_eq hread]
  rfl

theorem Request.run_perform_of_inconvertible {error : Error}
    (hread : (readText r.input? : StateM σ _).run s = (.ok text, s'))
    (hresult : r.result text = .error error) :
    (r.perform : StateM σ Outcome).run s = (.failed (.conversion error), s') := by
  rw [Request.perform, run_bind_of_run_eq hread]
  simp only [hresult]
  rfl

theorem Request.run_perform_of_unwritten
    (hread : (readText r.input? : StateM σ _).run s = (.ok text, s'))
    (hresult : r.result text = .ok out)
    (hwrite : (writeText r.output? out : StateM σ _).run s' = (.error fault, s'')) :
    (r.perform : StateM σ Outcome).run s = (.failed (.file fault), s'') := by
  rw [Request.perform, run_bind_of_run_eq hread]
  simp only [hresult]
  rw [run_bind_of_run_eq hwrite]
  rfl

theorem Request.run_perform_of_written
    (hread : (readText r.input? : StateM σ _).run s = (.ok text, s'))
    (hresult : r.result text = .ok out)
    (hwrite : (writeText r.output? out : StateM σ _).run s' = (.ok (), s'')) :
    (r.perform : StateM σ Outcome).run s = (.done, s'') := by
  rw [Request.perform, run_bind_of_run_eq hread]
  simp only [hresult]
  rw [run_bind_of_run_eq hwrite]
  rfl

end Steps

namespace FileSystem

variable (fs : FileSystem σ)

/-! ## What a request does -/

/-- What a run gets to read, from a file or from standard input. -/
def text? (s : σ) (input? : Option String) : Except FileFault String :=
  match input? with
  | some path => ((Host.readFile path : StateM σ _).run s).1.bind decode
  | none => decode (fs.input s)

theorem run_readText (s : σ) (input? : Option String) :
    ∃ s', (readText input? : StateM σ _).run s = (fs.text? s input?, s') ∧ fs.Unchanged s s' := by
  cases input? with
  | some path => exact ⟨_, rfl, fs.readFile_unchanged path s⟩
  | none =>
    refine ⟨_, ?_, fs.readInput_unchanged s⟩
    rw [text?, ← fs.readInput_eq s]
    rfl

/-- A text is written, or a file is left as it was. -/
theorem run_writeText (s : σ) (output? : Option String) (text : String) :
    (∃ s', (writeText output? text : StateM σ _).run s = (.ok (), s') ∧
        fs.Delivered s s' output? text) ∨
      ∃ path fault s', output? = some path ∧
        (writeText output? text : StateM σ _).run s = (.error fault, s') ∧
        ((Host.writeFile path text : StateM σ _).run s).1 = .error fault ∧ fs.Unchanged s s' := by
  cases output? with
  | none => exact .inl ⟨_, rfl, fs.print_delivered text s⟩
  | some path =>
    show (∃ s', (Host.writeFile path text : StateM σ _).run s = (.ok (), s') ∧ _) ∨
      ∃ path' fault s', some path = some path' ∧
        (Host.writeFile path text : StateM σ _).run s = (.error fault, s') ∧ _
    cases hwrite : (Host.writeFile path text : StateM σ (Except FileFault Unit)).run s with
    | mk result s' =>
      cases result with
      | ok =>
        left
        have hdelivered := fs.writeFile_ok path text s (by rw [hwrite])
        rw [hwrite] at hdelivered
        exact ⟨s', rfl, hdelivered⟩
      | error fault =>
        right
        have hunchanged := fs.writeFile_error path text s fault (by rw [hwrite])
        rw [hwrite] at hunchanged
        exact ⟨path, fault, s', rfl, rfl, by rw [hwrite], hunchanged⟩

/-- Everything that a request can do: fail before it writes, fail in writing, or succeed. -/
inductive Performed (r : Request) (s : σ) : Outcome → σ → Prop
  | unreadable {fault s'} :
      fs.text? s r.input? = .error fault → fs.Unchanged s s' →
      Performed r s (.failed (.file fault)) s'
  | inconvertible {text error s'} :
      fs.text? s r.input? = .ok text → r.result text = .error error → fs.Unchanged s s' →
      Performed r s (.failed (.conversion error)) s'
  | unwritable {text out path fault s' s''} :
      fs.text? s r.input? = .ok text → r.result text = .ok out → r.output? = some path →
      fs.Unchanged s s' → ((Host.writeFile path out : StateM σ _).run s').1 = .error fault →
      fs.Unchanged s s'' → Performed r s (.failed (.file fault)) s''
  | done {text out s'} :
      fs.text? s r.input? = .ok text → r.result text = .ok out →
      fs.Delivered s s' r.output? out → Performed r s .done s'

/-- A request does nothing else. -/
theorem performed_perform (r : Request) (s : σ) :
    ∃ outcome s', (r.perform : StateM σ _).run s = (outcome, s') ∧
      fs.Performed r s outcome s' := by
  obtain ⟨s₁, hread, hunchanged⟩ := fs.run_readText s r.input?
  cases htext : fs.text? s r.input? with
  | error fault =>
    rw [htext] at hread
    exact ⟨_, s₁, Request.run_perform_of_unread hread, .unreadable htext hunchanged⟩
  | ok text =>
    rw [htext] at hread
    cases hresult : r.result text with
    | error error =>
      exact ⟨_, s₁, Request.run_perform_of_inconvertible hread hresult,
        .inconvertible htext hresult hunchanged⟩
    | ok out =>
      rcases fs.run_writeText s₁ r.output? out with
        ⟨s₂, hwrite, hdelivered⟩ | ⟨path, fault, s₂, hpath, hwrite, hfault, hlater⟩
      · exact ⟨_, s₂, Request.run_perform_of_written hread hresult hwrite,
          .done htext hresult (.of_unchanged hunchanged hdelivered)⟩
      · exact ⟨_, s₂, Request.run_perform_of_unwritten hread hresult hwrite,
          .unwritable htext hresult hpath hunchanged hfault (hunchanged.trans hlater)⟩

/-! ## What a run is given -/

/-- The text is what stands in the file that is to be read or, without one, on standard input. -/
def Holds (s : σ) (input? : Option String) (text : String) : Prop :=
  match input? with
  | some path => ∃ file, fs.target? s path = some file ∧ fs.content? s file = some text.toUTF8
  | none => fs.input s = text.toUTF8

/-- The file that is to be written, if there is one, can be written for as long as nothing has
    changed. -/
def Writable (s : σ) (output? : Option String) : Prop :=
  ∀ path, output? = some path → ∀ s', fs.Unchanged s s' → ∀ text,
    ((Host.writeFile path text : StateM σ _).run s').1 = .ok ()

variable {fs}

theorem holds_of_text?_eq_ok {s : σ} {input? : Option String} {text : String}
    (h : fs.text? s input? = .ok text) : fs.Holds s input? text := by
  cases input? with
  | none => exact decode_eq_ok_iff.1 h
  | some path =>
    unfold text? at h
    cases hread : ((Host.readFile path : StateM σ (Except FileFault ByteArray)).run s).1 with
    | error fault => simp [hread, Except.bind] at h
    | ok bytes =>
      simp only [hread, Except.bind] at h
      rw [Holds, ← decode_eq_ok_iff.1 h]
      exact fs.readFile_ok path s bytes hread

theorem text?_eq_ok {s : σ} {input? : Option String} {text : String}
    (hreadable : Readable s input?) (hholds : fs.Holds s input? text) :
    fs.text? s input? = .ok text := by
  cases input? with
  | none => exact decode_eq_ok_iff.2 hholds
  | some path =>
    obtain ⟨bytes, hread⟩ := hreadable path rfl
    obtain ⟨file, htarget, hcontent⟩ := fs.readFile_ok path s bytes hread
    obtain ⟨file', htarget', hcontent'⟩ := hholds
    -- The path leads to one file, which has one content.
    obtain rfl := Option.some.inj (htarget.symm.trans htarget')
    obtain rfl := Option.some.inj (hcontent.symm.trans hcontent')
    simp only [text?, hread, Except.bind]
    exact decode_eq_ok_iff.2 rfl

end FileSystem

/-! ## What a run does -/

theorem run_eq_perform {arguments : List String} {r : Request}
    (h : Request.ofArguments arguments = .ok r) :
    (run arguments : StateM σ Outcome) = r.perform := by
  rw [run, h]

/-- Unless its arguments ask for help, a run that does not succeed has printed nothing and left
    every file as it was; a run that succeeds has put out the whole result of the text that it was
    given and changed nothing else. -/
theorem run_unchanged_or_delivered (fs : FileSystem σ) {arguments : List String}
    (hhelp : Request.ofArguments arguments ≠ .error .help) (s : σ) :
    ∃ outcome s', (run arguments : StateM σ Outcome).run s = (outcome, s') ∧
      (outcome.exitCode ≠ 0 → fs.Unchanged s s') ∧
      (outcome.exitCode = 0 → ∃ r text out, Request.ofArguments arguments = .ok r ∧
        fs.Holds s r.input? text ∧ r.result text = .ok out ∧
        (r.output? ≠ none → convert r.target r.options text = .ok out) ∧
        fs.Delivered s s' r.output? out) := by
  cases hrequest : Request.ofArguments arguments with
  | error stop =>
    cases stop with
    | help => exact absurd hrequest hhelp
    | refused =>
      refine ⟨.refused, s, ?_, fun _ => .refl s, nofun⟩
      rw [run, hrequest]
      rfl
  | ok r =>
    obtain ⟨outcome, s', hrun, hperformed⟩ := fs.performed_perform r s
    refine ⟨outcome, s', by rw [run_eq_perform hrequest, hrun], ?_, ?_⟩
    · intro hcode
      cases hperformed with
      | unreadable _ hunchanged | inconvertible _ _ hunchanged
      | unwritable _ _ _ _ _ hunchanged => exact hunchanged
      | done => exact absurd rfl hcode
    · intro hcode
      cases hperformed with
      | unreadable | inconvertible | unwritable => cases hcode
      | @done text out _ htext hresult hdelivered =>
        refine ⟨r, text, out, rfl, FileSystem.holds_of_text?_eq_ok htext, hresult, ?_, hdelivered⟩
        intro houtput
        obtain ⟨path, hpath⟩ := Option.ne_none_iff_exists'.1 houtput
        -- What goes to a file is no description, to which a line end would be added.
        rwa [Request.result_eq_convert (Request.target_ne_description hrequest hpath)] at hresult

/-- A file that is to be read and to be written is kept by a run that fails, and holds the result of
    a run that succeeds. -/
theorem run_unchanged_or_delivered_sameFile :
    Request.ofArguments ["proto", "-i", "a", "-o", "a"] ≠ .error .help ∧
    (∃ outcome m', (run ["proto", "-i", "a", "-o", "a"] : StateM Machine Outcome).run
        ⟨[("a", "type A".toUTF8)], .empty, ""⟩ = (outcome, m') ∧ outcome.exitCode = 1 ∧
      m'.printed = "" ∧ m'.files.lookup "a" = some "type A".toUTF8) ∧
    ∃ outcome m', (run ["proto", "-i", "a", "-o", "a"] : StateM Machine Outcome).run
        ⟨[("a", "type A struct \x7b\x7d".toUTF8)], .empty, ""⟩ = (outcome, m') ∧
      outcome.exitCode = 0 ∧ m'.printed = "" ∧ m'.files.lookup "a" =
        some "syntax = \"proto3\";\n\nmessage A \x7b\n\x7d\n".toUTF8 := by
  have hrequest : Request.ofArguments ["proto", "-i", "a", "-o", "a"] =
      .ok ⟨.messages, some "a", some "a", {}⟩ := by decide +kernel
  have hhelp : Request.ofArguments ["proto", "-i", "a", "-o", "a"] ≠ .error .help := by
    rw [hrequest]
    nofun
  refine ⟨hhelp, ?_, ?_⟩
  · obtain ⟨outcome, m', hrun, hfailed, -⟩ := run_unchanged_or_delivered Machine.fileSystem hhelp
      ⟨[("a", "type A".toUTF8)], .empty, ""⟩
    have hcode : outcome.exitCode = 1 :=
      (congrArg (·.1.exitCode) hrun).symm.trans (by decide +kernel)
    have hunchanged := hfailed (by rw [hcode]; decide)
    exact ⟨outcome, m', hrun, hcode, hunchanged.printed_eq, congrFun hunchanged.content?_eq "a"⟩
  · obtain ⟨outcome, m', hrun, -, hdone⟩ := run_unchanged_or_delivered Machine.fileSystem hhelp
      ⟨[("a", "type A struct \x7b\x7d".toUTF8)], .empty, ""⟩
    have hcode : outcome.exitCode = 0 :=
      (congrArg (·.1.exitCode) hrun).symm.trans (by decide +kernel)
    obtain ⟨r, text, out, hr, hholds, hresult, -, hdelivered⟩ := hdone hcode
    obtain rfl := Except.ok.inj (hrequest.symm.trans hr)
    obtain ⟨file, hfile, hcontent⟩ := hholds
    obtain ⟨hprinted, file', hfile', -, hcontent', -⟩ := hdelivered
    -- The path leads to the one file, which held the text and now holds its messages.
    have htarget : Machine.target? ⟨[("a", "type A struct \x7b\x7d".toUTF8)], .empty, ""⟩ "a" =
        some "a" := by decide +kernel
    obtain rfl := Option.some.inj (htarget.symm.trans hfile)
    obtain rfl := Option.some.inj (htarget.symm.trans hfile')
    obtain rfl := String.toByteArray_inj.1 (Option.some.inj hcontent)
    have hmessages : (⟨.messages, some "a", some "a", {}⟩ : Request).result
        "type A struct \x7b\x7d" =
        .ok "syntax = \"proto3\";\n\nmessage A \x7b\n\x7d\n" := by decide +kernel
    obtain rfl := Except.ok.inj (hmessages.symm.trans hresult)
    exact ⟨outcome, m', hrun, hcode, hprinted, hcontent'⟩

/-! ## Runs on the same text -/

/-- A machine can write every path that leads to a name. -/
theorem Machine.writable_of_target? {m : Machine} {path name : String}
    (h : m.target? path = some name) : Machine.fileSystem.Writable m (some path) := by
  intro path' hpath m' hunchanged text
  obtain rfl := Option.some.inj hpath
  have htarget : m'.target? path = some name := (congrFun hunchanged.target?_eq path).trans h
  rw [Machine.run_writeFile_of_target? htarget]

/-- How a run of a command with values of its options ends on a text: with the error of the text, or
    with the text converted as the options say, behind which a description has a line end. -/
def FileSystem.Answered (fs : FileSystem σ) (target : Target) (given : Values) (text : String)
    (s : σ) (outcome : Outcome) (s' : σ) : Prop :=
  match convert target
    { tagKey := (given.lookup .tag).getD "json", package? := given.lookup .package } text with
  | .error error => outcome = .failed (.conversion error) ∧ fs.Unchanged s s'
  | .ok out =>
    outcome = .done ∧ fs.Delivered s s' (given.lookup .output)
      (if target = .description then out ++ "\n" else out)

theorem FileSystem.exists_answered {fs : FileSystem σ} {target : Target} {given : Values}
    {text : String} {arguments : List String} {s : σ}
    (hasked : Request.ofArguments arguments = .ok (.ofValues target given))
    (hholds : fs.Holds s (given.lookup .input) text) (hreadable : Readable s (given.lookup .input))
    (hwritable : fs.Writable s (given.lookup .output)) :
    ∃ outcome s', (run arguments : StateM σ Outcome).run s = (outcome, s') ∧
      fs.Answered target given text s outcome s' := by
  obtain ⟨outcome, s', hrun, hperformed⟩ := fs.performed_perform (.ofValues target given) s
  refine ⟨outcome, s', by rw [run_eq_perform hasked, hrun], ?_⟩
  have hread : fs.text? s (given.lookup .input) = .ok text := text?_eq_ok hreadable hholds
  have hresult : (Request.ofValues target given).result text = (convert target
      { tagKey := (given.lookup .tag).getD "json", package? := given.lookup .package } text).map
        fun out => if target = .description then out ++ "\n" else out := rfl
  unfold Answered
  cases hperformed with
  | unreadable hfault => cases hfault.symm.trans hread
  | unwritable _ _ hpath hunchanged hfault =>
    cases hfault.symm.trans (hwritable _ hpath _ hunchanged _)
  | inconvertible htext herror hunchanged =>
    cases htext.symm.trans hread
    rw [hresult] at herror
    cases hconvert : convert target _ text with
    | ok out => rw [hconvert] at herror; cases herror
    | error error =>
      rw [hconvert] at herror
      cases herror
      exact ⟨rfl, hunchanged⟩
  | done htext hout hdelivered =>
    cases htext.symm.trans hread
    rw [hresult] at hout
    cases hconvert : convert target _ text with
    | error error => rw [hconvert] at hout; cases hout
    | ok out =>
      rw [hconvert] at hout
      cases hout
      exact ⟨rfl, hdelivered⟩

/-- Arguments that ask for a request make the same run as those that spell its options out. -/
theorem run_spelled {arguments : List String} {command : String} {target : Target} {given : Values}
    (hasked : Request.ofArguments arguments = .ok (.ofValues target given))
    (hcommand : (command, target) ∈ commands)
    (hallowed : ∀ entry ∈ given, entry.1 ∈ optionsOf target ∧ entry.1.admits entry.2 = true)
    (hnodup : (given.map Prod.fst).Nodup) :
    (run (command :: given.spelled) : StateM σ Outcome) = run arguments := by
  rw [run_eq_perform (Request.ofArguments_spelled hcommand hallowed hnodup), run_eq_perform hasked]

/-- How a run ends depends on the text alone. -/
theorem FileSystem.Answered.outcome_eq {fs : FileSystem σ} {target : Target} {given : Values}
    {text : String} {s s' : σ} {outcome : Outcome}
    (h : fs.Answered target given text s outcome s') :
    outcome = match parse text with
      | .error error => .failed (.conversion error)
      | .ok _ => .done := by
  unfold FileSystem.Answered convert at h
  cases hparse : parse text with
  | error error =>
    rw [hparse] at h
    exact h.1
  | ok structs =>
    rw [hparse] at h
    exact h.1

/-- Two runs on the same text end in the same way, whether it comes from a file or from standard
    input, wherever the result goes and whatever the command and its options are. Each has put out
    what the text is converted to, so that runs of the same command with the same package and tag
    key put out the same. Nor does it matter how the options are written: spelling them out makes
    the same run. -/
theorem runs_agree (fs : FileSystem σ) {text : String} {target target' : Target}
    {given given' : Values} {arguments arguments' : List String} {s s' : σ}
    (hasked : Request.ofArguments arguments = .ok (.ofValues target given))
    (hasked' : Request.ofArguments arguments' = .ok (.ofValues target' given'))
    (hholds : fs.Holds s (given.lookup .input) text)
    (hholds' : fs.Holds s' (given'.lookup .input) text)
    (hreadable : Readable s (given.lookup .input)) (hreadable' : Readable s' (given'.lookup .input))
    (hwritable : fs.Writable s (given.lookup .output))
    (hwritable' : fs.Writable s' (given'.lookup .output)) :
    ∃ outcome after after', (run arguments : StateM σ Outcome).run s = (outcome, after) ∧
      (run arguments' : StateM σ Outcome).run s' = (outcome, after') ∧
      fs.Answered target given text s outcome after ∧
      fs.Answered target' given' text s' outcome after' ∧
      (target = target' → given.lookup .tag = given'.lookup .tag →
        given.lookup .package = given'.lookup .package → outcome = .done →
        ∃ out, fs.Delivered s after (given.lookup .output) out ∧
          fs.Delivered s' after' (given'.lookup .output) out) ∧
      (∀ command, (command, target) ∈ commands →
        (∀ entry ∈ given, entry.1 ∈ optionsOf target ∧ entry.1.admits entry.2 = true) →
        (given.map Prod.fst).Nodup →
        (run (command :: given.spelled) : StateM σ Outcome).run s = (outcome, after)) := by
  obtain ⟨outcome, after, hrun, hanswered⟩ :=
    FileSystem.exists_answered hasked hholds hreadable hwritable
  obtain ⟨outcome', after', hrun', hanswered'⟩ :=
    FileSystem.exists_answered hasked' hholds' hreadable' hwritable'
  obtain rfl : outcome = outcome' := hanswered.outcome_eq.trans hanswered'.outcome_eq.symm
  refine ⟨outcome, after, after', hrun, hrun', hanswered, hanswered', ?_, ?_⟩
  · rintro rfl htag hpackage rfl
    unfold FileSystem.Answered at hanswered hanswered'
    rw [← htag, ← hpackage] at hanswered'
    -- Both runs convert the text in the same way.
    cases hconvert : convert target _ text with
    | error error =>
      rw [hconvert] at hanswered
      cases hanswered.1
    | ok out =>
      rw [hconvert] at hanswered hanswered'
      exact ⟨_, hanswered.2, hanswered'.2⟩
  · intro command hcommand hallowed hnodup
    rw [run_spelled hasked hcommand hallowed hnodup, hrun]

/-- What goes from one file to another is what goes from standard input to standard output, and the
    options of the first run may as well be spelled out. -/
theorem runs_agree_filesAndStreams :
    ∃ outcome after after' out,
      (run ["tags", "-t", "yaml", "-i", "a", "-o", "b"] : StateM Machine Outcome).run
        ⟨[("a", "type A struct \x7b\x7d".toUTF8)], .empty, ""⟩ = (outcome, after) ∧
      (run ["tags", "--tag=yaml", "--input=a", "--output=b"] : StateM Machine Outcome).run
        ⟨[("a", "type A struct \x7b\x7d".toUTF8)], .empty, ""⟩ = (outcome, after) ∧
      (run ["tags", "--tag=yaml"] : StateM Machine Outcome).run
        ⟨[], "type A struct \x7b\x7d".toUTF8, ""⟩ = (outcome, after') ∧
      outcome.exitCode = 0 ∧ after.files.lookup "b" = some out.toUTF8 ∧ after'.printed = out := by
  have hasked : Request.ofArguments ["tags", "-t", "yaml", "-i", "a", "-o", "b"] =
      .ok (.ofValues .declarations [(.output, "b"), (.input, "a"), (.tag, "yaml")]) := by
    decide +kernel
  have hasked' : Request.ofArguments ["tags", "--tag=yaml"] =
      .ok (.ofValues .declarations [(.tag, "yaml")]) := by
    decide +kernel
  have hsource : Machine.target? ⟨[("a", "type A struct \x7b\x7d".toUTF8)], .empty, ""⟩ "a" =
      some "a" := by decide +kernel
  have hholds : Machine.fileSystem.Holds ⟨[("a", "type A struct \x7b\x7d".toUTF8)], .empty, ""⟩
      (some "a") "type A struct \x7b\x7d" := ⟨"a", hsource, rfl⟩
  have hholds' : Machine.fileSystem.Holds ⟨[], "type A struct \x7b\x7d".toUTF8, ""⟩
      none "type A struct \x7b\x7d" := rfl
  have hreadable : Readable (⟨[("a", "type A struct \x7b\x7d".toUTF8)], .empty, ""⟩ : Machine)
      (some "a") := by
    intro path hpath
    cases hpath
    exact ⟨"type A struct \x7b\x7d".toUTF8, by decide +kernel⟩
  have hwritable : Machine.fileSystem.Writable
      ⟨[("a", "type A struct \x7b\x7d".toUTF8)], .empty, ""⟩ (some "b") :=
    Machine.writable_of_target? (by decide +kernel : _ = some "b")
  obtain ⟨outcome, after, after', hrun, hrun', hanswered, -, hsame, hspelled⟩ :=
    runs_agree Machine.fileSystem hasked hasked' hholds hholds' hreadable nofun hwritable nofun
  have hdone : outcome = .done := hanswered.outcome_eq.trans (by decide +kernel)
  obtain ⟨out, hdelivered, hdelivered'⟩ := hsame rfl rfl rfl hdone
  obtain ⟨-, file, hfile, -, hcontent, -⟩ := hdelivered
  obtain ⟨-, hprinted⟩ := hdelivered'
  have htarget : Machine.target? ⟨[("a", "type A struct \x7b\x7d".toUTF8)], .empty, ""⟩ "b" =
      some "b" := by decide +kernel
  obtain rfl := Option.some.inj (htarget.symm.trans hfile)
  have hrun'' := hspelled "tags" (by decide) (by decide) (by decide)
  exact ⟨outcome, after, after', out, hrun, hrun'', hrun', by rw [hdone]; rfl, hcontent, hprinted⟩

end StructSchema.CommandLine
