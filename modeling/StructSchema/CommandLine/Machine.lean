import StructSchema.CommandLine.Host

/-!
# Machines

A host that is a value: files, standard input, and what was printed so far.

## Key results

- `Machine.lookup_put`: putting a content changes that of no other file
-/

namespace StructSchema.CommandLine

/-- The state of a machine. Its working directory lies directly below the top directory, and there
    are no other directories. -/
structure Machine where
  /-- The files under their paths from the working directory: a name, or `../` and a name. -/
  files : List (String × ByteArray)
  input : ByteArray
  printed : String

/-- Where a path leads, part by part. -/
inductive Place where
  /-- The working directory. -/
  | here
  /-- The top directory. -/
  | top
  /-- A file. -/
  | file (name : String) (content : ByteArray)
  /-- A name that no file has. -/
  | free (name : String)
  /-- A name that no file can have. -/
  | tooLong
  /-- Nowhere, from a part before the last one on. -/
  | lost (fault : FileFault)

/-- The most bytes that a name may take. -/
def nameLimit : Nat := 255

/-- The most bytes that a path may take. -/
def pathLimit : Nat := 4095

namespace Machine

/-- Looks a name up in the directory whose names start with `lead` among the files. -/
def look (m : Machine) (lead name : String) : Place :=
  if nameLimit < name.utf8ByteSize then .tooLong
  else match m.files.lookup (lead ++ name) with
    | some content => .file (lead ++ name) content
    | none => .free (lead ++ name)

/-- Goes on from a place by one part of a path. Only directories lead on. -/
def enter (m : Machine) (place : Place) (part : String) : Place :=
  match place with
  | .here =>
    if part = "" ∨ part = "." then .here
    else if part = ".." then .top
    else m.look "" part
  | .top => if part = "" ∨ part = "." ∨ part = ".." then .top else m.look "../" part
  | .file .. => .lost .notDirectory
  | .free _ => .lost .notFound
  | .tooLong => .lost .nameTooLong
  | .lost fault => .lost fault

/-- The parts of a path between its slashes, without the slashes at its end. -/
def pathParts (path : String) : List String :=
  ((path.toList.reverse.dropWhile (· == '/')).reverse.splitOn '/').map String.ofList

/-- Whether a path ends in a slash, so that it can only be that of a directory. -/
def endsInSlash (path : String) : Bool := path.toList.getLast? == some '/'

/-- Where a path leads from the working directory or, with a slash in front, from the top. -/
def resolve (m : Machine) (path : String) : Place :=
  if pathLimit < path.utf8ByteSize then .lost .nameTooLong
  else (pathParts path).foldl m.enter (if path.toList.head? = some '/' then .top else .here)

/-- The content of the file that a path leads to. -/
def read (m : Machine) (path : String) : Except FileFault ByteArray :=
  match m.resolve path with
  | .here | .top => .error .isDirectory
  | .file _ content => if endsInSlash path then .error .notDirectory else .ok content
  | .free _ => .error .notFound
  | .tooLong => .error .nameTooLong
  | .lost fault => .error fault

/-- The machine in which the file has the content. -/
def put (m : Machine) (name : String) (content : ByteArray) : Machine :=
  { m with files := (name, content) :: m.files.filter (·.1 != name) }

/-- Putting a content changes that of no other file. -/
theorem lookup_put (m : Machine) (name other : String) (content : ByteArray) :
    (m.put name content).files.lookup other =
      if other = name then some content else m.files.lookup other := by
  by_cases h : other = name
  · simp [put, h]
  · have key : (other == name) = false := by simpa using h
    simp only [put, List.lookup_cons, key, h, if_false]
    -- Leaving out the files of that name leaves out nothing that is looked for.
    induction m.files with
    | nil => rfl
    | cons file rest ih =>
      obtain ⟨own, kept⟩ := file
      by_cases hown : own = name
      · simp [List.lookup_cons, hown, key, ih]
      · cases hother : other == own <;> simp [List.lookup_cons, hown, hother, ih]

/-- Gives a text to the file that a path leads to. The file is made if only its name is missing, but
    no file is ever made or written under a path that ends in a slash. -/
def write (m : Machine) (path text : String) : Except FileFault Machine :=
  match m.resolve path with
  | .here | .top => .error .isDirectory
  | .lost fault => .error fault
  | .file name _ | .free name =>
    if endsInSlash path then .error .isDirectory else .ok (m.put name text.toUTF8)
  | .tooLong => if endsInSlash path then .error .isDirectory else .error .nameTooLong

instance : Host (StateM Machine) where
  readFile path := fun m => (m.read path, m)
  readInput := fun m => (m.input, m)
  writeFile path text := fun m =>
    match m.write path text with
    | .ok m' => (.ok (), m')
    | .error fault => (.error fault, m)
  print text := fun m => ((), { m with printed := m.printed ++ text })

end Machine

end StructSchema.CommandLine
