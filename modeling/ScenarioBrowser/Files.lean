/-!
# A working directory

The browser reads a configuration file and appends to a log file. Both are named by
paths, mostly relative to the working directory, so what it sees of a file system is the
content of that directory: files and directories by their place in it.

A path is looked up segment by segment. An empty segment and `.` stay where they are,
`..` goes up, and any other segment goes down; each of the three needs a directory to
stand in. So `x.toml/` never names the file `x.toml`, and `a/../b` names `b` only if
`a` is a directory. A path of 4096 bytes or more is not looked up at all.

A path can leave the working directory, upwards or because it begins at the root. Out
there only a few directories are known to exist and no file is known, but a file in one
of these directories can be written to.

That there is a file does not say that it can be read. Here every file can, but whoever
reads files has to know what to do with the others.

## Main results

* `find?_set_self` — a file that was set is found.
* `read?_of_limit` — a path that is too long names nothing.
-/

namespace ScenarioBrowser

/-- What reading a regular file gives. -/
inductive FileReading where
  /-- Its bytes. -/
  | bytes (content : ByteArray)
  /-- It is there and cannot be read. -/
  | refused

/-- The text of a file, unless it cannot be read or its bytes are no text. -/
def FileReading.text? : FileReading → Option String
  | bytes content => String.fromUTF8? content
  | refused => none

/-- A file with its bytes, or a directory. -/
inductive Entry where
  | file (content : ByteArray)
  | directory

/-- The content of a working directory. Entries are named by their place, the segments
that lead to them; directories on the way need no entry of their own. -/
structure Files where
  entries : List (List String × Entry) := []

/-- Where the way to a place begins. -/
inductive Origin where
  /-- The working directory. -/
  | working
  /-- A directory above the working directory. -/
  | above
  /-- The root of the file system. -/
  | root
deriving DecidableEq, Repr

/-- A place in the file system: where the way to it begins, and the names on the way. -/
structure Place where
  origin : Origin := .working
  names : List String := []
deriving DecidableEq, Repr

/-- The directory that a place lies in. Above the root there is nothing but the root. -/
def Place.up (place : Place) : Place :=
  if place.names ≠ [] then { place with names := place.names.dropLast }
  else if place.origin = .working then ⟨.above, []⟩
  else place

namespace Files

/-! ## Entries -/

/-- The entry of some names. -/
def find? (files : Files) (names : List String) : Option Entry :=
  (files.entries.find? fun entry => entry.1 == names).map Prod.snd

/-- True if names lead to a directory: to the working directory itself, to an entry that is
one, or to a place on the way to some other entry. -/
def holdsDirectory (files : Files) (names : List String) : Bool :=
  names.isEmpty || files.entries.any fun (place, entry) =>
    match entry with
    | .directory => names.isPrefixOf place
    | .file _ => names.isPrefixOf place && names ≠ place

/-- The content of the file of some names. -/
def content? (files : Files) (names : List String) : Option ByteArray :=
  match files.find? names with
  | some (.file content) => some content
  | _ => none

/-- The files with an entry in front of all others. -/
def set (files : Files) (names : List String) (entry : Entry) : Files :=
  ⟨(names, entry) :: files.entries⟩

@[simp] theorem find?_set_self (files : Files) (names : List String) (entry : Entry) :
    (files.set names entry).find? names = some entry := by
  simp [find?, set]

/-! ## Places -/

/-- The directories that are known below the root, the working directory apart. -/
def knownDirectories : List (List String) := [[], ["dev"], ["tmp"]]

/-- True if a place is known to be a directory. -/
def isDirectory (files : Files) (place : Place) : Bool :=
  match place.origin with
  | .working => files.holdsDirectory place.names
  | .above => place.names.isEmpty
  | .root => knownDirectories.contains place.names

/-! ## Paths -/

/-- Walks from a place along the segments of a path. -/
def walk? (files : Files) (place : Place) : List String → Option Place
  | [] => some place
  | segment :: rest =>
    if !files.isDirectory place then none
    else if segment = "" ∨ segment = "." then files.walk? place rest
    else if segment = ".." then files.walk? place.up rest
    else files.walk? { place with names := place.names ++ [segment] } rest

/-- The number of bytes that a path must not reach. -/
def pathLimit : Nat := 4096

/-- Where the way that a path describes begins, and its segments; the empty path and those
that are too long describe none. -/
def segments? (path : String) : Option (Origin × List String) :=
  if pathLimit ≤ path.utf8ByteSize then none
  else
    match path.toList with
    | [] => none
    | first :: rest =>
      some (if first = '/' then .root else .working,
        ((first :: rest).splitOn '/').map String.ofList)

/-- The place that a path names. -/
def place? (files : Files) (path : String) : Option Place := do
  let (origin, segments) ← segments? path
  files.walk? ⟨origin, []⟩ segments

/-- What reading the regular file gives that a path names, if it names one. -/
def read? (files : Files) (path : String) : Option FileReading := do
  let place ← files.place? path
  if place.origin = .working then (files.content? place.names).map .bytes else none

/-- A path that is too long names nothing. -/
theorem read?_of_limit (files : Files) {path : String} (h : pathLimit ≤ path.utf8ByteSize) :
    files.read? path = none := by
  simp [read?, place?, segments?, h]

/-! ## Appending -/

/-- The longest name that an entry can have, in bytes. -/
def nameLimit : Nat := 255

/-- Names that a new file can have. -/
def isFileName (name : String) : Bool :=
  name ≠ "" && name ≠ "." && name ≠ ".." && name.utf8ByteSize ≤ nameLimit
    && !name.toList.contains '\x00'

/--
The files after a path was opened for appending, unless that is refused. A file that is
there keeps its content, and one that is not there is made if its directory exists; of
files outside the working directory nothing is seen afterwards.
-/
def openForAppend? (files : Files) (path : String) : Option Files := do
  let (origin, segments) ← segments? path
  let name ← segments.getLast?
  if !isFileName name then none
  let directory ← files.walk? ⟨origin, []⟩ segments.dropLast
  if !files.isDirectory directory then none
  let place := { directory with names := directory.names ++ [name] }
  if files.isDirectory place then none
  else if place.origin ≠ .working || (files.content? place.names).isSome then some files
  else some (files.set place.names (.file ByteArray.empty))

/-- The files that stand directly in the working directory, by name. -/
def topLevel (files : Files) : List (String × ByteArray) :=
  let plain := files.entries.filterMap fun (place, entry) =>
    match place, entry with
    | [name], .file content => some (name, content)
    | _, _ => none
  plain.mergeSort fun a b => a.1 ≤ b.1

end Files

end ScenarioBrowser
