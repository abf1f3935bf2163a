import RegisterMachine.Text.Utf8

/-!
# Files

Reading a file either yields its bytes or fails for a reason. `Files` is any such
reading; `FileTree` is a directory given in full, in which paths are looked up part
by part.
-/

namespace RegisterMachine

open Text (Bytes)

/-- Why a file cannot be read. -/
inductive ReadFailure where
  | notFound
  | isDirectory
  | notDirectory
  | nameTooLong
  | nulInPath
  | notUtf8
  /-- Any other reason, in the words of the system. -/
  | system (reason : String)
  deriving DecidableEq, Repr

/-- The wording of a failure. -/
def ReadFailure.message : ReadFailure → String
  | .notFound => "No such file or directory (os error 2)"
  | .isDirectory => "Is a directory (os error 21)"
  | .notDirectory => "Not a directory (os error 20)"
  | .nameTooLong => "File name too long (os error 36)"
  | .nulInPath => "file name contained an unexpected NUL byte"
  | .notUtf8 => "stream did not contain valid UTF-8"
  | .system reason => reason

/-- What reading a path yields. -/
abbrev Files := Bytes → Except ReadFailure Bytes

/-- The text of a file. -/
def Files.text (files : Files) (path : Bytes) : Except ReadFailure String :=
  match files path with
  | .error e => .error e
  | .ok bytes =>
    match Text.decode? bytes with
    | some s => .ok s
    | none => .error .notUtf8

/-- A directory with all that is in it. Entries are named by the parts of their path from
the directory. -/
structure FileTree where
  files : List (List Bytes × Bytes)
  directories : List (List Bytes)

namespace FileTree

/-- Where a look-up stands. Nothing is known of what lies outside the tree but that it
is there. -/
inductive Place where
  | directory (parts : List Bytes)
  | file (content : Bytes)
  | outside
  deriving DecidableEq

/-- The parts of a path between slashes. -/
def parts (path : Bytes) : List Bytes := path.splitOnP (· == 0x2F)

/-- Whether a part stays in its directory: it is empty or a dot. -/
def isHere (part : Bytes) : Bool := part = [] || part = [0x2E]

/-- Whether a part leads to the directory above: it is two dots. -/
def isUp (part : Bytes) : Bool := part = [0x2E, 0x2E]

/-- Whether a directory of the tree has this name. What lies in a directory makes it
one. -/
def hasDirectory (t : FileTree) (name : List Bytes) : Bool :=
  t.directories.any (fun d => name.isPrefixOf d) || t.files.any fun file => name.isPrefixOf file.1

/-- The most bytes of a part. -/
def maxPartLength : Nat := 255

/-- The most bytes of a path. -/
def maxPathLength : Nat := 4095

/-- Where a part leads to. -/
def enter (t : FileTree) (place : Place) (part : Bytes) : Except ReadFailure Place :=
  match place with
  | .file _ => .error .notDirectory
  | .outside =>
    if isHere part || isUp part then .ok .outside
    else if maxPartLength < part.length then .error .nameTooLong
    else .error .notFound
  | .directory above =>
    if isHere part then .ok place
    else if isUp part then
      .ok (if above = [] then .outside else .directory above.dropLast)
    else if maxPartLength < part.length then .error .nameTooLong
    else
      let name := above ++ [part]
      match t.files.lookup name with
      | some content => .ok (.file content)
      | none => if t.hasDirectory name then .ok (.directory name) else .error .notFound

/-- Where a path leads to. An absolute path starts outside the tree. -/
def locate (t : FileTree) (path : Bytes) : Except ReadFailure Place :=
  if 0x00 ∈ path then .error .nulInPath
  else if path = [] then .error .notFound
  else if maxPathLength < path.length then .error .nameTooLong
  else
    let start : Place := if path.head? = some 0x2F then .outside else .directory []
    (parts path).foldlM t.enter start

/-- Reads a file of the tree. -/
def read (t : FileTree) : Files := fun path =>
  match t.locate path with
  | .error e => .error e
  | .ok (.file content) => .ok content
  | .ok _ => .error .isDirectory

/-- Reads a file of the tree by its path from the directory `base`. An absolute path
stands for itself. -/
def readFrom (t : FileTree) (base : Bytes) : Files := fun path =>
  t.read (if path.head? = some 0x2F then path else base ++ [0x2F] ++ path)

/-- The names that the parts of a path lead to one after the other, from the directory
`above` on. Nothing is above the top. -/
def route (above : List Bytes) : List Bytes → List (List Bytes)
  | [] => []
  | part :: rest =>
    let name :=
      if isHere part then above
      else if isUp part then above.dropLast
      else above ++ [part]
    name :: route name rest

/-- The tree with a file or a directory at each of the given paths, and with every
directory on the way to it. Of two files at one place the later one stays. -/
def ofPaths (files : List (Bytes × Bytes)) (directories : List Bytes) : FileTree where
  files := (files.map fun file => ((route [] (parts file.1)).getLastD [], file.2)).reverse
  directories :=
    directories.flatMap (fun path => route [] (parts path)) ++
      files.flatMap fun file => (route [] (parts file.1)).dropLast

end FileTree

end RegisterMachine
