-- A tree of files as a value, and what opening a path in it gives. A path goes
-- from the top of the tree down, name by name; two dots lead up again, and what
-- lies above the top has no names in it.
import MetricCheck.Failure
import MetricCheck.Text.Split

namespace MetricCheck.Cli

/-- Names from the top of a tree down. -/
abbrev Trail := List String

/-- Files with their contents, and directories without. The directories on the way
to an entry are there too. -/
structure FileTree where
  entries : List (Trail × Option ByteArray)

/-- Where a path has led so far. -/
inductive Place where
  | file (content : ByteArray)
  | directory (trail : Trail)
  /-- A directory above the top. -/
  | outside

namespace FileTree

/-- The names of a path, as they stand between slashes. -/
def pathNames (path : String) : Trail :=
  (Text.splitBy (· == '/') path.toList).map String.ofList

/-- The tree of entries that are named by their paths. -/
def ofPaths (entries : List (String × Option ByteArray)) : FileTree :=
  ⟨entries.map fun (path, content) => (pathNames path, content)⟩

/-- What stands at a place of the tree. -/
def at? (t : FileTree) (trail : Trail) : Option Place :=
  match t.entries.find? fun entry => entry.1 = trail with
  | some (_, some content) => some (.file content)
  | some (_, none) => some (.directory trail)
  | none =>
    if t.entries.any fun entry => trail.isPrefixOf entry.1 then some (.directory trail) else none

/-- The longest name in bytes. -/
def maxName : Nat := 255

/-- The longest path in bytes. -/
def maxPath : Nat := 4095

/-- One name further. A name of no characters and a dot stay where they are. -/
def enter (t : FileTree) (place : Place) (name : String) : Except InputError Place :=
  match place with
  | .file _ => .error .notDirectory
  | .outside =>
    if name = "" ∨ name = "." ∨ name = ".." then .ok .outside
    else if maxName < name.utf8ByteSize then .error .nameTooLong
    else .error .notFound
  | .directory trail =>
    if name = "" ∨ name = "." then .ok place
    else if name = ".." then
      if trail.isEmpty then .ok .outside else .ok (.directory trail.dropLast)
    else if maxName < name.utf8ByteSize then .error .nameTooLong
    else
      match t.at? (trail ++ [name]) with
      | some next => .ok next
      | none => .error .notFound

/-- Where a path from the top leads. One that begins with a slash begins outside. -/
def resolve (t : FileTree) (path : String) : Except InputError Place :=
  if path = "" then .error .notFound
  else if maxPath < path.utf8ByteSize then .error .nameTooLong
  else
    let top : Place := if path.toList.head? = some '/' then .outside else .directory []
    (pathNames path).foldlM t.enter top

/-- The content of the file that a path names. -/
def read (t : FileTree) (path : String) : Except InputError ByteArray :=
  match t.resolve path with
  | .error e => .error e
  | .ok (.file content) => .ok content
  | .ok _ => .error .isDirectory

end FileTree

end MetricCheck.Cli
