import AmqpHandshake.Error.FileFault
import AmqpHandshake.Text.Cut

/-! A tree of files below a working directory, and reading and writing by path. -/
namespace AmqpHandshake

/-- What reading the file at a path gives. -/
abbrev FileReader := String → Except FileFault ByteArray

/-- A file with its bytes, or a directory that may be empty. -/
inductive FileEntry
  | file (bytes : ByteArray)
  | directory

def FileEntry.isDirectory : FileEntry → Bool
  | .file _ => false
  | .directory => true

/-- The entries below a working directory, each with the names that lead to it. -/
structure FileTree where
  entries : List (List String × FileEntry)

namespace FileTree

/-- Names that lead to a directory: the working directory, an entry, or the way to an entry. -/
def isDirectory (tree : FileTree) (names : List String) : Bool :=
  names.isEmpty || tree.entries.any fun (path, entry) =>
    if path = names then entry.isDirectory else names.isPrefixOf path

/-- The bytes of the file that names lead to. -/
def file? (tree : FileTree) (names : List String) : Option ByteArray :=
  tree.entries.findSome? fun (path, entry) =>
    match entry with
    | .file bytes => if path = names then some bytes else none
    | .directory => none

inductive Place
  | directory
  | file (names : List String) (bytes : ByteArray)
  /-- Nothing is there, but the directory around it is. -/
  | vacant (names : List String)

def place (tree : FileTree) (names : List String) : Place :=
  if tree.isDirectory names then .directory
  else match tree.file? names with
    | some bytes => .file names bytes
    | none => .vacant names

/-- The greatest number of bytes of a name. -/
def maxNameBytes : Nat := 255

/-- The greatest number of bytes of a path. -/
def maxPathBytes : Nat := 4095

/-- Follow the steps of a path. Every step starts from a directory, which is looked at before the
length of the name in it. -/
def walk (tree : FileTree) : List String → List String → Except FileFault Place
  | names, [] => .ok (tree.place names)
  | names, step :: more =>
    match tree.place names with
    | .file _ _ => .error .notDirectory
    | .vacant _ => .error .notFound
    | .directory =>
      if step = "" ∨ step = "." then tree.walk names more
      else if step = ".." then tree.walk names.dropLast more
      else if step.utf8ByteSize > maxNameBytes then .error .nameTooLong
      else tree.walk (names ++ [step]) more

/-- The steps of a path, cut at each slash. -/
def steps (path : String) : List String := (Text.pieces '/' path.toList).map String.ofList

/-- The steps of a path that may be looked up. The empty path and paths from the root lead
nowhere. -/
def lookup (path : String) : Except FileFault (List String) :=
  if path.toList.any (·.toNat = 0) then .error .nulInPath
  else if path.utf8ByteSize > maxPathBytes then .error .nameTooLong
  else if path.toList.head?.all (· = '/') then .error .notFound
  else .ok (steps path)

def find (tree : FileTree) (path : String) : Except FileFault Place := do
  tree.walk [] (← lookup path)

def read (tree : FileTree) : FileReader := fun path => do
  match ← tree.find path with
  | .file _ bytes => return bytes
  | .directory => throw .isDirectory
  | .vacant _ => throw .notFound

/-- Put bytes at names, in place of a file that was there. -/
def put (tree : FileTree) (names : List String) (bytes : ByteArray) : FileTree :=
  ⟨tree.entries.filter (·.1 ≠ names) ++ [(names, .file bytes)]⟩

/-- The steps of a path without the empty ones at its end, in reverse. -/
private def nameFirst (steps : List String) : List String := steps.reverse.dropWhile (· = "")

/-- Write bytes at a path, creating the file or replacing it. A slash behind a name asks for a
directory, which cannot be written, whatever the name is. -/
def write (tree : FileTree) (path : String) (bytes : ByteArray) : Except FileFault FileTree := do
  let steps ← lookup path
  if steps.getLast? = some "" then
    let around := (nameFirst steps).drop 1
    let _ ← tree.walk [] (around.reverse ++ [""])
    throw .isDirectory
  match ← tree.walk [] steps with
  | .file names _ | .vacant names => return tree.put names bytes
  | .directory => throw .isDirectory

end FileTree

end AmqpHandshake
