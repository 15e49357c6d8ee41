/-
Module: AccessTrace.Storage.FileTree
Purpose: Files and directories as a value, with the operations a run needs of them.
Main exports:
  FileTree, FileTree.read, FileTree.write, FileTree.makeDirectories, FileTree.filesBelow
-/
import AccessTrace.Storage.Buffered
import AccessTrace.Text.Parts

namespace AccessTrace

/-!
A tree is a table from places to entries.  A place is the list of names on the
way from the root.  A path is text: names between slashes, counted from the
root if it begins with a slash and from the working directory otherwise.
Every name on the way must be a directory, and the first one that is missing
or is something else is what goes wrong.

Beside files and directories there are two devices.  Both lose what they are
given; one of them never has room.
-/

/-- The names from the root down. -/
abbrev Place := List String

/-- Files that are not kept. -/
inductive Device where
  /-- Takes everything and is empty when read. -/
  | null
  /-- Takes nothing and never ends when read. -/
  | full
deriving DecidableEq, Repr

/-- What a place holds. -/
inductive Entry where
  | directory
  | file (content : ByteArray)
  | device (device : Device)

/-- Files and directories, and the directory that relative paths start from. -/
structure FileTree where
  entries : List (Place × Entry)
  workingDirectory : Place

namespace FileTree

/-- A tree whose working directory, at the given place, is empty. -/
def fresh (workingDirectory : Place) : FileTree where
  entries :=
    [([], .directory), (["dev"], .directory), (["dev", "null"], .device .null),
      (["dev", "full"], .device .full), (["tmp"], .directory)] ++
    (List.range workingDirectory.length).map fun i => (workingDirectory.take (i + 1), .directory)
  workingDirectory

/-- The entry at a place. -/
def entry? (tree : FileTree) (place : Place) : Option Entry :=
  tree.entries.lookup place

/-- The tree with another entry at a place. -/
def put (tree : FileTree) (place : Place) (entry : Entry) : FileTree :=
  { tree with entries := (place, entry) :: tree.entries.filter (·.1 != place) }

/-- The greatest size of a name, in bytes. -/
def nameLimit : Nat := 255

/-- The greatest size of a path, in bytes. -/
def pathLimit : Nat := 4095

/-- Refuses a place that is not a directory. -/
def requireDirectory (tree : FileTree) (place : Place) : Except IoError Unit :=
  match tree.entry? place with
  | some .directory => .ok ()
  | some _ => .error .notDirectory
  | none => .error .noSuchEntry

/-- The place that names lead to.  All but the last one have to lead to
directories; the last one may be missing. -/
def walk (tree : FileTree) (place : Place) : List String → Except IoError Place
  | [] => .ok place
  | name :: names => do
    tree.requireDirectory place
    if name = "" || name = "." then walk tree place names
    else if name = ".." then walk tree place.dropLast names
    else if nameLimit < name.utf8ByteSize then .error .nameTooLong
    else walk tree (place ++ [name]) names

/-- The names in a path and the place they start from. -/
def startOf (tree : FileTree) (path : String) : Except IoError (Place × List String) :=
  if path.toList.contains '\x00' then .error .zeroInName
  else if path.isEmpty then .error .noSuchEntry
  else if pathLimit < path.utf8ByteSize then .error .nameTooLong
  else
    let start := if path.startsWith "/" then [] else tree.workingDirectory
    .ok (start, Text.partsOf '/' path)

/-- The names of a path without the empty ones behind the slashes at its end. -/
def withoutEndSlashes (names : List String) : List String :=
  (names.reverse.dropWhile (· = "")).reverse

/-- The content of a file.  A directory can be opened, but not read. -/
def read (tree : FileTree) (path : String) : Except ReadFailure ByteArray :=
  match (tree.startOf path).bind fun (start, names) => tree.walk start names with
  | .error error => .error (.opening error)
  | .ok place =>
    match tree.entry? place with
    | none => .error (.opening .noSuchEntry)
    | some .directory => .error (.reading .isDirectory)
    | some (.file content) => .ok content
    | some (.device .null) => .ok .empty
    | some (.device .full) => .error (.reading .outOfMemory)

/-- The place at which a file can be written; the file may be missing.  A path
that ends in a slash, or in a name for a directory, is no file's. -/
def placeForFile (tree : FileTree) (path : String) : Except IoError Place := do
  let (start, names) ← tree.startOf path
  let kept := withoutEndSlashes names
  match kept.getLast? with
  | none => .error .isDirectory
  | some last =>
    let directory ← tree.walk start kept.dropLast
    tree.requireDirectory directory
    if last = "." || last = ".." || kept.length < names.length then .error .isDirectory
    else
      let place ← tree.walk directory [last]
      match tree.entry? place with
      | some .directory => .error .isDirectory
      | _ => .ok place

/-- The sink behind a place. -/
def sinkAt (tree : FileTree) (place : Place) : Sink :=
  match tree.entry? place with
  | some (.device .full) => { room := some 0, refusal := .noSpace }
  | _ => {}

/-- The tree after a sink has taken what it could.  Devices keep nothing. -/
def keep (tree : FileTree) (place : Place) (sink : Sink) : FileTree :=
  match tree.entry? place with
  | some (.device _) => tree
  | _ => tree.put place (.file sink.taken)

/-- Writes a file anew, chunk by chunk through a buffer.  A file that was there
before is gone as soon as it has been opened. -/
def write (tree : FileTree) (path : String) (chunks : List ByteArray) :
    Except IoError Unit × FileTree :=
  match tree.placeForFile path with
  | .error error => (.error error, tree)
  | .ok place =>
    let (result, sink) := BufferedWriter.transfer fileBufferCapacity (tree.sinkAt place) chunks
    (result, tree.keep place sink)

/-- Makes the directories that names lead to, where they are missing. -/
def makeDirectoriesFrom (tree : FileTree) (place : Place) : List String → Except IoError FileTree
  | [] => do
    tree.requireDirectory place
    return tree
  | name :: names => do
    tree.requireDirectory place
    if name = "" || name = "." then makeDirectoriesFrom tree place names
    else if name = ".." then makeDirectoriesFrom tree place.dropLast names
    else if nameLimit < name.utf8ByteSize then throw .nameTooLong
    else
      let below := place ++ [name]
      let tree := if (tree.entry? below).isSome then tree else tree.put below .directory
      makeDirectoriesFrom tree below names

/-- Makes a directory and those on the way to it that are missing. -/
def makeDirectories (tree : FileTree) (path : String) : Except IoError FileTree := do
  let (start, names) ← tree.startOf path
  tree.makeDirectoriesFrom start names

/-- The regular files anywhere below the working directory, by their relative
paths. -/
def filesBelow (tree : FileTree) : List (String × ByteArray) :=
  tree.entries.filterMap fun (place, entry) =>
    match entry with
    | .file content =>
      if tree.workingDirectory.isPrefixOf place then
        some ("/".intercalate (place.drop tree.workingDirectory.length), content)
      else none
    | _ => none

end FileTree
end AccessTrace
