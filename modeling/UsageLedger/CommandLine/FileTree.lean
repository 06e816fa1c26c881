import UsageLedger.CommandLine.Surroundings
import UsageLedger.Json.Basic

/-!
# Files in memory

A file tree holds texts under names and the directories that were made; the
directories on the way to a file are there as well.  A path that does not
start with a slash starts at the working directory.  Paths are walked name by
name: every name, also `.` and `..`, is looked up in a directory that is there.
-/

namespace UsageLedger.CommandLine

/-- The names along a path from the top. -/
abbrev Names := List String

/-- Files and directories. -/
structure FileTree where
  workingDirectory : Names
  files : List (Names × String)
  directories : List Names
  deriving Repr

/-- A tree whose working directory is empty. -/
def FileTree.empty (workingDirectory : Names) : FileTree :=
  ⟨workingDirectory, [], [workingDirectory]⟩

def FileTree.text? (tree : FileTree) (names : Names) : Option String :=
  (tree.files.find? fun file => file.1 = names).map Prod.snd

/-- Whether names lead to a directory. -/
def FileTree.hasDirectory (tree : FileTree) (names : Names) : Bool :=
  names.isEmpty ||
    tree.directories.any (fun directory => names.isPrefixOf directory) ||
    tree.files.any fun file => names.isPrefixOf file.1 && file.1 != names

/-- What names lead to, if anything stands there. -/
def FileTree.kind? (tree : FileTree) (names : Names) : Option PathKind :=
  if (tree.text? names).isSome then some .file
  else if tree.hasDirectory names then some .directory
  else none

/-- The most bytes that a name may have. -/
def nameLimit : Nat := 255

/-- The most bytes that a path may have. -/
def pathLimit : Nat := 4095

/-- The place of a name in a directory; the top stands in itself. -/
def placeOf (directory : Names) (name : String) : Except FileFault Names :=
  if name = "." then .ok directory
  else if name = ".." then .ok directory.dropLast
  else if nameLimit < name.utf8ByteSize then .error .nameTooLong
  else .ok (directory ++ [name])

/-- A place, provided that a directory stands there. -/
def FileTree.directoryAt (tree : FileTree) (place : Names) : Except FileFault Names :=
  match tree.kind? place with
  | some .directory => .ok place
  | some .file => .error .notADirectory
  | none => .error .notFound

/-- A place, provided that something stands there. -/
def FileTree.presentAt (tree : FileTree) (place : Names) : Except FileFault Names :=
  if (tree.kind? place).isSome then .ok place else .error .notFound

/-- Walks from a place to what stands there under a name. -/
def FileTree.step (tree : FileTree) (place : Names) (name : String) :
    Except FileFault Names := do
  tree.presentAt (← placeOf (← tree.directoryAt place) name)

/-- Walks along names from where a path starts. -/
def FileTree.walk (tree : FileTree) (path : String) (names : List String) :
    Except FileFault Names :=
  if path.isEmpty then .error .notFound
  else if pathLimit < path.utf8ByteSize then .error .nameTooLong
  else
    names.foldlM tree.step (if path.startsWith "/" then [] else tree.workingDirectory)

/-- The place that a path leads to; one with a slash at its end leads to a directory. -/
def FileTree.resolve (tree : FileTree) (path : String) : Except FileFault Names := do
  let place ← tree.walk path (namesOf path)
  if path.endsWith "/" then tree.directoryAt place else pure place

/-- The directory that a path ends in, and the last name of the path. -/
def FileTree.entry (tree : FileTree) (path : String) :
    Except FileFault (Names × Option String) := do
  let names := namesOf path
  let directory ← tree.walk path names.dropLast
  pure (← tree.directoryAt directory, names.getLast?)

/-- Whether a last name can be that of something new. -/
def isNewName : Option String → Bool
  | some name => name != "." && name != ".."
  | none => false

/-- What stands at a path. -/
def FileTree.examine (tree : FileTree) (path : String) : Except FileFault PathKind := do
  match tree.kind? (← tree.resolve path) with
  | some kind => pure kind
  | none => .error .notFound

def FileTree.read (tree : FileTree) (path : String) : Except FileFault String := do
  match tree.text? (← tree.resolve path) with
  | some text => pure text
  | none => .error .isADirectory

def FileTree.withFile (tree : FileTree) (names : Names) (text : String) : FileTree :=
  { tree with
    files := (names, text) :: tree.files.filter fun file => file.1 != names }

/-- The place of the file that is written at a path. -/
def FileTree.fileEntry (tree : FileTree) (path : String) : Except FileFault Names := do
  let (directory, name) ← tree.entry path
  if !isNewName name || path.endsWith "/" then .error .isADirectory
  else
    let place ← placeOf directory (name.getD "")
    if tree.kind? place = some .directory then .error .isADirectory else pure place

/-- Writes the file at a path, in a directory that is there. -/
def FileTree.write (tree : FileTree) (path text : String) :
    Except FileFault Unit × FileTree :=
  match tree.fileEntry path with
  | .ok place => (.ok (), tree.withFile place text)
  | .error fault => (.error fault, tree)

/-- The place of the directory that is made at a path. -/
def FileTree.directoryEntry (tree : FileTree) (path : String) :
    Except FileFault Names := do
  let (directory, name) ← tree.entry path
  if !isNewName name then .error .occupied
  else
    let place ← placeOf directory (name.getD "")
    if (tree.kind? place).isSome then .error .occupied else pure place

/-- Makes the directory at a path, in one that is there. -/
def FileTree.makeDirectory (tree : FileTree) (path : String) :
    Except FileFault Unit × FileTree :=
  match tree.directoryEntry path with
  | .ok place => (.ok (), { tree with directories := place :: tree.directories })
  | .error fault => (.error fault, tree)

end UsageLedger.CommandLine
