import UsageLedger.CommandLine.Path

/-!
# Surroundings of the program

What the program needs of the machine it starts on: variables, files and two
streams for lines.  The functions that start the program are written for any
monad with surroundings, so that they run on a machine and on a file tree in
memory alike.
-/

namespace UsageLedger.CommandLine

/-- What stands at a path. -/
inductive PathKind where
  | file
  | directory
  deriving DecidableEq, Repr

/-- Why a path cannot be used. -/
inductive FileFault where
  /-- Nothing stands at the path, or on the way to it. -/
  | notFound
  /-- Something stands already where a directory is to be made. -/
  | occupied
  /-- A file stands where a directory is needed. -/
  | notADirectory
  /-- A directory stands where a file is needed. -/
  | isADirectory
  /-- The path, or a name in it, is too long. -/
  | nameTooLong
  /-- A fault of another kind, in the system's words. -/
  | other (words : String)
  deriving DecidableEq, Repr

/-- A fault in the system's words. -/
def FileFault.message : FileFault → String
  | .notFound => "No such file or directory (os error 2)"
  | .occupied => "File exists (os error 17)"
  | .notADirectory => "Not a directory (os error 20)"
  | .isADirectory => "Is a directory (os error 21)"
  | .nameTooLong => "File name too long (os error 36)"
  | .other words => words

/-- The machine that the program starts on. -/
structure Surroundings (m : Type → Type) where
  /-- The value of a variable. -/
  environment : (name : String) → m (Option String)
  /-- The path of the directory that relative paths start at. -/
  workingDirectory : m String
  /-- What stands at a path. -/
  examine : (path : String) → m (Except FileFault PathKind)
  read : (path : String) → m (Except FileFault String)
  /-- Writes a file, in a directory that is there. -/
  write : (path text : String) → m (Except FileFault Unit)
  /-- Makes a directory, in one that is there. -/
  makeDirectory : (path : String) → m (Except FileFault Unit)
  /-- Writes to the stream for results. -/
  print : (text : String) → m Unit
  /-- Writes to the stream for problems. -/
  complain : (text : String) → m Unit

section

variable {m : Type → Type} [Monad m] (surroundings : Surroundings m)

/-- Makes a directory unless it is there. -/
def ensureDirectory (path : String) : m (Except FileFault Unit) := do
  match ← surroundings.makeDirectory path with
  | .ok _ => pure (.ok ())
  | .error fault => do
    match ← surroundings.examine path with
    | .ok .directory => pure (.ok ())
    | _ => pure (.error fault)

/-- Makes the first of some directories, with those it stands in, which are the others. -/
def makeInnermost : List String → m (Except FileFault Unit)
  | [] => pure (.error .notFound)
  | path :: outer => do
    if path.isEmpty then pure (.ok ())
    else
      match ← ensureDirectory surroundings path with
      | .error .notFound => do
        match ← makeInnermost outer with
        | .error fault => pure (.error fault)
        | .ok _ => ensureDirectory surroundings path
      | outcome => pure outcome

/-- Makes a directory with those that it stands in. -/
def makeDirectories (path : String) : m (Except FileFault Unit) :=
  makeInnermost surroundings (path :: directoriesAbove path)

end

end UsageLedger.CommandLine
