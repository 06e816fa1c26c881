/-!
# Paths

Paths are texts in which slashes part the names.  `namesOf` gives the names
along a path, and `directoriesAbove` the paths of what it stands in, from the
inside out.  Both pass over empty names; the name `.` counts only at the start
of a path that does not start at the top.
-/

namespace UsageLedger.CommandLine

/-- A name inside a directory. -/
def joinPath (directory name : String) : String :=
  if directory.isEmpty || directory.endsWith "/" then directory ++ name
  else directory ++ "/" ++ name

/-- The names along a path. -/
def namesOf (path : String) : List String :=
  (path.splitOn "/").filter fun name => !name.isEmpty

/-- What a path starts with besides names: the top, the working directory, or nothing. -/
def startOf (path : String) : String :=
  if path.startsWith "/" then "/"
  else if path = "." ∨ path.startsWith "./" then "."
  else ""

/-- Whether a name inside a path leads nowhere else. -/
def isIdle (name : String) : Bool :=
  name.isEmpty || name == "."

/-- A path, given its start and the names behind it, the last one first. -/
def pathOfReversed (start : String) (names : List String) : String :=
  start ++ String.intercalate "/" (names.dropWhile isIdle).reverse

/-- The paths of what a path stands in, given its start and the names behind it. -/
def pathsAbove (start : String) : List String → List String
  | [] => if start = "." then [""] else []
  | name :: outer =>
    if isIdle name then pathsAbove start outer
    else pathOfReversed start outer :: pathsAbove start outer

/-- The paths of what a path stands in, the innermost first. -/
def directoriesAbove (path : String) : List String :=
  let start := startOf path
  let names := (String.ofList (path.toList.drop start.length)).splitOn "/"
  pathsAbove start names.reverse

/-- The directory that a path stands in; the top and the empty path stand in none. -/
def parentOf? (path : String) : Option String :=
  (directoriesAbove path).head?

end UsageLedger.CommandLine
