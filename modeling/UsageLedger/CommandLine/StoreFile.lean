import UsageLedger.CommandLine.Surroundings
import UsageLedger.Store.Location
import UsageLedger.Wire.Snapshot

/-!
# The file of the store

`openStore` finds the file that a text names and reads the store in it.  The
path of the file is made absolute first: `.` and `..` are taken out of it name
by name, without a look at what stands there, so that `nowhere/../file` is a
file here.  Every path on the way must be short, and none may lead through a
file.
-/

namespace UsageLedger.CommandLine

open UsageLedger.Store (Location StoreError)

/-- A store and the path of the file that it is kept in, if it is kept in one. -/
structure KeptStore where
  file : Option String
  store : Store

/-- The least number of bytes that a path on the way to a file must not have. -/
def approachLimit : Nat := 512

/-- The most bytes that the path of a file, or its last name, has to leave free. -/
def companionSpace : Nat := 8

/-- The most bytes that the name of a file may have. -/
def fileNameLimit : Nat := 255

/-- The path from the top along names. -/
def absolutePath (names : List String) : String :=
  String.join (names.map fun name => "/" ++ name)

section

variable {m : Type → Type} [Monad m] (surroundings : Surroundings m)

/-- Goes on by one name of a path. -/
def approach (text : String) (reached : List String) (name : String) :
    ExceptT StoreError m (List String) := do
  if name = "." then pure reached
  else if name = ".." then pure reached.dropLast
  else
    let next := reached ++ [name]
    if approachLimit ≤ (absolutePath next).utf8ByteSize then throw (.cannotOpen text)
    else
      match ← surroundings.examine (absolutePath next) with
      | .ok _ => pure next
      | .error .notFound => pure next
      | .error _ => throw (.cannotOpen text)

/-- The names that lead to a path from the top. -/
def absoluteNames (text path : String) : ExceptT StoreError m (List String) := do
  let start ←
    if path.startsWith "/" then pure []
    else pure (namesOf (← surroundings.workingDirectory))
  let names ← (namesOf path).foldlM (approach surroundings text) start
  if names.isEmpty ||
      approachLimit < (absolutePath names).utf8ByteSize + companionSpace then
    throw (.cannotOpen text)
  else pure names

/-- The text of the file of a store, which is made if it may be. -/
def readStoreFile (text : String) (location : Location) (path : String) :
    ExceptT StoreError m String := do
  match ← surroundings.examine path with
  | .ok .directory =>
    throw (if location.access = .readOnly then .unreadable else .cannotOpen text)
  | .ok .file =>
    match ← surroundings.read path with
    | .ok content => pure content
    | .error _ => throw .unreadable
  | .error fault =>
    if fault = .notFound ∧ location.access = .creating then
      match ← surroundings.write path "" with
      | .ok _ => pure ""
      | .error _ => throw (.cannotOpen text)
    else throw (.cannotOpen text)

/-- Writes the store to a file. -/
def saveStore (file : Option String) (store : Store) : m (Except StoreError Unit) := do
  match file with
  | none => pure (.ok ())
  | some path =>
    match ← surroundings.write path store.fileText with
    | .ok _ => pure (.ok ())
    | .error _ => pure (.error (.cannotOpen path))

def openStoreFile (text : String) (location : Location) :
    ExceptT StoreError m KeptStore := do
  let names ← absoluteNames surroundings text location.path
  if let some other := location.permissionsOf then
    if let .error _ ← surroundings.examine other then throw .unreadable
  let path := absolutePath names
  match Store.ofFileText? (← readStoreFile surroundings text location path) with
  | none => throw .notADatabase
  | some store =>
    if location.isFixed then throw .readOnly
    else if fileNameLimit < (names.getLast?.getD "").utf8ByteSize + companionSpace then
      throw .noCompanion
    else
      let kept := store.migrate
      ExceptT.mk (saveStore surroundings (some path) kept)
      pure ⟨some path, kept⟩

/-- Opens the store that is kept where a text says. -/
def openStore (text : String) : ExceptT StoreError m KeptStore := do
  match Location.ofText text with
  | .error cause => throw (.location cause)
  | .ok location =>
    if location.isTransient then
      if location.isFixed then throw .readOnly else pure ⟨none, Store.empty⟩
    else openStoreFile surroundings text location

end

end UsageLedger.CommandLine
