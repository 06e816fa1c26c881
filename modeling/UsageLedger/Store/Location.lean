import UsageLedger.Text.Digits
import UsageLedger.Text.FormEncoding
import UsageLedger.Text.Utf8

/-!
# Where a store is kept

A store is kept in a file or in memory alone.  A text says where: it is the
path of a file, or an address.  An address is `file:`, an authority that is
empty or `localhost`, a path, and after a question mark options as
`name=value` with `&` between them; what follows a `#` is left out.  In its
parts a percent sign with two hexadecimal digits stands for a byte, and the
byte zero ends the part that it stands in.
-/

namespace UsageLedger.Store

open UsageLedger.Text

/-- What is wrong with the text that says where a store is kept. -/
inductive LocationError where
  /-- The text has the character zero after some bytes. -/
  | zeroCharacter (position : Nat)
  /-- The authority is that of another machine. -/
  | unknownAuthority (authority : String)
  /-- An option about a mode has a value that it does not know. -/
  | unknownMode (kind value : String)
  /-- A mode would allow more than the one before it. -/
  | modeNotAllowed (value : String)
  /-- There is no system of files of that name. -/
  | unknownSystem (name : String)
  deriving DecidableEq, Repr

/-- The message about a text that says where a store is kept. -/
def LocationError.message : LocationError → String
  | .zeroCharacter position =>
    "nul byte found in provided data at position: " ++ toString position
  | .unknownAuthority authority => "invalid uri authority: " ++ authority
  | .unknownMode kind value => "no such " ++ kind ++ " mode: " ++ value
  | .modeNotAllowed value => "access mode not allowed: " ++ value
  | .unknownSystem name => "no such vfs: " ++ name

/-- What may be done with the file of a store. -/
inductive Access where
  | readOnly
  /-- The file is read and written, but has to be there. -/
  | existing
  /-- The file is read and written, and made if it is not there. -/
  | creating
  /-- There is no file. -/
  | memory
  deriving DecidableEq, Repr

def Access.ofName? : (name : String) → Option Access
  | "ro" => some .readOnly
  | "rw" => some .existing
  | "rwc" => some .creating
  | "memory" => some .memory
  | _ => none

/-- How much an access allows. -/
def Access.strength : Access → Nat
  | .readOnly => 0
  | .existing => 1
  | .creating => 2
  | .memory => 3

/-- Whether an access may follow another one. -/
def Access.mayFollow (earlier later : Access) : Bool :=
  later == .memory || later.strength ≤ earlier.strength

/-- What a text says about where a store is kept. -/
structure Location where
  path : String
  access : Access
  /-- Whether the store lives in a system of files that are all in memory. -/
  unfiled : Bool
  /-- Whether the file is taken to be one that never changes. -/
  immutable : Bool
  /-- The path of a file whose permissions the file of the store takes. -/
  permissionsOf : Option String
  deriving DecidableEq, Repr

/-- A file at a path, without any options. -/
def Location.file (path : String) : Location :=
  ⟨path, .creating, false, false, none⟩

/-- Whether there is no file, not even in memory. -/
def Location.isNameless (location : Location) : Bool :=
  location.access == .memory || location.path == "" || location.path == ":memory:"

/-- Whether the store is kept in memory alone. -/
def Location.isTransient (location : Location) : Bool :=
  location.unfiled || location.isNameless

/-- Whether the store can only be read. -/
def Location.isFixed (location : Location) : Bool :=
  location.access == .readOnly || (location.immutable && !location.isNameless)

/-- The bytes that a part of an address stands for. -/
def partBytes : List Char → List UInt8
  | [] => []
  | '%' :: high :: low :: rest =>
    match hexValue? high, hexValue? low with
    | some upper, some lower =>
      if upper = 0 ∧ lower = 0 then []
      else UInt8.ofNat (upper * 16 + lower) :: partBytes rest
    | _, _ => 37 :: partBytes (high :: low :: rest)
  | character :: rest => String.utf8EncodeChar character ++ partBytes rest

/-- The text that a part of an address stands for. -/
def partText (characters : List Char) : String :=
  textOfBytes (partBytes characters)

/-- The name and the value of an option. -/
def optionOf (characters : List Char) : String × String :=
  (partText (characters.takeWhile (· != '=')),
    partText ((characters.dropWhile (· != '=')).drop 1))

/-- The path of an address and its options, given what follows the authority. -/
def splitAddress (characters : List Char) : String × List (String × String) :=
  let used := characters.takeWhile (· != '#')
  let written := (used.dropWhile (· != '?')).drop 1
  (partText (used.takeWhile (· != '?')),
    ((splitAtMark '&' written).map optionOf).filter fun option => option.1 != "")

/-- What follows the authority of an address. -/
def afterAuthority : List Char → Except LocationError (List Char)
  | '/' :: '/' :: rest =>
    let authority := String.ofList (rest.takeWhile (· != '/'))
    if authority = "" ∨ authority = "localhost" then
      .ok (rest.dropWhile (· != '/'))
    else .error (.unknownAuthority authority)
  | characters => .ok characters

/-- The number at the start of a value, in base sixteen after `0x`. -/
def leadingNumber (characters : List Char) : Nat :=
  match characters with
  | '0' :: letter :: rest =>
    if letter = 'x' ∨ letter = 'X' then
      (rest.takeWhile fun digit => (hexValue? digit).isSome).foldl
        (fun value digit => 16 * value + (hexValue? digit).getD 0) 0
    else naturalOf (characters.takeWhile isDigit)
  | _ => naturalOf (characters.takeWhile isDigit)

/-- Whether a value says yes: in a word, or by a number whose lowest byte is not zero. -/
def saysYes (value : String) : Bool :=
  let number := leadingNumber value.toList
  ["on", "yes", "true"].contains (String.ofList (value.toList.map Char.toLower)) ||
    (number ≤ 2147483647 && number % 256 != 0)

/-- The names of the systems of files. -/
def fileSystems : List String :=
  ["unix", "unix-none", "unix-dotfile", "unix-excl", "memdb"]

/-- The location with an option that names a mode. -/
def Location.applyOption (location : Location) :
    (name value : String) → Except LocationError Location
  | "cache", value =>
    if value = "shared" ∨ value = "private" then .ok location
    else .error (.unknownMode "cache" value)
  | "mode", value =>
    match Access.ofName? value with
    | none => .error (.unknownMode "access" value)
    | some access =>
      if location.access.mayFollow access then .ok { location with access }
      else .error (.modeNotAllowed value)
  | _, _ => .ok location

def firstOption? (name : String) (options : List (String × String)) : Option String :=
  (options.find? fun option => option.1 == name).map Prod.snd

/-- The location that an address gives, without its `file:`. -/
def Location.ofAddress (characters : List Char) : Except LocationError Location := do
  let (path, options) := splitAddress (← afterAuthority characters)
  let start : Location :=
    { Location.file path with
      immutable := ((firstOption? "immutable" options).map saysYes).getD false
      permissionsOf := firstOption? "modeof" options }
  let location ← options.foldlM
    (fun location option => location.applyOption option.1 option.2) start
  let system := (firstOption? "vfs" options.reverse).getD "unix"
  if fileSystems.contains system then .ok { location with unfiled := system == "memdb" }
  else .error (.unknownSystem system)

/-- The location that a text gives. -/
def Location.ofText (text : String) : Except LocationError Location :=
  let before := text.toList.takeWhile fun character => character.toNat != 0
  if before.length < text.length then
    .error (.zeroCharacter (String.ofList before).utf8ByteSize)
  else
    match text.toList with
    | 'f' :: 'i' :: 'l' :: 'e' :: ':' :: characters => Location.ofAddress characters
    | _ => .ok (Location.file text)

end UsageLedger.Store
