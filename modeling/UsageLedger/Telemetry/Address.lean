import UsageLedger.Telemetry.Host
import UsageLedger.Text.FormEncoding

/-!
# Addresses of the telemetry service

An address is read from the text of a host with a path behind it: `http` or
`https`, an authority, and what follows it.  Tabs and line ends do not count,
neither does what cannot be seen in front, and a backslash is as good as a
slash.  A query in the text is kept in front of further parameters; what
follows a `#` is not sent.
-/

namespace UsageLedger.Telemetry

open UsageLedger.Text

/-- The parts of an address. -/
structure Address where
  secure : Bool
  authority : String
  path : String
  query : Option String
  deriving DecidableEq, Repr

/-- The characters after a start that is compared without regard to letter case. -/
def afterStart? : (start : List Char) → List Char → Option (List Char)
  | [], rest => some rest
  | _ :: _, [] => none
  | expected :: start, character :: rest =>
    if character.toLower = expected then afterStart? start rest else none

/-- A slash or a backslash. -/
def isSlash (character : Char) : Bool :=
  character == '/' || character == '\\'

/-- The scheme of an address, and the characters behind it and the slashes that follow. -/
def scheme? (characters : List Char) : Option (Bool × List Char) :=
  ((afterStart? "http:".toList characters).map fun rest =>
      (false, rest.dropWhile isSlash)).or
    ((afterStart? "https:".toList characters).map fun rest =>
      (true, rest.dropWhile isSlash))

/-- Whether a character does not count wherever it stands. -/
def isPassedOver (character : Char) : Bool :=
  character == '\t' || character == '\n' || character == '\r'

/-- The characters of an address that count. -/
def countedChars (characters : List Char) : List Char :=
  (characters.dropWhile (·.toNat ≤ 0x20)).filter fun character => !isPassedOver character

/-- Whether a character is written by its bytes in a path. -/
def isPathEscaped (character : Char) : Bool :=
  character.toNat ≤ 0x20 || 0x7F ≤ character.toNat ||
    "\"<>`\x7b\x7d".toList.contains character

/-- Whether a character is written by its bytes in a query. -/
def isQueryEscaped (character : Char) : Bool :=
  character.toNat ≤ 0x20 || 0x7F ≤ character.toNat || "\"<>'".toList.contains character

/-- The bytes of a character as they are written. -/
def escapedChar (character : Char) : List Char :=
  (String.utf8EncodeChar character).flatMap percentByte

/-- A character of a path as it is written. -/
def pathChar (character : Char) : List Char :=
  if isPathEscaped character then escapedChar character
  else if isSlash character then ['/']
  else [character]

/-- A character of a query as it is written. -/
def queryChar (character : Char) : List Char :=
  if isQueryEscaped character then escapedChar character else [character]

def endsPath (character : Char) : Bool :=
  character == '?' || character == '#'

def endsAuthority (character : Char) : Bool :=
  isSlash character || endsPath character

/-- The address that a text gives. -/
def Address.ofText? (text : String) : Option Address := do
  let (secure, rest) ← scheme? (countedChars text.toList)
  let authority := rest.takeWhile fun character => !endsAuthority character
  let afterAuthority := rest.dropWhile fun character => !endsAuthority character
  let path := afterAuthority.takeWhile fun character => !endsPath character
  let afterPath := afterAuthority.dropWhile fun character => !endsPath character
  if isAuthority authority then
    let query :=
      match afterPath with
      | '?' :: characters => some (characters.takeWhile (· != '#'))
      | _ => none
    some
      { secure
        authority := String.ofList authority
        path :=
          if path.isEmpty then "/" else String.ofList (path.flatMap pathChar)
        query := query.map fun characters =>
          String.ofList (characters.flatMap queryChar) }
  else none

/-- The address with further parameters. -/
def Address.withParameters (address : Address) (parameters : List (String × String)) :
    Address :=
  let added := encodeForm parameters
  let query :=
    match address.query with
    | some earlier =>
      if earlier.isEmpty then added else earlier.toList ++ '&' :: added
    | none => added
  { address with query := some (String.ofList query) }

/-- The host and the port of an address. -/
def Address.endpoint (address : Address) : String × Nat :=
  let (host, behind) := splitHost (serverOf address.authority.toList)
  let port := behind.drop 1
  (String.ofList (host.filter fun character => !"[]".toList.contains character),
    if port.isEmpty then if address.secure then 443 else 80 else naturalOf port)

/-- What a request line names: the path, and the query behind it. -/
def Address.target (address : Address) : String :=
  match address.query with
  | some query => address.path ++ "?" ++ query
  | none => address.path

end UsageLedger.Telemetry
