/-!
# Request targets

The target of a request is a path with an optional query, a whole address, an
authority alone, or a star.  `targetPath?` finds the path in it, after checking
every character up to a fragment, which is left out.  The path of an authority
alone is empty; an address without a path has the path `/`.
-/

namespace UsageLedger.Http

/-- Whether a character lies between two others, both included. -/
def isBetween (first last character : Char) : Bool :=
  first ≤ character && character ≤ last

/-- Whether a character may stand in a path. -/
def isPathChar (character : Char) : Bool :=
  isBetween '$' ';' character || isBetween '@' '_' character ||
    isBetween 'a' '\x7d' character || character == '!' || character == '"' ||
    character == '=' || 0x7E ≤ character.toNat

/-- Whether a character may stand in a query. -/
def isQueryChar (character : Char) : Bool :=
  isBetween '$' ';' character || character == '!' || character == '=' ||
    '?' ≤ character

/-- Whether a character may stand in the name of a scheme. -/
def isSchemeChar (character : Char) : Bool :=
  character.isAlphanum || "+-.~".toList.contains character

def endsAuthority (character : Char) : Bool :=
  character == '/' || character == '?' || character == '#'

/-- Whether a character may stand in an authority for itself. -/
def isAuthorityChar (character : Char) : Bool :=
  character.isAlphanum || "!$&'()*+,-.:;=@[]_~".toList.contains character

/-- Whether what follows a path, or its end, is a query of valid characters. -/
def isQueryPart : List Char → Bool
  | '?' :: query => (query.takeWhile (· != '#')).all isQueryChar
  | _ => true

/-- The path at the start of a text, if it and the query behind it are valid. -/
def pathPart? (characters : List Char) : Option (List Char) :=
  let endsPath := fun character => character == '?' || character == '#'
  let path := characters.takeWhile fun character => !endsPath character
  let rest := characters.dropWhile fun character => !endsPath character
  if path.all isPathChar && isQueryPart rest then some path else none

/-- What is known of an authority read up to some character. -/
structure AuthorityState where
  colons : Nat
  opened : Bool
  closed : Bool
  /-- Whether a percent sign was met that belongs to the host. -/
  percent : Bool
  /-- Whether the last character was an at sign. -/
  atEnd : Bool

/-- Nothing read yet. -/
def AuthorityState.start : AuthorityState := ⟨0, false, false, false, false⟩

/-- The most colons that may stand in one part of an authority. -/
def colonLimit : Nat := 8

/-- Reads one more character of an authority. -/
def AuthorityState.step? (state : AuthorityState) (character : Char) :
    Option AuthorityState :=
  if character = ':' then
    if colonLimit ≤ state.colons then none
    else some { state with colons := state.colons + 1, atEnd := false }
  else if character = '[' then
    if state.percent || state.opened then none
    else some { state with opened := true, atEnd := false }
  else if character = ']' then
    if !state.opened || state.closed then none
    else some { state with closed := true, colons := 0, percent := false, atEnd := false }
  else if character = '@' then
    some { state with colons := 0, percent := false, atEnd := true }
  else if character = '%' then some { state with percent := true, atEnd := false }
  else if isAuthorityChar character then some { state with atEnd := false }
  else none

def AuthorityState.mayEnd (state : AuthorityState) : Bool :=
  state.opened == state.closed && state.colons ≤ 1 && !state.atEnd && !state.percent

def isAuthority (characters : List Char) : Bool :=
  match characters.foldlM AuthorityState.step? AuthorityState.start with
  | some state => !characters.isEmpty && state.mayEnd
  | none => false

/-- What follows the scheme of an address, which ends in `://`. -/
def afterScheme? (characters : List Char) : Option (List Char) :=
  match characters.dropWhile isSchemeChar with
  | ':' :: '/' :: '/' :: rest => some rest
  | _ => none

/-- The most characters that a scheme may have. -/
def schemeLimit : Nat := 64

/-- The path of an address or of an authority alone. -/
def addressPath? (characters : List Char) : Option (List Char) :=
  match afterScheme? characters with
  | none => if isAuthority characters then some [] else none
  | some rest =>
    let authority := rest.takeWhile fun character => !endsAuthority character
    if (characters.takeWhile isSchemeChar).length ≤ schemeLimit && isAuthority authority then
      match pathPart? (rest.dropWhile fun character => !endsAuthority character) with
      | some [] => some ['/']
      | other => other
    else none

/-- The most bytes that a target may have. -/
def targetLimit : Nat := 65534

def targetPath? (target : String) : Option String :=
  if targetLimit < target.utf8ByteSize then none
  else
    match target.toList with
    | [] => none
    | ['*'] => some "*"
    | '/' :: rest => (pathPart? ('/' :: rest)).map String.ofList
    | characters => (addressPath? characters).map String.ofList

end UsageLedger.Http
