/-!
# Media types

A media type is two tokens with a slash between them and optional parameters.
It is JSON when its type is `application` and its subtype is `json`, or has a
suffix `+json`, in any letter case.
-/

namespace UsageLedger.Http

/-- Whether a character may stand in a token. -/
def isTokenChar (character : Char) : Bool :=
  character.isAlphanum || "!#$%&'*+-.^_`|~".toList.contains character

/-- Whether a character may stand between quotation marks. -/
def isQuotedChar (character : Char) : Bool :=
  0x20 ≤ character.toNat && character.toNat ≠ 0x7F

/--
The characters after a quoted value, given those after its opening mark.  A
value is not empty: a mark that comes first belongs to it.
-/
def afterQuoted? : List Char → Option (List Char)
  | [] => none
  | first :: rest =>
    if isQuotedChar first then
      match rest.dropWhile fun character => isQuotedChar character && character != '"' with
      | '"' :: remaining => some remaining
      | _ => none
    else none

/-- The characters after the value of a parameter, a semicolon behind it included. -/
def afterValue? : List Char → Option (List Char)
  | '"' :: rest => do
    let remaining ← afterQuoted? rest
    match remaining.dropWhile (· == ' ') with
    | [] => some []
    | ';' :: next => some next
    | _ => none
  | rest =>
    match rest.dropWhile isTokenChar with
    | [] => some []
    | ';' :: next => if (rest.takeWhile isTokenChar).isEmpty then none else some next
    | _ => none

/-- Whether characters are parameters of a media type. -/
def areParameters : (fuel : Nat) → List Char → Bool
  | 0, _ => false
  | fuel + 1, characters =>
    match characters.dropWhile (· == ' ') with
    | [] => true
    | rest =>
      let name := rest.takeWhile isTokenChar
      match rest.dropWhile isTokenChar with
      | '=' :: value =>
        if name.isEmpty then false
        else
          match afterValue? value with
          | some next => areParameters fuel next
          | none => false
      | _ => false

/-- The part of a subtype that names the format: all of it, or what follows the last plus. -/
def isJsonSubtype (subtype : List Char) : Bool :=
  let beforeSuffix := (subtype.reverse.dropWhile (· != '+')).drop 1
  let suffix := (subtype.reverse.takeWhile (· != '+')).reverse
  if subtype.drop 1 |>.contains '+' then
    suffix == "json".toList || beforeSuffix.reverse == "json".toList
  else subtype == "json".toList

/-- Whether a character may stand in a header value that is read as text. -/
def isHeaderChar (character : Char) : Bool :=
  character == '\t' || (0x20 ≤ character.toNat && character.toNat < 0x7F)

/-- Whether a header value is the media type of JSON. -/
def isJsonMediaType (value : String) : Bool :=
  let characters := value.toList
  let kind := (characters.takeWhile isTokenChar).map Char.toLower
  match characters.dropWhile isTokenChar with
  | '/' :: rest =>
    let subtype := (rest.takeWhile isTokenChar).map Char.toLower
    let parametersValid :=
      match rest.dropWhile isTokenChar with
      | [] => true
      | ';' :: parameters => areParameters (parameters.length + 1) parameters
      | _ => false
    kind == "application".toList && isJsonSubtype subtype && parametersValid &&
      characters.all isHeaderChar
  | _ => false

end UsageLedger.Http
