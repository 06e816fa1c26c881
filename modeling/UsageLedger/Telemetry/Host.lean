import UsageLedger.Text.Digits
import UsageLedger.Text.Utf8
import UsageLedger.Width

/-!
# Hosts and ports

In front of the path of an address stands who asks, up to the last `@`, then
the host and perhaps a port behind a colon.  A host is a name or an address in
numbers: four bytes in decimal, octal or hexadecimal, of which the last one may
stand for several, or eight pieces of two bytes in brackets, of which a row of
zeros may be left out.  Names in other alphabets are taken as they are written.
-/

namespace UsageLedger.Telemetry

open UsageLedger.Text

/-! ## Addresses of eight pieces -/

/-- Whether characters are a piece: one to four hexadecimal digits. -/
def isPiece (characters : List Char) : Bool :=
  !characters.isEmpty && characters.length ≤ 4 &&
    characters.all fun character => (hexValue? character).isSome

/-- Whether characters are a byte in decimal without needless zeros. -/
def isPlainByte (characters : List Char) : Bool :=
  !characters.isEmpty && characters.length ≤ 3 && characters.all isDigit &&
    naturalOf characters ≤ 255 && (characters.length = 1 || characters.head? != some '0')

/-- Whether characters are four bytes in decimal. -/
def isFourBytes (characters : List Char) : Bool :=
  let bytes := characters.splitOn '.'
  bytes.length = 4 && bytes.all isPlainByte

/-- The number of pieces in a row, of which the last two may be written as four bytes. -/
def pieces? (mayEndInBytes : Bool) (parts : List (List Char)) : Option Nat :=
  match parts.reverse with
  | [] => some 0
  | last :: others =>
    if !others.all isPiece then none
    else if isPiece last then some parts.length
    else if mayEndInBytes && isFourBytes last then some (parts.length + 1)
    else none

/-- The number of pieces between colons, none in an empty text. -/
def piecesOf? (mayEndInBytes : Bool) (characters : List Char) : Option Nat :=
  if characters.isEmpty then some 0 else pieces? mayEndInBytes (characters.splitOn ':')

/-- Splits characters at the first two colons in a row. -/
def splitAtGap : List Char → Option (List Char × List Char)
  | ':' :: ':' :: rest => some ([], rest)
  | character :: rest =>
    (splitAtGap rest).map fun (before, after) => (character :: before, after)
  | [] => none

/-- Whether characters are an address of eight pieces. -/
def isPiecesAddress (characters : List Char) : Bool :=
  match splitAtGap characters with
  | none => piecesOf? true characters == some 8
  | some (before, after) =>
    match piecesOf? false before, piecesOf? true after with
    | some first, some second => first + second ≤ 7
    | _, _ => false

/-! ## Names, and addresses of four bytes -/

/-- The host with what its bytes in hexadecimal stand for. -/
def hostBytes : List Char → List UInt8
  | [] => []
  | '%' :: first :: second :: rest =>
    match hexValue? first, hexValue? second with
    | some high, some low => UInt8.ofNat (16 * high + low) :: hostBytes rest
    | _, _ => 37 :: hostBytes (first :: second :: rest)
  | character :: rest => String.utf8EncodeChar character ++ hostBytes rest

/-- Whether a character may stand in a name. -/
def isHostChar (character : Char) : Bool :=
  0x21 ≤ character.toNat && character.toNat ≠ 0x7F &&
    !("#/:<>?@[\\]^|%".toList.contains character)

/-- The number that digits denote in a base up to sixteen, zero without any. -/
def naturalInBase? (base : Nat) (digits : List Char) : Option Nat :=
  digits.foldlM (fun value digit => do
    let next ← (hexValue? digit).filter (· < base)
    some (base * value + next)) 0

/-- The number of a part of an address of four bytes: decimal, octal or hexadecimal. -/
def addressNumber? : List Char → Option Nat
  | [] => none
  | '0' :: 'x' :: digits => naturalInBase? 16 digits
  | '0' :: 'X' :: digits => naturalInBase? 16 digits
  | '0' :: digits => naturalInBase? 8 digits
  | digits => naturalInBase? 10 digits

/-- The labels of a name, without the empty one behind a point at its end. -/
def labels (characters : List Char) : List (List Char) :=
  let parts := characters.splitOn '.'
  if 1 < parts.length && parts.getLast? == some [] then parts.dropLast else parts

/-- Whether a name ends in a number, and so has to be an address of four bytes. -/
def endsInNumber (characters : List Char) : Bool :=
  match (labels characters).getLast? with
  | none => false
  | some last =>
    (!last.isEmpty && last.all isDigit) || (addressNumber? last).isSome

/-- Whether characters are an address of four bytes, the last of which may stand for several. -/
def isBytesAddress (characters : List Char) : Bool :=
  let parts := labels characters
  match (parts.mapM addressNumber?).map List.reverse with
  | some (last :: others) =>
    parts.length ≤ 4 && others.all (· ≤ 255) && last < Nat.pow 256 (5 - parts.length)
  | _ => false

/-- Whether characters are a name or an address of four bytes. -/
def isNamedHost (characters : List Char) : Bool :=
  let name := charactersOfBytes none (hostBytes characters)
  !name.isEmpty && name.all isHostChar && (!endsInNumber name || isBytesAddress name)

/-! ## Authorities -/

/-- What stands behind the last `@`. -/
def serverOf (authority : List Char) : List Char :=
  (authority.reverse.takeWhile (· != '@')).reverse

/-- Splits a server into its host and what stands behind it. -/
def splitHost : List Char → List Char × List Char
  | '[' :: rest =>
    ('[' :: rest.takeWhile (· != ']') ++ (rest.dropWhile (· != ']')).take 1,
      (rest.dropWhile (· != ']')).drop 1)
  | server => (server.takeWhile (· != ':'), server.dropWhile (· != ':'))

/-- Whether characters are a host. -/
def isHost : List Char → Bool
  | '[' :: rest => rest.getLast? == some ']' && isPiecesAddress rest.dropLast
  | host => isNamedHost host

/-- Whether characters are nothing, or a colon and a port that may be left out. -/
def isPortPart : List Char → Bool
  | [] => true
  | ':' :: port => port.all isDigit && naturalOf port ≤ largest16
  | _ => false

/-- Whether characters are an authority. -/
def isAuthority (characters : List Char) : Bool :=
  let (host, behind) := splitHost (serverOf characters)
  isHost host && isPortPart behind

end UsageLedger.Telemetry
