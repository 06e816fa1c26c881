import UsageLedger.Decimal.Literal
import UsageLedger.Json.Draft
import UsageLedger.Text.Utf8
import UsageLedger.Width

/-!
# Scanning JSON texts

`scan` turns the bytes of a text into a draft, and says whether anything but
white space follows the value.  The scanners below each take the bytes from
some place on and give back what they found with the bytes after it; after a
fault there are none.  Bytes are taken as the characters of their numbers, for
nothing but text strings holds other characters, and those are put together
from their bytes in the end.

Digits enter a number as long as their value fits 64 bits.  Those behind only
count as zeros, or not at all behind the point, and the double is what one
multiplication or division by a power of ten makes of the value: near to what
the literal denotes, though not always the nearest.
-/

namespace UsageLedger.Json

open UsageLedger.Text
open UsageLedger.Decimal

/-- The characters that may stand between the parts of a JSON text. -/
def isSpace (character : Char) : Bool :=
  character == ' ' || character == '\n' || character == '\t' || character == '\r'

/-- The characters from the first one that is not white space. -/
def dropSpace (characters : List Char) : List Char :=
  characters.dropWhile isSpace

/-- The number that four hexadecimal digits denote. -/
def hexQuad? : List Char → Option (Nat × List Char)
  | first :: second :: third :: fourth :: rest => do
    let high ← hexValue? first
    let upper ← hexValue? second
    let lower ← hexValue? third
    let low ← hexValue? fourth
    some (((high * 16 + upper) * 16 + lower) * 16 + low, rest)
  | _ => none

/-- What a letter after a backslash stands for. -/
def plainEscape? (character : Char) : Option Char :=
  if character = '"' then some '"'
  else if character = '\\' then some '\\'
  else if character = '/' then some '/'
  else if character = 'b' then some '\x08'
  else if character = 'f' then some '\x0C'
  else if character = 'n' then some '\n'
  else if character = 'r' then some '\r'
  else if character = 't' then some '\t'
  else none

/-- Whether a UTF-16 unit is the first of a pair. -/
def isLeadingUnit (unit : Nat) : Bool :=
  0xD800 ≤ unit && unit ≤ 0xDBFF

/-- Whether a UTF-16 unit is the second of a pair. -/
def isTrailingUnit (unit : Nat) : Bool :=
  0xDC00 ≤ unit && unit ≤ 0xDFFF

/-- The byte that is taken as a character. -/
def byteOf (character : Char) : UInt8 :=
  UInt8.ofNat character.toNat

/-- The part of a JSON text string read so far. -/
structure TextState where
  /-- The bytes, last one first. -/
  reversed : List UInt8
  /-- The first unit of a pair whose second one has to come next. -/
  leading : Option Nat
  /-- Whether an unpaired surrogate was met. -/
  unpaired : Bool

/-- Nothing read yet. -/
def TextState.empty : TextState := ⟨[], none, false⟩

/-- The state after a byte that stands for itself. -/
def TextState.push (state : TextState) (character : Char) : TextState :=
  ⟨byteOf character :: state.reversed, none, state.unpaired || state.leading.isSome⟩

/-- The bytes behind which the bytes of a character are put. -/
def pushCode (code : Nat) (reversed : List UInt8) : List UInt8 :=
  (String.utf8EncodeChar (Char.ofNat code)).reverse ++ reversed

/-- The state after an escaped UTF-16 unit. -/
def TextState.pushUnit (state : TextState) (unit : Nat) : TextState :=
  match state.leading with
  | some leading =>
    if isTrailingUnit unit then
      let code := 0x10000 + (leading - 0xD800) * 0x400 + (unit - 0xDC00)
      ⟨pushCode code state.reversed, none, state.unpaired⟩
    else
      ⟨state.reversed, none, true⟩
  | none =>
    if isLeadingUnit unit then ⟨state.reversed, some unit, state.unpaired⟩
    else if isTrailingUnit unit then ⟨state.reversed, none, true⟩
    else ⟨pushCode unit state.reversed, none, state.unpaired⟩

/-- The text, if it has no unpaired surrogate and its bytes are those of a text. -/
def TextState.finish? (state : TextState) : Option String :=
  if state.unpaired || state.leading.isSome then none
  else textOfUtf8? state.reversed.reverse

/-- A fault inside the text; an unpaired surrogate before it comes first for who keeps the text. -/
def TextState.cut (state : TextState) (fault : Fault) : Cut :=
  ⟨if state.unpaired then .malformed else fault, fault⟩

/-- Scans a text string after its opening quote. -/
def scanText : (fuel : Nat) → TextState → List Char →
    Except Cut (Option String × List Char)
  | 0, state, _ => .error (state.cut .truncated)
  | _ + 1, state, [] => .error (state.cut .truncated)
  | fuel + 1, state, character :: rest =>
    if character = '"' then .ok (state.finish?, rest)
    else if character = '\\' then
      match rest with
      | [] => .error (state.cut .truncated)
      | letter :: afterLetter =>
        if letter = 'u' then
          match hexQuad? afterLetter with
          | some (unit, remaining) => scanText fuel (state.pushUnit unit) remaining
          | none =>
            if afterLetter.length < 4 then .error (state.cut .truncated)
            else .error (state.cut .malformed)
        else
          match plainEscape? letter with
          | some plain => scanText fuel (state.push plain) afterLetter
          | none => .error (state.cut .malformed)
    else if character.toNat < 0x20 then .error (state.cut .malformed)
    else scanText fuel (state.push character) rest

/-- The fault where a number stops in front of the given characters before it is complete. -/
def numberCut : List Char → Cut
  | [] => ⟨.truncated, .malformed⟩
  | _ => .malformed

/-- Scans the digits before the point: a zero alone, or digits that start with none. -/
def scanWhole (characters : List Char) : Except Cut (List Char × List Char) :=
  let (digits, rest) := takeAllDigits characters
  match digits with
  | [] => .error (numberCut rest)
  | '0' :: _ :: _ => .error .malformed
  | _ => .ok (digits, rest)

/-- Scans a point with at least one digit after it, if there is a point. -/
def scanPlaces : List Char → Except Cut (Option (List Char) × List Char)
  | '.' :: rest =>
    let (digits, remaining) := takeAllDigits rest
    if digits.isEmpty then .error (numberCut remaining)
    else .ok (some digits, remaining)
  | rest => .ok (none, rest)

/-- Scans a power of ten with at least one digit, if there is one. -/
def scanPower : List Char → Except Cut (Option Int × List Char)
  | [] => .ok (none, [])
  | character :: rest =>
    if character = 'e' ∨ character = 'E' then
      let (negative, unsigned) := readSign rest
      let (digits, remaining) := takeAllDigits unsigned
      if digits.isEmpty then .error (numberCut remaining)
      else
        let power : Int := naturalOf digits
        .ok (some (if negative then -power else power), remaining)
    else .ok (none, character :: rest)

/-- A finite double as a number. -/
def finiteNumber? (value : Float) : Option Number :=
  if value.isFinite then some (.real value) else none

/--
Takes digits into a value as long as it fits 64 bits; gives the digits from the
first one on that does not.
-/
def takeFitting : (value : Nat) → List Char → Nat × List Char
  | value, [] => (value, [])
  | value, digit :: rest =>
    let next := value * 10 + digitValue digit
    if next ≤ largest64 then takeFitting next rest else (value, digit :: rest)

/-- The largest power of ten that is a double. -/
def largestPower : Nat := 308

/-- The double that is a power of ten. -/
def powerOfTen (power : Nat) : Float :=
  Float.ofScientific 1 false power

/-- Divides a double by a power of ten, the largest one at a time, until nothing is left. -/
def dividedBy (power : Nat) : (steps : Nat) → Float → Float
  | 0, value => value / powerOfTen power
  | steps + 1, value =>
    if value == 0.0 then value
    else dividedBy power steps (value / powerOfTen largestPower)

/-- A value times a power of ten; none if the result is beyond the doubles. -/
def scaled? (value : Nat) (exponent : Int) : Option Float :=
  let start := value.toUInt64.toFloat
  if exponent < 0 then
    let power := exponent.natAbs - 1
    some (dividedBy (power % largestPower + 1) (power / largestPower) start)
  else if exponent.toNat ≤ largestPower then
    some (start * powerOfTen exponent.toNat)
  else if value = 0 then some start
  else none

/--
The double of a value with its power of ten and the power that is written
behind it.  One of more than 32 bits leaves nothing, or is too much.
-/
def written? (value : Nat) (exponent power : Int) : Option Float :=
  if power.natAbs ≤ largestSigned32 then scaled? value (exponent + power)
  else if value ≠ 0 ∧ 0 < power then none
  else some 0.0

/-- A finite double with a sign as a number. -/
def signedNumber? (negative : Bool) (value : Float) : Option Number :=
  finiteNumber? (if negative then -value else value)

/-- An integer with a sign as a number; a negative one beyond 64 bits and zero are doubles. -/
def integerNumber? (negative : Bool) (value : Nat) : Option Number :=
  if !negative then some (.integer value)
  else if value ≠ 0 ∧ leastSigned ≤ -(value : Int) then some (.integer (-(value : Int)))
  else signedNumber? true value.toUInt64.toFloat

/--
The number a literal denotes.  Without point and power it is exact as far as
64 bits reach.
-/
def numberOf (negative : Bool) (digits : List Char)
    (places : Option (List Char)) (power : Option Int) : Option Number :=
  let (whole, uncounted) := takeFitting 0 digits
  if uncounted.isEmpty && places.isNone && power.isNone then
    integerNumber? negative whole
  else
    let fraction := places.getD []
    let (value, unread) := takeFitting whole fraction
    let exponent : Int := uncounted.length - (fraction.length - unread.length : Nat)
    (written? value exponent (power.getD 0)).bind (signedNumber? negative)

/-- Splits off a minus sign. -/
def readMinus : List Char → Bool × List Char
  | '-' :: rest => (true, rest)
  | rest => (false, rest)

def scanNumber (characters : List Char) :
    Except Cut (Option Number × List Char) := do
  let (negative, unsigned) := readMinus characters
  let (digits, afterDigits) ← scanWhole unsigned
  let (places, afterPlaces) ← scanPlaces afterDigits
  let (power, rest) ← scanPower afterPlaces
  pure (numberOf negative digits places power, rest)

/-- Scans the rest of a word. -/
def scanWord : (word : List Char) → List Char → Except Cut (List Char)
  | [], rest => .ok rest
  | _ :: _, [] => .error .truncated
  | expected :: word, character :: rest =>
    if character = expected then scanWord word rest else .error .malformed

/-- A scanned value, or the fault in its place. -/
def settle (scanned : Except Cut (Draft × List Char)) : Draft × List Char :=
  match scanned with
  | .ok found => found
  | .error cut => (.broken cut, [])

/-- The number of arrays and objects that may be open around a kept value. -/
def nestingLimit : Nat := 127

/-- Marks an array or object that stands inside too many others. -/
def nested (depth : Nat) (value : Draft) : Draft :=
  if nestingLimit ≤ depth then .buried value else value

mutual

/-- Scans a value that stands inside `depth` arrays and objects. -/
def scanValue : (fuel depth : Nat) → List Char → Draft × List Char
  | 0, _, _ => (.broken .truncated, [])
  | fuel + 1, depth, characters =>
    match dropSpace characters with
    | [] => (.broken .truncated, [])
    | '[' :: rest =>
      let (items, ending, remaining) := scanFirstItem fuel depth rest
      (nested depth (.array items ending), remaining)
    | '{' :: rest =>
      let (members, ending, remaining) := scanFirstMember fuel depth rest
      (nested depth (.object members ending), remaining)
    | '"' :: rest =>
      settle ((scanText fuel .empty rest).map fun (value, remaining) =>
        (.text value, remaining))
    | 'n' :: rest =>
      settle ((scanWord "ull".toList rest).map fun remaining => (.null, remaining))
    | 't' :: rest =>
      settle ((scanWord "rue".toList rest).map fun remaining =>
        (.bool true, remaining))
    | 'f' :: rest =>
      settle ((scanWord "alse".toList rest).map fun remaining =>
        (.bool false, remaining))
    | character :: rest =>
      if character = '-' ∨ isDigit character then
        settle ((scanNumber (character :: rest)).map fun (value, remaining) =>
          (.number value, remaining))
      else (.broken .malformed, [])

/-- Scans an array after its opening bracket. -/
def scanFirstItem : (fuel depth : Nat) → List Char →
    List Draft × Ending × List Char
  | 0, _, _ => ([], .broken .truncated, [])
  | fuel + 1, depth, characters =>
    match dropSpace characters with
    | [] => ([], .broken .truncated, [])
    | ']' :: rest => ([], .closed, rest)
    | rest => scanItem fuel depth rest

/-- Scans an item and what follows it in its array. -/
def scanItem : (fuel depth : Nat) → List Char →
    List Draft × Ending × List Char
  | 0, _, _ => ([], .broken .truncated, [])
  | fuel + 1, depth, characters =>
    let (item, afterItem) := scanValue fuel (depth + 1) characters
    match dropSpace afterItem with
    | [] => ([item], .broken .truncated, [])
    | ']' :: rest => ([item], .closed, rest)
    | ',' :: rest =>
      let (items, ending, remaining) := scanItem fuel depth rest
      (item :: items, ending, remaining)
    | _ => ([item], .broken .malformed, [])

/-- Scans an object after its opening brace. -/
def scanFirstMember : (fuel depth : Nat) → List Char →
    List (Option String × Draft) × Ending × List Char
  | 0, _, _ => ([], .broken .truncated, [])
  | fuel + 1, depth, characters =>
    match dropSpace characters with
    | '}' :: rest => ([], .closed, rest)
    | rest => scanMember fuel depth rest

/-- Scans a member and what follows it in its object. -/
def scanMember : (fuel depth : Nat) → List Char →
    List (Option String × Draft) × Ending × List Char
  | 0, _, _ => ([], .broken .truncated, [])
  | fuel + 1, depth, characters =>
    match dropSpace characters with
    | [] => ([], .broken .truncated, [])
    | '"' :: rest =>
      match scanText fuel .empty rest with
      | .error cut => ([], .broken cut, [])
      | .ok (name, afterName) =>
        let (value, afterValue) :=
          match dropSpace afterName with
          | [] => (.broken .truncated, [])
          | ':' :: remaining => scanValue fuel (depth + 1) remaining
          | _ => (.broken .malformed, [])
        match dropSpace afterValue with
        | [] => ([(name, value)], .broken .truncated, [])
        | '}' :: remaining => ([(name, value)], .closed, remaining)
        | ',' :: remaining =>
          let (members, ending, unread) := scanMember fuel depth remaining
          ((name, value) :: members, ending, unread)
        | _ => ([(name, value)], .broken .malformed, [])
    | _ => ([], .broken .malformed, [])

end

/-- A scanned text: its value, and whether more than white space follows. -/
structure Document where
  root : Draft
  hasMore : Bool

/-- The character that a byte is taken as. -/
def characterOf (byte : UInt8) : Char :=
  Char.ofNat byte.toNat

def scan (bytes : List UInt8) : Document :=
  let characters := bytes.map characterOf
  let (root, rest) := scanValue (3 * characters.length + 4) 0 characters
  ⟨root, !(dropSpace rest).isEmpty⟩

/-- The JSON value of a whole text. -/
def parse (text : String) : Except Fault Json := do
  let document := scan (bytesOf text)
  let value ← document.root.keep
  if document.hasMore then .error .malformed else pure value

end UsageLedger.Json
