/-!
# Form encoding of query parameters

Parameters are written as `name=value` with `&` between them.  Inside a name
or a value the letters and digits of ASCII and `*`, `-`, `.`, `_` stand for
themselves, a space becomes `+`, and every other byte of the UTF-8 form
becomes `%` with two hexadecimal digits in capital letters.  `decodeForm?`
reads such a text back.
-/

namespace UsageLedger.Text

/-- A hexadecimal digit, in capital letters. -/
def capitalHexDigit (value : Nat) : Char :=
  if value < 10 then Char.ofNat (48 + value) else Char.ofNat (55 + value)

/-- The value of a hexadecimal digit in capital letters. -/
def capitalHexValue? (character : Char) : Option Nat :=
  let code := character.toNat
  if 48 ≤ code ∧ code ≤ 57 then some (code - 48)
  else if 65 ≤ code ∧ code ≤ 70 then some (code - 55)
  else none

/-- A byte as `%` and two hexadecimal digits. -/
def percentByte (byte : UInt8) : List Char :=
  ['%', capitalHexDigit (byte.toNat / 16), capitalHexDigit (byte.toNat % 16)]

/-- Whether a character stands for itself. -/
def isUnreserved (character : Char) : Bool :=
  let code := character.toNat
  (48 ≤ code && code ≤ 57) || (65 ≤ code && code ≤ 90) ||
    (97 ≤ code && code ≤ 122) || character == '*' || character == '-' ||
    character == '.' || character == '_'

/-- A character inside a name or a value. -/
def formChar (character : Char) : List Char :=
  if isUnreserved character then [character]
  else if character = ' ' then ['+']
  else (String.utf8EncodeChar character).flatMap percentByte

/-- A name or a value. -/
def formText (text : String) : List Char :=
  text.toList.flatMap formChar

/-- A parameter. -/
def formPair (pair : String × String) : List Char :=
  formText pair.1 ++ '=' :: formText pair.2

/-- Parameters with `&` between them. -/
def encodeForm : List (String × String) → List Char
  | [] => []
  | pair :: [] => formPair pair
  | pair :: rest => formPair pair ++ '&' :: encodeForm rest

/-- The bytes that a name or a value stands for. -/
def formBytes? : List Char → Option (List UInt8)
  | [] => some []
  | '%' :: high :: low :: rest => do
    let upper ← capitalHexValue? high
    let lower ← capitalHexValue? low
    let bytes ← formBytes? rest
    some (UInt8.ofNat (upper * 16 + lower) :: bytes)
  | '+' :: rest => (formBytes? rest).map (32 :: ·)
  | character :: rest =>
    if isUnreserved character then
      (formBytes? rest).map (UInt8.ofNat character.toNat :: ·)
    else none

/-- The text that a name or a value stands for. -/
def decodeFormText? (characters : List Char) : Option String := do
  let bytes ← formBytes? characters
  let decoded ← (ByteArray.mk bytes.toArray).utf8Decode?
  some (String.ofList decoded.toList)

/-- Splits characters at every occurrence of a mark. -/
def splitAtMark (mark : Char) : List Char → List (List Char)
  | [] => [[]]
  | character :: rest =>
    match splitAtMark mark rest with
    | [] => [[character]]
    | first :: others =>
      if character = mark then [] :: first :: others
      else (character :: first) :: others

/-- The name and the value of a parameter. -/
def decodeFormPair? (characters : List Char) : Option (String × String) := do
  let name ← decodeFormText? (characters.takeWhile (· != '='))
  let value ← decodeFormText? ((characters.dropWhile (· != '=')).drop 1)
  some (name, value)

/-- The parameters that characters stand for. -/
def decodeForm? (characters : List Char) : Option (List (String × String)) :=
  if characters.isEmpty then some []
  else (splitAtMark '&' characters).mapM decodeFormPair?

end UsageLedger.Text
