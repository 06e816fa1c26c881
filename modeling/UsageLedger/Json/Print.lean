import UsageLedger.Decimal.Shortest
import UsageLedger.Json.Basic

/-!
# Printing JSON values

`Json.print` writes a value without any white space, `Json.printPretty` with
one item or member a line.  A double is written as the shortest decimal that
reads back.  Quotation marks, backslashes and control characters of a text are
escaped, all other characters stand for themselves.
-/

namespace UsageLedger.Json

open UsageLedger.Text
open UsageLedger.Decimal

/-- A hexadecimal digit, in small letters. -/
def hexDigit (value : Nat) : Char :=
  if value < 10 then Char.ofNat (48 + value) else Char.ofNat (87 + value)

/-- A character as it stands between quotation marks. -/
def escape (character : Char) : List Char :=
  if character = '"' then ['\\', '"']
  else if character = '\\' then ['\\', '\\']
  else if character = '\n' then ['\\', 'n']
  else if character = '\r' then ['\\', 'r']
  else if character = '\t' then ['\\', 't']
  else if character = '\x08' then ['\\', 'b']
  else if character = '\x0C' then ['\\', 'f']
  else if character.toNat < 0x20 then
    ['\\', 'u', '0', '0', hexDigit (character.toNat / 16),
      hexDigit (character.toNat % 16)]
  else [character]

/-- A text between quotation marks. -/
def quoted (text : String) : List Char :=
  '"' :: text.toList.flatMap escape ++ ['"']

/-- A number; a double that is not finite is written as null. -/
def numberChars : Number → List Char
  | .integer value => signedDigits value
  | .real value => (floatText? Layout.json value).getD "null".toList

mutual

/-- The characters of a value without white space. -/
def chars : Json → List Char
  | .null => "null".toList
  | .bool true => "true".toList
  | .bool false => "false".toList
  | .number value => numberChars value
  | .text value => quoted value
  | .array items => '[' :: itemChars items ++ [']']
  | .object members => '\x7b' :: memberChars members ++ ['\x7d']

/-- Items with commas between them. -/
def itemChars : List Json → List Char
  | [] => []
  | item :: [] => chars item
  | item :: rest => chars item ++ ',' :: itemChars rest

/-- Members with commas between them. -/
def memberChars : List (String × Json) → List Char
  | [] => []
  | (name, value) :: [] => quoted name ++ ':' :: chars value
  | (name, value) :: rest =>
    quoted name ++ ':' :: chars value ++ ',' :: memberChars rest

end

/-- A value as text without white space. -/
def print (json : Json) : String :=
  String.ofList (chars json)

/-- A new line with two blanks for each level. -/
def newLine (level : Nat) : List Char :=
  '\n' :: List.replicate (2 * level) ' '

mutual

/-- The characters of a value with one item or member a line. -/
def prettyChars (level : Nat) : Json → List Char
  | .array (item :: rest) =>
    '[' :: prettyItems (level + 1) (item :: rest) ++ newLine level ++ [']']
  | .object (member :: rest) =>
    '\x7b' :: prettyMembers (level + 1) (member :: rest) ++ newLine level ++ ['\x7d']
  | other => chars other

/-- Items, each on a line of its own. -/
def prettyItems (level : Nat) : List Json → List Char
  | [] => []
  | item :: [] => newLine level ++ prettyChars level item
  | item :: rest =>
    newLine level ++ prettyChars level item ++ ',' :: prettyItems level rest

/-- Members, each on a line of its own. -/
def prettyMembers (level : Nat) : List (String × Json) → List Char
  | [] => []
  | (name, value) :: [] =>
    newLine level ++ quoted name ++ ':' :: ' ' :: prettyChars level value
  | (name, value) :: rest =>
    newLine level ++ quoted name ++ ':' :: ' ' :: prettyChars level value ++
      ',' :: prettyMembers level rest

end

/-- A value as text with one item or member a line. -/
def printPretty (json : Json) : String :=
  String.ofList (prettyChars 0 json)

end UsageLedger.Json
