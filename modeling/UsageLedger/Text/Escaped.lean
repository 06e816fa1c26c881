import UsageLedger.Text.Unseen

/-!
# Texts inside messages

A message shows a text between quotation marks.  Quotation marks, backslashes,
tabs and line ends are escaped by a backslash, and a character that shows
nothing by itself is given by its code point in hexadecimal.
-/

namespace UsageLedger.Text

/-- The digits of a number in base sixteen, in small letters. -/
def hexDigits (value : Nat) : List Char :=
  Nat.toDigits 16 value

def codePoint (character : Char) : List Char :=
  '\\' :: 'u' :: '\x7b' :: hexDigits character.toNat ++ ['\x7d']

/-- A character as it stands inside a message. -/
def escapeForMessage (character : Char) : List Char :=
  if character = '"' then ['\\', '"']
  else if character = '\\' then ['\\', '\\']
  else if character = '\t' then ['\\', 't']
  else if character = '\n' then ['\\', 'n']
  else if character = '\r' then ['\\', 'r']
  else if character = '\x00' then ['\\', '0']
  else if isUnseen character then codePoint character
  else [character]

/-- A text between quotation marks, as messages show it. -/
def inQuotes (text : String) : String :=
  String.ofList ('"' :: text.toList.flatMap escapeForMessage ++ ['"'])

end UsageLedger.Text
