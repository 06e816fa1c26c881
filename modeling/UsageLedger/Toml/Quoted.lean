import UsageLedger.Toml.Scalar

/-!
# Quoted TOML strings

A string stands between single or triple quotes of two kinds: between double
quotes a backslash starts an escape, between plain ones nothing is escaped.
Triple quotes may enclose several lines; a line feed right behind the opening
quotes is left out, and up to two quotes may stand directly before the closing
ones.
-/

namespace UsageLedger.Toml

/-- How a string is written. -/
structure Quoting where
  quote : Char
  /-- Whether a backslash starts an escape. -/
  escapes : Bool
  /-- Whether the string stands between triple quotes. -/
  multiline : Bool
  deriving DecidableEq, Repr

/-- Whether a character may stand for itself in a comment or in a string of one line. -/
def isPlain (character : Char) : Bool :=
  character == '\t' || (0x20 ≤ character.toNat && character.toNat != 0x7F)

def isLineBlank (character : Char) : Bool :=
  character == ' ' || character == '\t'

/-- The characters from the first one that is no blank within the line. -/
def dropLineBlanks (characters : List Char) : List Char :=
  characters.dropWhile isLineBlank

/-- The character that a hexadecimal number of a fixed width denotes. -/
def codePoint? (width : Nat) (characters : List Char) : Option (Char × List Char) := do
  let digits ← (characters.take width).mapM (baseDigit? 16)
  let code := digits.foldl (fun value digit => 16 * value + digit) 0
  if digits.length = width ∧ code.isValidChar then
    some (Char.ofNat code, characters.drop width)
  else none

/-- What an escape stands for, given the characters after its backslash. -/
def escaped? : List Char → Option (Char × List Char)
  | [] => none
  | letter :: rest =>
    if letter = '"' ∨ letter = '\\' then some (letter, rest)
    else if letter = 'b' then some ('\x08', rest)
    else if letter = 't' then some ('\t', rest)
    else if letter = 'n' then some ('\n', rest)
    else if letter = 'f' then some ('\x0C', rest)
    else if letter = 'r' then some ('\r', rest)
    else if letter = 'u' then codePoint? 4 rest
    else if letter = 'U' then codePoint? 8 rest
    else none

/-- The characters after a line break that a backslash hides, with the blanks around it. -/
def hiddenBreak? (characters : List Char) : Option (List Char) :=
  match dropLineBlanks characters with
  | '\n' :: rest =>
    some (rest.dropWhile fun character => isLineBlank character || character == '\n')
  | _ => none

/-- Reads a string after its opening quotes; what is read so far comes last one first. -/
def readQuoted (quoting : Quoting) : (fuel : Nat) → (reversed : List Char) →
    List Char → Option (String × List Char)
  | 0, _, _ => none
  | _ + 1, _, [] => none
  | fuel + 1, reversed, character :: rest =>
    if character = quoting.quote then
      if quoting.multiline then
        let quotes := (character :: rest).takeWhile (· == quoting.quote)
        let remaining := rest.dropWhile (· == quoting.quote)
        if quotes.length < 3 then
          readQuoted quoting fuel (quotes ++ reversed) remaining
        else if quotes.length ≤ 5 then
          some (String.ofList ((quotes.drop 3 ++ reversed).reverse), remaining)
        else none
      else some (String.ofList reversed.reverse, rest)
    else if quoting.escapes && character == '\\' then
      match (if quoting.multiline then hiddenBreak? rest else none) with
      | some remaining => readQuoted quoting fuel reversed remaining
      | none =>
        match escaped? rest with
        | some (plain, remaining) => readQuoted quoting fuel (plain :: reversed) remaining
        | none => none
    else if isPlain character || (quoting.multiline && character == '\n') then
      readQuoted quoting fuel (character :: reversed) rest
    else none

/-- The characters after a line feed at the start. -/
def dropBreak : List Char → List Char
  | '\n' :: rest => rest
  | rest => rest

/-- Reads a string of one line after its opening quote. -/
def readLine? (quote : Char) (characters : List Char) : Option (String × List Char) :=
  readQuoted ⟨quote, quote == '"', false⟩ (characters.length + 1) [] characters

/-- Reads a string after its opening triple quotes. -/
def readLines? (quote : Char) (characters : List Char) : Option (String × List Char) :=
  readQuoted ⟨quote, quote == '"', true⟩ (characters.length + 1) [] (dropBreak characters)

end UsageLedger.Toml
