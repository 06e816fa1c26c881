/-!
# Runs of decimal digits

Reading and writing natural numbers in base ten.  `takeDigits` takes the
longest run of ASCII digits up to a given length, `naturalOf` is the number a
run denotes, `digitsOf` is the shortest run that denotes a number and
`padded` fills it up with zeros on the left.  Single digits are read in base
sixteen as well.
-/

namespace UsageLedger.Text

/-- Whether a character is one of the ten ASCII digits. -/
def isDigit (character : Char) : Bool :=
  '0' ≤ character && character ≤ '9'

/-- The value of an ASCII digit. -/
def digitValue (character : Char) : Nat :=
  character.toNat - '0'.toNat

/-- The ASCII digit of a value below ten. -/
def digitChar (value : Nat) : Char :=
  Char.ofNat ('0'.toNat + value % 10)

/-- The value of a hexadecimal digit. -/
def hexValue? (character : Char) : Option Nat :=
  let code := character.toNat
  if isDigit character then some (code - 48)
  else if 65 ≤ code ∧ code ≤ 70 then some (code - 55)
  else if 97 ≤ code ∧ code ≤ 102 then some (code - 87)
  else none

/-- The number that a run of digits denotes in base ten. -/
def naturalOf (digits : List Char) : Nat :=
  digits.foldl (fun value digit => 10 * value + digitValue digit) 0

/-- Splits off the longest run of at most `limit` digits. -/
def takeDigits : (limit : Nat) → List Char → List Char × List Char
  | 0, rest => ([], rest)
  | _ + 1, [] => ([], [])
  | limit + 1, character :: rest =>
    if isDigit character then
      let (digits, remaining) := takeDigits limit rest
      (character :: digits, remaining)
    else
      ([], character :: rest)

/-- Splits off the longest run of digits. -/
def takeAllDigits (characters : List Char) : List Char × List Char :=
  (characters.takeWhile isDigit, characters.dropWhile isDigit)

/-- The shortest run of digits that denotes a number. -/
def digitsOf (value : Nat) : List Char :=
  Nat.toDigits 10 value

/-- The digits of a number, filled up with zeros on the left to a width. -/
def padded (width value : Nat) : List Char :=
  let digits := digitsOf value
  List.replicate (width - digits.length) '0' ++ digits

/-- An integer in base ten, a minus sign in front when it is negative. -/
def signedDigits (value : Int) : List Char :=
  if value < 0 then '-' :: digitsOf value.natAbs else digitsOf value.natAbs

@[simp]
theorem naturalOf_nil : naturalOf [] = 0 := rfl

theorem takeDigits_append (limit : Nat) (characters : List Char) :
    (takeDigits limit characters).1 ++ (takeDigits limit characters).2 =
      characters := by
  induction limit generalizing characters with
  | zero => rfl
  | succ limit hypothesis =>
    cases characters with
    | nil => rfl
    | cons character rest =>
      by_cases digit : isDigit character
      · simp [takeDigits, digit, hypothesis rest]
      · simp [takeDigits, digit]

theorem takeDigits_isDigit
    (limit : Nat)
    (characters : List Char) :
    ∀ character ∈ (takeDigits limit characters).1,
      isDigit character = true := by
  induction limit generalizing characters with
  | zero => simp [takeDigits]
  | succ limit hypothesis =>
    cases characters with
    | nil => simp [takeDigits]
    | cons character rest =>
      by_cases digit : isDigit character
      · simp [takeDigits, digit]
        exact hypothesis rest
      · simp [takeDigits, digit]

/-- Nothing is lost where all leading digits are split off. -/
theorem takeAllDigits_append (characters : List Char) :
    (takeAllDigits characters).1 ++ (takeAllDigits characters).2 =
      characters :=
  List.takeWhile_append_dropWhile

theorem takeAllDigits_isDigit (characters : List Char) :
    ∀ character ∈ (takeAllDigits characters).1,
      isDigit character = true := by
  have allDigits : (characters.takeWhile isDigit).all isDigit = true :=
    List.all_takeWhile
  exact List.all_eq_true.1 allDigits

theorem takeDigits_length_le
    (limit : Nat)
    (characters : List Char) :
    (takeDigits limit characters).1.length ≤ limit := by
  induction limit generalizing characters with
  | zero => simp [takeDigits]
  | succ limit hypothesis =>
    cases characters with
    | nil => simp [takeDigits]
    | cons character rest =>
      by_cases digit : isDigit character
      · simp [takeDigits, digit, hypothesis rest]
      · simp [takeDigits, digit]

end UsageLedger.Text
