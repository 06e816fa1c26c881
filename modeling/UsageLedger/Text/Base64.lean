/-!
# Base64

Three bytes are written as four characters of six bits each; one or two bytes
at the end are filled up with `=`.
-/

namespace UsageLedger.Text

/-- The character of six bits. -/
def base64Char (value : Nat) : Char :=
  if value < 26 then Char.ofNat (65 + value)
  else if value < 52 then Char.ofNat (71 + value)
  else if value < 62 then Char.ofNat (value - 4)
  else if value = 62 then '+'
  else '/'

/-- The characters of some bytes. -/
def base64Bytes : List UInt8 → List Char
  | [] => []
  | [first] =>
    let bits := first.toNat * 65536
    [base64Char (bits / 262144), base64Char (bits / 4096 % 64), '=', '=']
  | [first, second] =>
    let bits := first.toNat * 65536 + second.toNat * 256
    [base64Char (bits / 262144), base64Char (bits / 4096 % 64),
      base64Char (bits / 64 % 64), '=']
  | first :: second :: third :: rest =>
    let bits := first.toNat * 65536 + second.toNat * 256 + third.toNat
    base64Char (bits / 262144) :: base64Char (bits / 4096 % 64) ::
      base64Char (bits / 64 % 64) :: base64Char (bits % 64) :: base64Bytes rest

/-- The UTF-8 form of a text in Base64. -/
def base64 (text : String) : String :=
  String.ofList (base64Bytes text.toUTF8.toList)

end UsageLedger.Text
