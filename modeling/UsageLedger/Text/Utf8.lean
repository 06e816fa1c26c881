/-!
# Texts in UTF-8

`bytesOf` gives the bytes of a text, and `textOfUtf8?` the text whose bytes they
are, if there is one.  `textOfBytes` reads whatever bytes hold.  Bytes that hold
no character are not lost without a trace then: a byte that starts no character,
and the longest start of a character that breaks off, leave one replacement
character each.
-/

namespace UsageLedger.Text

/-- The bytes of a text. -/
def bytesOf (text : String) : List UInt8 :=
  text.toUTF8.data.toList

/-- The text with some bytes. -/
def textOfUtf8? (bytes : List UInt8) : Option String :=
  String.fromUTF8? ⟨bytes.toArray⟩

@[simp]
theorem textOfUtf8?_bytesOf (text : String) : textOfUtf8? (bytesOf text) = some text := by
  have valid : (ByteArray.mk (bytesOf text).toArray).IsValidUTF8 := text.isValidUTF8
  rw [textOfUtf8?, String.fromUTF8?, dif_pos valid]
  rfl

/-- The character that stands where bytes hold none. -/
def replacement : Char := Char.ofNat 0xFFFD

/-- A character of which some bytes have been read. -/
structure OpenCharacter where
  /-- How many bytes are still to come. -/
  missing : Nat
  /-- The bits read so far. -/
  bits : Nat
  /-- The least that the next byte may be. -/
  lower : Nat
  /-- The most that the next byte may be. -/
  upper : Nat
  deriving DecidableEq, Repr

/-- The character that a byte starts, if it starts one of several bytes. -/
def OpenCharacter.startedBy? (byte : Nat) : Option OpenCharacter :=
  if 0xC2 ≤ byte ∧ byte ≤ 0xDF then some ⟨1, byte % 32, 0x80, 0xBF⟩
  else if 0xE0 ≤ byte ∧ byte ≤ 0xEF then
    some ⟨2, byte % 16, if byte = 0xE0 then 0xA0 else 0x80,
      if byte = 0xED then 0x9F else 0xBF⟩
  else if 0xF0 ≤ byte ∧ byte ≤ 0xF4 then
    some ⟨3, byte % 8, if byte = 0xF0 then 0x90 else 0x80,
      if byte = 0xF4 then 0x8F else 0xBF⟩
  else none

def readFirst (byte : Nat) : List Char × Option OpenCharacter :=
  if byte < 0x80 then ([Char.ofNat byte], none)
  else
    match OpenCharacter.startedBy? byte with
    | some character => ([], some character)
    | none => ([replacement], none)

/-- Reads a byte: the characters that are read with it, and the one that it leaves open. -/
def readByte : Option OpenCharacter → (byte : Nat) → List Char × Option OpenCharacter
  | none, byte => readFirst byte
  | some character, byte =>
    if character.lower ≤ byte ∧ byte ≤ character.upper then
      let bits := character.bits * 64 + byte % 64
      if character.missing ≤ 1 then ([Char.ofNat bits], none)
      else ([], some ⟨character.missing - 1, bits, 0x80, 0xBF⟩)
    else
      let (read, left) := readFirst byte
      (replacement :: read, left)

/-- The characters that bytes hold, behind a character that may be open. -/
def charactersOfBytes : Option OpenCharacter → List UInt8 → List Char
  | none, [] => []
  | some _, [] => [replacement]
  | state, byte :: rest =>
    let (read, left) := readByte state byte.toNat
    read ++ charactersOfBytes left rest

/-- The text that bytes hold. -/
def textOfBytes (bytes : List UInt8) : String :=
  String.ofList (charactersOfBytes none bytes)

end UsageLedger.Text
