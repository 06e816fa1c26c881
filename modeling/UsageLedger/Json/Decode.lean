import UsageLedger.Json.Scan
import UsageLedger.Width

/-!
# Decoding drafts into types

A decoder reads a draft as a value of a type or reports the first fault it
meets.  Structures are described by a `Shape`, which is built field by field:
an object gives the fields by name in any order, unknown names are skipped and
a known name must not come twice; an array gives them in the order of their
declaration.  A field may have a value to use when an object lacks it, and one
to use when an array is too short for it.
-/

namespace UsageLedger.Decode

open UsageLedger.Json (Draft Ending Fault orMalformed)
open UsageLedger.Text (bytesOf)

/-- Reads a draft as a value of a type. -/
abbrev Decoder (α : Type) := Draft → Except Fault α

/--
The fault of a value that is of the wrong kind; a text or number is read before
it is refused.
-/
def mismatch : Draft → Fault
  | .number none => .malformed
  | .text none => .malformed
  | .broken cut => cut.kept
  | _ => .mismatched

def text : Decoder String
  | .text (some value) => .ok value
  | other => .error (mismatch other)

/-- An integer between two bounds. -/
def integer (low high : Int) : Decoder Int
  | .number (some (.integer value)) =>
    if low ≤ value ∧ value ≤ high then .ok value else .error .mismatched
  | other => .error (mismatch other)

/-- A natural number up to a bound. -/
def natural (high : Nat) : Decoder Nat :=
  fun value => (integer 0 high value).map Int.toNat

/-- An integer of 64 bits. -/
def signed64 : Decoder Int :=
  integer leastSigned largestSigned

/-- The double nearest to a number. -/
def nearest : Number → Float
  | .real value => value
  | .integer value =>
    let magnitude := Float.ofNat value.natAbs
    if value < 0 then -magnitude else magnitude

/-- A double, from any number. -/
def real : Decoder Float
  | .number (some value) => .ok (nearest value)
  | other => .error (mismatch other)

/-- A value, or null for none. -/
def optional {α : Type} (decode : Decoder α) : Decoder (Option α)
  | .null => .ok none
  | other => (decode other).map some

/-- The items of an array. -/
def list {α : Type} (decode : Decoder α) : Decoder (List α)
  | .array items ending => do
    let values ← items.mapM decode
    ending.keep
    pure values
  | other => .error (mismatch other)

/-- One of some names, alone or as the only member of an object with null under it. -/
def choice {α : Type} (names : List (String × α)) : Decoder α
  | .text (some name) =>
    match member? name names with
    | some value => .ok value
    | none => .error .mismatched
  | .object [(some name, .null)] .closed =>
    match member? name names with
    | some value => .ok value
    | none => .error .mismatched
  | other => .error (mismatch other)

/-- A field of a structure. -/
structure RecordField (α : Type) where
  name : String
  decode : Decoder α
  /-- The value when an object does not have the field. -/
  missing : Option α
  /-- The value when an array ends before the field. -/
  beyond : Option α

/-- A field that has to be there. -/
def RecordField.required {α : Type} (name : String) (decode : Decoder α) : RecordField α :=
  ⟨name, decode, none, none⟩

/-- A field that an object may lack or have as null; an array has to have it. -/
def RecordField.optional {α : Type} (name : String) (decode : Decoder α) :
    RecordField (Option α) :=
  ⟨name, Decode.optional decode, some none, none⟩

/-- A field with a value to use when it is not there. -/
def RecordField.defaulted {α : Type} (name : String) (decode : Decoder α) (value : α) :
    RecordField α :=
  ⟨name, decode, some value, some value⟩

/-- How the fields of a structure are found. -/
structure Shape (α : Type) where
  /-- The names of the fields, with what reads their values. -/
  fields : List (String × (Draft → Except Fault Unit))
  /-- The structure from values under names. -/
  fromMembers : List (String × Draft) → Except Fault α
  /-- The structure from values in order, with those left over. -/
  fromItems : List Draft → Ending → Except Fault (α × List Draft)

/-- A structure without fields. -/
def Shape.of {α : Type} (value : α) : Shape α where
  fields := []
  fromMembers := fun _ => .ok value
  fromItems := fun items _ => .ok (value, items)

/-- A value that has to be there. -/
def orMismatched {α : Type} : Option α → Except Fault α
  | some value => .ok value
  | none => .error .mismatched

/-- Reads a field from values under names. -/
def RecordField.fromMembers {α : Type} (field : RecordField α)
    (members : List (String × Draft)) : Except Fault α :=
  match member? field.name members with
  | some value => field.decode value
  | none => orMismatched field.missing

/-- Reads a field from values in order. -/
def RecordField.fromItems {α : Type} (field : RecordField α) (ending : Ending) :
    List Draft → Except Fault (α × List Draft)
  | item :: rest => (field.decode item).map fun value => (value, rest)
  | [] => do
    ending.keep
    let value ← orMismatched field.beyond
    pure (value, [])

/-- A structure with one more field. -/
def Shape.with {α β : Type} (shape : Shape (α → β)) (field : RecordField α) :
    Shape β where
  fields :=
    shape.fields ++ [(field.name, fun value => (field.decode value).map fun _ => ())]
  fromMembers := fun members => do
    let build ← shape.fromMembers members
    let value ← field.fromMembers members
    pure (build value)
  fromItems := fun items ending => do
    let (build, afterShape) ← shape.fromItems items ending
    let (value, rest) ← field.fromItems ending afterShape
    pure (build value, rest)

/-- Reads the members of an object in order; gives those with a known name. -/
def knownMembers (fields : List (String × (Draft → Except Fault Unit)))
    (seen : List String) :
    List (Option String × Draft) → Except Fault (List (String × Draft))
  | [] => .ok []
  | (name, value) :: rest => do
    let key ← orMalformed name
    match member? key fields with
    | none =>
      value.skip
      knownMembers fields seen rest
    | some check =>
      if key ∈ seen then .error .mismatched
      else
        check value
        let others ← knownMembers fields (key :: seen) rest
        pure ((key, value) :: others)

/-- Nothing may be left over once an array gave every field. -/
def noneLeft (left : List Draft) (ending : Ending) : Except Fault Unit :=
  match left with
  | [] => ending.keep
  | _ :: _ => .error .malformed

/-- Reads a structure from an object or an array. -/
def Shape.decode {α : Type} (shape : Shape α) : Decoder α
  | .object members ending => do
    let known ← knownMembers shape.fields [] members
    ending.keep
    shape.fromMembers known
  | .array items ending => do
    let (value, left) ← shape.fromItems items ending
    noneLeft left ending
    pure value
  | other => .error (mismatch other)

/-- Reads a JSON value as a type. -/
def ofJson {α : Type} (decode : Decoder α) (json : Json) : Except Fault α :=
  decode (Json.draft json)

/-- Reads the bytes of a whole text as a type. -/
def ofBytes {α : Type} (decode : Decoder α) (bytes : List UInt8) : Except Fault α := do
  let document := Json.scan bytes
  let value ← decode document.root
  if document.hasMore then .error .malformed else pure value

/-- Reads a whole text as a type. -/
def ofText {α : Type} (decode : Decoder α) (text : String) : Except Fault α :=
  ofBytes decode (bytesOf text)

end UsageLedger.Decode
