import UsageLedger.Json.Basic

/-!
# Drafts: JSON texts as far as they are well formed

A reader that knows which type it expects meets the problems of a text in
order: a value of the wrong kind counts before a fault further on in the text.
A draft keeps what such a reader needs.  It is a JSON value in which a value,
the end of an array or the end of an object may be missing, and what stands
there instead is the fault met at that place.  Nothing follows a fault.

Some texts are faults only to a reader that keeps the value and not to one
that skips it: an unpaired surrogate, bytes that hold no text, a number beyond
the doubles, a value nested too deeply.  A cut therefore holds a fault for
either kind of reader.
-/

namespace UsageLedger.Json

/-- What is wrong with a JSON text, or with its fit to a type. -/
inductive Fault where
  | truncated
  | malformed
  | mismatched
  deriving DecidableEq, Repr

/-- The fault at a place, for a reader that keeps the value and for one that skips it. -/
structure Cut where
  kept : Fault
  skipped : Fault
  deriving DecidableEq, Repr

/-- The text ends too early. -/
def Cut.truncated : Cut := ⟨.truncated, .truncated⟩

/-- The text is no JSON here. -/
def Cut.malformed : Cut := ⟨.malformed, .malformed⟩

/-- How an array or object ends: with its bracket, or with a fault. -/
inductive Ending where
  | closed
  | broken (cut : Cut)
  deriving DecidableEq, Repr

/-- A JSON text as far as it is well formed. -/
inductive Draft where
  | null
  | bool (value : Bool)
  /-- A number; none when it is beyond the doubles. -/
  | number (value : Option Number)
  /-- A text; none when it has an unpaired surrogate or bytes that hold no text. -/
  | text (value : Option String)
  | array (items : List Draft) (ending : Ending)
  | object (members : List (Option String × Draft)) (ending : Ending)
  /-- An array or object nested too deeply to be kept. -/
  | buried (inner : Draft)
  | broken (cut : Cut)

instance : Inhabited Draft := ⟨Draft.null⟩

/-- The fault of an ending to a reader that keeps the value. -/
def Ending.keep : Ending → Except Fault Unit
  | .closed => .ok ()
  | .broken cut => .error cut.kept

/-- The fault of an ending to a reader that skips the value. -/
def Ending.skip : Ending → Except Fault Unit
  | .closed => .ok ()
  | .broken cut => .error cut.skipped

mutual

/-- Reads over a value. -/
def Draft.skip : Draft → Except Fault Unit
  | .null => .ok ()
  | .bool _ => .ok ()
  | .number _ => .ok ()
  | .text _ => .ok ()
  | .array items ending => do
    skipItems items
    ending.skip
  | .object members ending => do
    skipMembers members
    ending.skip
  | .buried inner => inner.skip
  | .broken cut => .error cut.skipped

/-- Reads over the items of an array. -/
def skipItems : List Draft → Except Fault Unit
  | [] => .ok ()
  | item :: rest => do
    item.skip
    skipItems rest

/-- Reads over the members of an object. -/
def skipMembers : List (Option String × Draft) → Except Fault Unit
  | [] => .ok ()
  | (_, value) :: rest => do
    value.skip
    skipMembers rest

end

/-- A value that must be there, or else the text is malformed. -/
def orMalformed {α : Type} : Option α → Except Fault α
  | some value => .ok value
  | none => .error .malformed

mutual

/-- The JSON value of a draft; of two members with one name the later counts. -/
def Draft.keep : Draft → Except Fault Json
  | .null => .ok .null
  | .bool value => .ok (.bool value)
  | .number value => (orMalformed value).map Json.number
  | .text value => (orMalformed value).map Json.text
  | .array items ending => do
    let kept ← keepItems items
    ending.keep
    pure (.array kept)
  | .object members ending => do
    let kept ← keepMembers [] members
    ending.keep
    pure (.object kept)
  | .buried _ => .error .malformed
  | .broken cut => .error cut.kept

/-- The JSON values of the items of an array. -/
def keepItems : List Draft → Except Fault (List Json)
  | [] => .ok []
  | item :: rest => do
    let first ← item.keep
    let others ← keepItems rest
    pure (first :: others)

/-- The members of an object, added to those before them. -/
def keepMembers (before : List (String × Json)) :
    List (Option String × Draft) → Except Fault (List (String × Json))
  | [] => .ok before
  | (name, value) :: rest => do
    let key ← orMalformed name
    let kept ← value.keep
    keepMembers (insertMember key kept before) rest

end

mutual

/-- A JSON value as a draft without faults. -/
def draft : Json → Draft
  | .null => .null
  | .bool value => .bool value
  | .number value => .number (some value)
  | .text value => .text (some value)
  | .array items => .array (draftItems items) .closed
  | .object members => .object (draftMembers members) .closed

/-- JSON values as drafts. -/
def draftItems : List Json → List Draft
  | [] => []
  | item :: rest => draft item :: draftItems rest

def draftMembers : List (String × Json) → List (Option String × Draft)
  | [] => []
  | (name, value) :: rest => (some name, draft value) :: draftMembers rest

end

end UsageLedger.Json
