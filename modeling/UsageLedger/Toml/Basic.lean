import UsageLedger.Json.Basic

/-!
# TOML values

A table is made by a header, by dotted keys, or inline; which of these decides
whether it can be added to later.  `descend` walks along a path of keys and
makes the tables that are missing on the way.
-/

namespace UsageLedger.Toml

/-- How a table came to be. -/
structure Origin where
  /-- Whether it was only named on the way to another one. -/
  implicit : Bool
  /-- Whether a dotted key made it. -/
  dotted : Bool
  /-- Whether it is complete: it was written between braces. -/
  inline : Bool
  deriving DecidableEq, Repr

/-- A TOML value. -/
inductive Value where
  | text (value : String)
  | integer (value : Int)
  | real (value : Float)
  | bool (value : Bool)
  | time (value : String)
  | array (items : List Value)
  /-- An array of tables made by headers, last one first. -/
  | tables (reversed : List Value)
  | table (origin : Origin) (entries : List (String × Value))

/-- A table outside of any value. -/
structure Table where
  origin : Origin
  entries : List (String × Value)

def Table.value (table : Table) : Value :=
  .table table.origin table.entries

/-- A table made by a header. -/
def Origin.header : Origin := ⟨false, false, false⟩

/-- A table made on the way to another one. -/
def Origin.passing (dotted : Bool) : Origin := ⟨true, dotted, false⟩

/-- A table made between braces. -/
def Origin.braces : Origin := ⟨false, false, true⟩

/-- A table without entries, made by a header. -/
def Table.empty : Table := ⟨.header, []⟩

def Table.set (table : Table) (key : String) (value : Value) : Table :=
  { table with entries := insertMember key value table.entries }

/-- The table without a key. -/
def Table.remove (table : Table) (key : String) : Table :=
  { table with entries := table.entries.filter fun entry => entry.1 != key }

/--
Changes the table at the end of a path and gives what the change found there.
A table that a dotted key passes must have been made by a dotted key; of an
array of tables the last one counts.
-/
def descend {α : Type} (dotted : Bool) (change : Table → Option (α × Table)) :
    List String → Table → Option (α × Table)
  | [], table => change table
  | key :: path, table =>
    match (member? key table.entries).getD (.table (.passing dotted) []) with
    | .table origin entries =>
      if origin.inline || (dotted && !origin.implicit) then none
      else
        (descend dotted change path ⟨origin, entries⟩).map
          fun (found, changed) => (found, table.set key changed.value)
    | .tables (.table origin entries :: earlier) =>
      (descend dotted change path ⟨origin, entries⟩).map
        fun (found, changed) =>
          (found, table.set key (.tables (changed.value :: earlier)))
    | _ => none

/-- A dotted key: the parts before the last one, and the last one. -/
structure KeyPath where
  before : List String
  last : String
  deriving DecidableEq, Repr

/-- Adds a value under a dotted key. -/
def Table.add? (table : Table) (path : KeyPath) (value : Value) : Option Table :=
  (descend true
    (fun target =>
      if target.origin.dotted == path.before.isEmpty then none
      else if (member? path.last target.entries).isSome then none
      else some ((), target.set path.last value))
    path.before table).map Prod.snd

mutual

/-- A value as JSON; a time is an object with one member. -/
def Value.toJson : Value → Json
  | .text value => .text value
  | .integer value => .integer value
  | .real value => .number (.real value)
  | .bool value => .bool value
  | .time value => .object [("$time", .text value)]
  | .array items => .array (itemsToJson items)
  | .tables reversed => .array (itemsToJson reversed).reverse
  | .table _ entries => .object (entriesToJson entries)

def itemsToJson : List Value → List Json
  | [] => []
  | item :: rest => item.toJson :: itemsToJson rest

/-- Entries as members of an object. -/
def entriesToJson : List (String × Value) → List (String × Json)
  | [] => []
  | (key, value) :: rest => (key, value.toJson) :: entriesToJson rest

end

/-- A table as a JSON object. -/
def Table.toJson (table : Table) : Json :=
  .object (entriesToJson table.entries)

end UsageLedger.Toml
