import UsageLedger.Store.Location
import UsageLedger.Text.Escaped
import UsageLedger.Width

/-!
# What goes wrong in the store

A stored row can hold what no operation of the store writes, since columns may
be overwritten from outside; reading such a row fails.  The other causes are
sums that leave 64 bits, a missing value or an equal key that a forced change
would bring, a file that cannot be found or used and a run that is asked to
end but is not running.  A call that breaks off over a number that does not
fit gives nothing back; here it is one more cause.
-/

namespace UsageLedger.Store

open UsageLedger.Text

/-- The kinds of stored values, a missing one among them. -/
inductive CellKind where
  | missing
  | integer
  | real
  | text
  deriving DecidableEq, Repr

/-- The name of a kind in messages. -/
def CellKind.name : CellKind → String
  | .missing => "Null"
  | .integer => "Integer"
  | .real => "Real"
  | .text => "Text"

/-- The causes of failure. -/
inductive StoreError where
  /-- A column holds a value of a kind that it cannot be read as. -/
  | columnKind (index : Nat) (column : String) (kind : CellKind)
  /-- A column holds a name that stands for nothing. -/
  | unexpectedValue (index : Nat) (column value : String)
  /-- A sum of integers leaves 64 bits. -/
  | integerOverflow
  /-- A column that must hold a value would lose it. -/
  | missingValue (column : String)
  /-- Two rows would have the same key. -/
  | equalKeys (columns : String)
  /-- A value is no number of a run. -/
  | notARunNumber
  /-- A table has no such column. -/
  | unknownColumn (column : String)
  /-- No number is left for another run. -/
  | noNumberLeft
  /-- The text that says where the store is kept is wrong. -/
  | location (cause : LocationError)
  /-- A file cannot be opened. -/
  | cannotOpen (path : String)
  /-- No file can be made next to the file of the store. -/
  | noCompanion
  /-- A file cannot be read. -/
  | unreadable
  /-- A file holds something else. -/
  | notADatabase
  /-- The file must not be written. -/
  | readOnly
  /-- A run was to end that is not running. -/
  | runNotRunning (id : Int)
  /-- The call broke off. -/
  | overflow (cause : Overflow)
  deriving DecidableEq, Repr

/-- The cause as the store itself words it. -/
def StoreError.detail : StoreError → String
  | .columnKind index column kind =>
    "Invalid column type " ++ kind.name ++ " at index: " ++ toString index ++
      ", name: " ++ column
  | .unexpectedValue index column value =>
    "Conversion error from type Text at index: " ++ toString index ++
      ", unexpected " ++ column ++ " value " ++ inQuotes value
  | .integerOverflow => "integer overflow"
  | .missingValue column => "NOT NULL constraint failed: " ++ column
  | .equalKeys columns => "UNIQUE constraint failed: " ++ columns
  | .notARunNumber => "datatype mismatch"
  | .unknownColumn column => "no such column: " ++ column
  | .noNumberLeft => "database or disk is full"
  | .location cause => cause.message
  | .cannotOpen path => "unable to open database file: " ++ path
  | .noCompanion => "unable to open database file"
  | .unreadable => "disk I/O error"
  | .notADatabase => "file is not a database"
  | .readOnly => "attempt to write a readonly database"
  | .runNotRunning id => "import run " ++ toString id ++ " is not running"
  | .overflow cause => cause.text

/-- The message of a cause. -/
def StoreError.message : StoreError → String
  | .runNotRunning id => (StoreError.runNotRunning id).detail
  | .overflow cause => (StoreError.overflow cause).detail
  | other => "sqlite error: " ++ other.detail

end UsageLedger.Store
