/-!
# Tables with a key

A table is a list of rows in the order in which their keys first came.
`put` writes one row, in the place of the row with the same key if there is
one; `putAll` writes rows one after another, so that of several rows with one
key the last one stays.  `find?` looks a key up.
-/

namespace UsageLedger.Table

variable {α κ : Type} [DecidableEq κ]

/-- Writes a row, in the place of the row with the same key. -/
def put (key : α → κ) (row : α) : List α → List α
  | [] => [row]
  | old :: rest =>
    if key old = key row then row :: rest else old :: put key row rest

/-- Writes rows one after another. -/
def putAll (key : α → κ) (rows table : List α) : List α :=
  rows.foldl (fun written row => put key row written) table

/-- The row with a key. -/
def find? (key : α → κ) (wanted : κ) (table : List α) : Option α :=
  table.find? fun row => key row = wanted

@[simp]
theorem putAll_nil (key : α → κ) (table : List α) :
    putAll key [] table = table := rfl

@[simp]
theorem putAll_cons (key : α → κ) (row : α) (rows table : List α) :
    putAll key (row :: rows) table = putAll key rows (put key row table) := rfl

/-- Writing two batches in turn is writing them as one. -/
theorem putAll_append (key : α → κ) (first second table : List α) :
    putAll key (first ++ second) table =
      putAll key second (putAll key first table) := by
  simp [putAll, List.foldl_append]

@[simp]
theorem find?_put_self (key : α → κ) (row : α) (table : List α) :
    find? key (key row) (put key row table) = some row := by
  induction table with
  | nil => simp [find?, put]
  | cons old rest hypothesis =>
    by_cases same : key old = key row
    · simp [find?, put, same]
    · simpa [find?, put, same] using hypothesis

theorem find?_put_of_ne
    (key : α → κ)
    {row : α}
    {wanted : κ}
    (different : key row ≠ wanted)
    (table : List α) :
    find? key wanted (put key row table) = find? key wanted table := by
  induction table with
  | nil => simp [find?, put, different]
  | cons old rest hypothesis =>
    by_cases same : key old = key row
    · have oldDifferent : key old ≠ wanted := same ▸ different
      simp [find?, put, same, different]
    · by_cases found : key old = wanted
      · simp [find?, put, found, Ne.symm different]
      · simpa [find?, put, same, found] using hypothesis

end UsageLedger.Table
