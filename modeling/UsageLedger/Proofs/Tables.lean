import UsageLedger.Store.Table
import Mathlib.Data.List.Basic
import Mathlib.Data.List.Nodup

/-!
# Overlaying a table with rows

Writing rows into a keyed table overlays it: every key of the rows then holds
the last row with that key, every other key holds what it held before, and no
key is held twice.  `Overlay` says so without mentioning how rows are written;
`overlay_putAll` proves it of `putAll`.
-/

namespace UsageLedger.Table

variable {α κ : Type} [DecidableEq κ]

/-- One table is another one overlaid with rows, of which the last with a key counts. -/
structure Overlay (key : α → κ) (rows before after : List α) : Prop where
  find : ∀ wanted : κ,
    find? key wanted after =
      (find? key wanted rows.reverse).or (find? key wanted before)
  unique : (after.map key).Nodup

theorem find?_put
    (key : α → κ)
    (row : α)
    (wanted : κ)
    (table : List α) :
    find? key wanted (put key row table) =
      if key row = wanted then some row else find? key wanted table := by
  by_cases same : key row = wanted
  · subst same
    simp
  · rw [if_neg same, find?_put_of_ne key same]

@[simp]
theorem find?_nil (key : α → κ) (wanted : κ) :
    find? key wanted [] = none := rfl

theorem find?_append
    (key : α → κ)
    (wanted : κ)
    (first second : List α) :
    find? key wanted (first ++ second) =
      (find? key wanted first).or (find? key wanted second) := by
  simp [find?, List.find?_append]

theorem find?_singleton (key : α → κ) (wanted : κ) (row : α) :
    find? key wanted [row] = if key row = wanted then some row else none := by
  by_cases same : key row = wanted <;> simp [find?, same]

/-- Rows of which those with one key are one row. -/
def Agree (key : α → κ) (rows : List α) : Prop :=
  ∀ first ∈ rows, ∀ second ∈ rows, key first = key second → first = second

/-- Among rows that agree, the row with a key is found wherever it stands. -/
theorem Agree.find?_eq_some_iff
    {key : α → κ}
    {rows : List α}
    (agree : Agree key rows)
    {wanted : κ}
    {row : α} :
    find? key wanted rows = some row ↔ row ∈ rows ∧ key row = wanted := by
  unfold find?
  constructor
  · intro found
    have sameKey := List.find?_some found
    rw [decide_eq_true_eq] at sameKey
    exact ⟨List.mem_of_find?_eq_some found, sameKey⟩
  · rintro ⟨member, rfl⟩
    cases found : rows.find? fun other => key other = key row with
    | none =>
        have absent := List.find?_eq_none.1 found row member
        simp at absent
    | some other =>
        have sameKey := List.find?_some found
        rw [decide_eq_true_eq] at sameKey
        rw [agree other (List.mem_of_find?_eq_some found) row member sameKey]

/-- Where no key is held twice, the row with a key is the one row that has it. -/
theorem find?_eq_some_iff
    {key : α → κ}
    {table : List α}
    (unique : (table.map key).Nodup)
    {wanted : κ}
    {row : α} :
    find? key wanted table = some row ↔ row ∈ table ∧ key row = wanted := by
  have agree : Agree key table := fun first firstRow second secondRow sameKey =>
    List.inj_on_of_nodup_map unique firstRow secondRow sameKey
  exact agree.find?_eq_some_iff

/-- A key is looked up in the rows from the last one on, then in the table before. -/
theorem find?_putAll
    (key : α → κ)
    (rows : List α)
    (wanted : κ)
    (table : List α) :
    find? key wanted (putAll key rows table) =
      (find? key wanted rows.reverse).or (find? key wanted table) := by
  induction rows generalizing table with
  | nil => simp
  | cons row rest hypothesis =>
      rw [putAll_cons, hypothesis, find?_put, List.reverse_cons,
        find?_append, find?_singleton]
      by_cases same : key row = wanted
      · simp [same]
      · simp [same]

/-- Writing a row keeps the keys and their order; a new key comes last. -/
theorem map_key_put (key : α → κ) (row : α) (table : List α) :
    (put key row table).map key =
      if key row ∈ table.map key then table.map key
      else table.map key ++ [key row] := by
  induction table with
  | nil => simp [put]
  | cons old rest hypothesis =>
      by_cases same : key old = key row
      · simp [put, same]
      · have different : key row ≠ key old := Ne.symm same
        rw [put, if_neg same, List.map_cons, hypothesis]
        by_cases member : key row ∈ rest.map key
        · simp only [List.map_cons, List.mem_cons, member, or_true, if_true]
        · simp only [List.map_cons, List.mem_cons, member, different, or_self,
            if_false, List.cons_append]

theorem nodup_put
    {key : α → κ}
    {table : List α}
    (unique : (table.map key).Nodup)
    (row : α) :
    ((put key row table).map key).Nodup := by
  rw [map_key_put]
  split
  · exact unique
  · rename_i fresh
    exact unique.append (List.nodup_singleton _) (by simpa using fresh)

theorem nodup_putAll
    {key : α → κ}
    {table : List α}
    (unique : (table.map key).Nodup)
    (rows : List α) :
    ((putAll key rows table).map key).Nodup := by
  induction rows generalizing table with
  | nil => exact unique
  | cons row rest hypothesis =>
      rw [putAll_cons]
      exact hypothesis (nodup_put unique row)

theorem mem_or_mem_of_mem_put
    {key : α → κ}
    {written row : α}
    {table : List α}
    (member : row ∈ put key written table) :
    row = written ∨ row ∈ table := by
  induction table with
  | nil => exact .inl (List.mem_singleton.1 member)
  | cons old rest hypothesis =>
      rw [put] at member
      split at member
      · exact (List.mem_cons.1 member).imp_right (List.mem_cons_of_mem _)
      · rcases List.mem_cons.1 member with rfl | later
        · exact .inr List.mem_cons_self
        · exact (hypothesis later).imp_right (List.mem_cons_of_mem _)

/-- A row after others were written is one of them or was there before. -/
theorem mem_or_mem_of_mem_putAll
    {key : α → κ}
    {rows table : List α}
    {row : α}
    (member : row ∈ putAll key rows table) :
    row ∈ rows ∨ row ∈ table := by
  induction rows generalizing table with
  | nil => exact .inr member
  | cons first rest hypothesis =>
      rw [putAll_cons] at member
      rcases hypothesis member with inRest | inTable
      · exact .inl (List.mem_cons_of_mem _ inRest)
      · rcases mem_or_mem_of_mem_put inTable with rfl | kept
        · exact .inl List.mem_cons_self
        · exact .inr kept

/-- Writing rows one after another overlays a table with them. -/
theorem overlay_putAll
    {key : α → κ}
    {table : List α}
    (unique : (table.map key).Nodup)
    (rows : List α) :
    Overlay key rows table (putAll key rows table) where
  find wanted := find?_putAll key rows wanted table
  unique := nodup_putAll unique rows

end UsageLedger.Table
