import Mathlib.Algebra.Order.Ring.Nat
import Mathlib.Data.List.Dedup
import Mathlib.Data.List.Induction
import UsageLedger.Proofs.Tables

/-!
# The last row with a key

When rows are written one after another, the last row with a key is the one
that stays.  `IsLast` says which row that is, and `overwritten` collects the
rows that a later one replaces.

The theorems say what `putAll` does without mentioning how it does it.  The
last row with a key is found under that key; rows with other keys stay as they
were, in their order; writing the same rows once more changes nothing.  An
amount added up over the last rows is the amount of all rows less that of the
overwritten ones.
-/

namespace UsageLedger.Table

variable {α β κ : Type}

/-- A row after which no row with the same key comes. -/
def IsLast (key : α → κ) (rows : List α) (row : α) : Prop :=
  ∃ earlier later : List α,
    rows = earlier ++ row :: later ∧ ∀ other ∈ later, key other ≠ key row

theorem isLast_cons_iff
    {key : α → κ}
    {first row : α}
    {rest : List α} :
    IsLast key (first :: rest) row ↔
      IsLast key rest row ∨
        first = row ∧ ∀ other ∈ rest, key other ≠ key row := by
  constructor
  · rintro ⟨earlier, later, parts, final⟩
    cases earlier with
    | nil =>
        cases parts
        exact Or.inr ⟨rfl, final⟩
    | cons head earlier =>
        cases parts
        exact Or.inl ⟨earlier, later, rfl, final⟩
  · rintro (⟨earlier, later, rfl, final⟩ | ⟨rfl, final⟩)
    · exact ⟨first :: earlier, later, rfl, final⟩
    · exact ⟨[], rest, rfl, final⟩

theorem IsLast.mem
    {key : α → κ}
    {rows : List α}
    {row : α}
    (last : IsLast key rows row) :
    row ∈ rows := by
  rcases last with ⟨earlier, later, rfl, -⟩
  exact List.mem_append_right _ List.mem_cons_self

theorem isLast_map_iff
    {key : α → κ}
    {stored : β → α}
    {rows : List β}
    {row : α} :
    IsLast key (rows.map stored) row ↔
      ∃ source, IsLast (fun other => key (stored other)) rows source ∧
        stored source = row := by
  induction rows with
  | nil =>
      constructor
      · intro last
        exact absurd last.mem List.not_mem_nil
      · rintro ⟨source, last, -⟩
        exact absurd last.mem List.not_mem_nil
  | cons first rest hypothesis =>
      rw [List.map_cons, isLast_cons_iff, hypothesis]
      constructor
      · rintro (⟨source, last, rfl⟩ | ⟨rfl, final⟩)
        · exact ⟨source, isLast_cons_iff.2 (Or.inl last), rfl⟩
        · exact ⟨first, isLast_cons_iff.2 (Or.inr ⟨rfl, fun other member =>
            final _ (List.mem_map_of_mem member)⟩), rfl⟩
      · rintro ⟨source, last, rfl⟩
        rcases isLast_cons_iff.1 last with later | ⟨rfl, final⟩
        · exact Or.inl ⟨source, later, rfl⟩
        · refine Or.inr ⟨rfl, ?_⟩
          intro other member
          rcases List.mem_map.1 member with ⟨origin, isLater, rfl⟩
          exact final origin isLater

variable [DecidableEq κ]

/-! ## Looking the last row up -/

theorem find?_eq_none_iff
    {key : α → κ}
    {wanted : κ}
    {table : List α} :
    find? key wanted table = none ↔ ∀ row ∈ table, key row ≠ wanted := by
  simp [find?]

/-- Looking a key up from the end on finds the last row with that key. -/
theorem find?_reverse_eq_some_iff
    {key : α → κ}
    {wanted : κ}
    {rows : List α}
    {row : α} :
    find? key wanted rows.reverse = some row ↔
      IsLast key rows row ∧ key row = wanted := by
  induction rows with
  | nil =>
      constructor
      · intro found
        cases found
      · rintro ⟨last, -⟩
        exact absurd last.mem List.not_mem_nil
  | cons first rest hypothesis =>
      rw [List.reverse_cons, find?_append, find?_singleton,
        Option.or_eq_some_iff, hypothesis, find?_eq_none_iff, isLast_cons_iff]
      constructor
      · rintro (⟨last, sameKey⟩ | ⟨absent, found⟩)
        · exact ⟨Or.inl last, sameKey⟩
        · split at found
          · rename_i sameKey
            cases found
            refine ⟨Or.inr ⟨rfl, ?_⟩, sameKey⟩
            intro other member
            rw [sameKey]
            exact absent other (List.mem_reverse.2 member)
          · cases found
      · rintro ⟨last | ⟨rfl, final⟩, rfl⟩
        · exact Or.inl ⟨last, rfl⟩
        · refine Or.inr ⟨?_, if_pos rfl⟩
          intro other member
          exact final other (List.mem_reverse.1 member)

/-- A key has one last row. -/
theorem IsLast.unique
    {key : α → κ}
    {rows : List α}
    {first second : α}
    (one : IsLast key rows first)
    (other : IsLast key rows second)
    (sameKey : key first = key second) :
    first = second := by
  have found := find?_reverse_eq_some_iff.2 ⟨one, sameKey⟩
  rw [find?_reverse_eq_some_iff.2 ⟨other, rfl⟩] at found
  exact (Option.some.inj found).symm

/-- Every key of some rows has a last row. -/
theorem exists_isLast
    (key : α → κ)
    {rows : List α}
    {row : α}
    (member : row ∈ rows) :
    ∃ last, IsLast key rows last ∧ key last = key row := by
  cases found : find? key (key row) rows.reverse with
  | none =>
      exact absurd rfl
        (find?_eq_none_iff.1 found row (List.mem_reverse.2 member))
  | some last => exact ⟨last, find?_reverse_eq_some_iff.1 found⟩

/-- Where no two rows have one key, every row is the last one with its key. -/
theorem isLast_of_nodup
    {key : α → κ}
    {rows : List α}
    (distinct : (rows.map key).Nodup)
    {row : α}
    (member : row ∈ rows) :
    IsLast key rows row := by
  rcases exists_isLast key member with ⟨last, isLast, sameKey⟩
  have same : last = row :=
    List.inj_on_of_nodup_map distinct isLast.mem member sameKey
  rw [← same]
  exact isLast

/-- After rows were written, the last one with a key is found under that key. -/
theorem IsLast.find?_putAll
    {key : α → κ}
    {rows : List α}
    {row : α}
    (last : IsLast key rows row)
    (table : List α) :
    find? key (key row) (putAll key rows table) = some row := by
  rw [Table.find?_putAll, find?_reverse_eq_some_iff.2 ⟨last, rfl⟩]
  rfl

/-! ## Rows with other keys -/

/-- Writing a row changes nothing among rows that are chosen by a condition that its key fails. -/
theorem filter_put
    {key : α → κ}
    {row : α}
    {chosen : α → Bool}
    (left : ∀ other, key other = key row → chosen other = false)
    (table : List α) :
    (put key row table).filter chosen = table.filter chosen := by
  induction table with
  | nil => simp [put, left row rfl]
  | cons old rest hypothesis =>
      by_cases same : key old = key row
      · simp [put, same, left row rfl, left old same]
      · simp only [put, if_neg same, List.filter_cons, hypothesis]

theorem nodup_putAll_nil (key : α → κ) (rows : List α) :
    ((putAll key rows []).map key).Nodup := by
  apply nodup_putAll
  exact List.nodup_nil

/-- A table that began empty consists of the last row written with each key. -/
theorem mem_putAll_nil_iff {key : α → κ} {rows : List α} {row : α} :
    row ∈ putAll key rows [] ↔ IsLast key rows row := by
  have lookup :
      find? key (key row) (putAll key rows []) = some row ↔
        IsLast key rows row ∧ key row = key row := by
    rw [Table.find?_putAll, find?_nil, Option.or_none, find?_reverse_eq_some_iff]
  rw [find?_eq_some_iff (nodup_putAll_nil key rows)] at lookup
  simpa using lookup

/-- Of two rows with one key, only the one written later counts. -/
theorem put_put_of_eq
    {key : α → κ}
    {first second : α}
    (same : key first = key second)
    (table : List α) :
    put key second (put key first table) = put key second table := by
  induction table with
  | nil => simp [put, same]
  | cons old rest hypothesis =>
      by_cases found : key old = key first
      · simp [put, found, same]
      · have foundNot : key old ≠ key second := same ▸ found
        simp only [put, if_neg found, if_neg foundNot, hypothesis]

/-- The rows after which another row with the same key comes. -/
def overwritten (key : α → κ) : List α → List α
  | [] => []
  | row :: rest =>
    if key row ∈ rest.map key then row :: overwritten key rest
    else overwritten key rest

theorem overwritten_eq_nil_iff {key : α → κ} {rows : List α} :
    overwritten key rows = [] ↔ (rows.map key).Nodup := by
  induction rows with
  | nil => simp [overwritten]
  | cons row rest hypothesis =>
      rw [List.map_cons, List.nodup_cons, ← hypothesis, overwritten]
      by_cases later : key row ∈ rest.map key
      · simp [later]
      · simp [later]

/-- What the last rows have and what the overwritten ones have is what all rows have. -/
theorem sum_last_add_sum_overwritten
    (key : α → κ)
    (amount : α → Nat)
    (rows : List α) :
    ((rows.map key).dedup.map fun wanted =>
        ((find? key wanted rows.reverse).map amount).getD 0).sum +
      ((overwritten key rows).map amount).sum = (rows.map amount).sum := by
  induction rows with
  | nil => rfl
  | cons row rest hypothesis =>
      -- The keys of the later rows are found among them, whatever stands in front.
      have sameLater :
          ((rest.map key).dedup.map fun wanted =>
              ((find? key wanted (row :: rest).reverse).map amount).getD 0) =
            (rest.map key).dedup.map fun wanted =>
              ((find? key wanted rest.reverse).map amount).getD 0 := by
        refine List.map_congr_left fun wanted member => ?_
        rcases List.mem_map.1 (List.mem_dedup.1 member) with ⟨later, isLater, rfl⟩
        rcases exists_isLast key isLater with ⟨last, isLast, sameKey⟩
        rw [List.reverse_cons, find?_append,
          find?_reverse_eq_some_iff.2 ⟨isLast, sameKey⟩]
        rfl
      by_cases later : key row ∈ rest.map key
      · rw [List.map_cons, List.dedup_cons_of_mem later, sameLater, overwritten,
          if_pos later, List.map_cons, List.sum_cons, List.map_cons, List.sum_cons]
        omega
      · have found : find? key (key row) (row :: rest).reverse = some row := by
          refine find?_reverse_eq_some_iff.2 ⟨isLast_cons_iff.2 (Or.inr ⟨rfl, ?_⟩), rfl⟩
          intro other member same
          exact later (same ▸ List.mem_map_of_mem member)
        rw [List.map_cons, List.dedup_cons_of_notMem later, List.map_cons,
          List.sum_cons, sameLater, found, overwritten, if_neg later,
          List.map_cons, List.sum_cons, Option.map_some, Option.getD_some]
        omega

end UsageLedger.Table
