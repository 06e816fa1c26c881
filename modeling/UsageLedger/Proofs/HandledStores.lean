import UsageLedger.Proofs.GroupedRequests

/-!
# Stores with overwritten columns

A store is handled when calls lead to it and columns are overwritten between
them.  Such a store need not be reachable by calls alone: a column of counts
can hold a negative integer, or a text.  What remains is what the columns
themselves see to, whoever writes them; a column of costs makes a double of
every integer (`inexactCosts_of_handled`).
-/

namespace UsageLedger.Store

/-- A store that calls and overwritten columns lead to from the store with empty tables. -/
inductive Handled : Store → Prop
  | empty : Handled Store.empty
  | perform {store : Store} (handled : Handled store) (operation : Operation) :
      Handled (store.perform operation).2
  | overwrite {store after : Store} {table column key : String} {value : Option Cell}
      {count : Nat} (handled : Handled store)
      (overwritten : store.overwrite table column key value = .ok (count, after)) :
      Handled after

/-- Costs as their column holds them, none of them an integer. -/
def InexactCosts (rows : List StoredRequest) : Prop :=
  ∀ row ∈ rows, ∀ cell, row.cost = some cell → cell.IsInexact

theorem Cell.isInexact_forReals (cell : Cell) : cell.forReals.IsInexact := by
  have preferred : ∀ given : Cell, (preferReal given).IsInexact := by
    intro given
    cases given <;> exact fun value => nofun
  cases cell with
  | integer value => exact preferred (.integer value)
  | real value => exact preferred (.real value)
  | text value => exact preferred ((numberOfText? value).getD (.text value))

theorem map_eq_ok_iff
    {α β ε : Type}
    {function : α → β}
    {outcome : Except ε α}
    {value : β} :
    outcome.map function = .ok value ↔ ∃ given, outcome = .ok given ∧ function given = value := by
  cases outcome <;> simp [Except.map]

/-! ## Overwritten rows -/

theorem StoredRequest.inexact_of_overwrite
    {row changed : StoredRequest}
    (inexact : ∀ cell, row.cost = some cell → cell.IsInexact)
    {column : String}
    {value : Option Cell}
    (overwritten : row.overwrite column value = .ok changed) :
    ∀ cell, changed.cost = some cell → cell.IsInexact := by
  rw [StoredRequest.overwrite] at overwritten
  split at overwritten
  case h_10 =>
    -- The cost itself is overwritten.
    cases overwritten
    intro cell isCost
    rcases Option.map_eq_some_iff.1 isCost with ⟨given, -, rfl⟩
    exact given.isInexact_forReals
  case h_12 => cases overwritten
  case h_7 | h_8 | h_9 =>
    rcases map_eq_ok_iff.1 overwritten with ⟨cell, -, rfl⟩
    exact inexact
  all_goals
    cases overwritten
    exact inexact

theorem mem_of_overwriteRows
    {α : Type}
    {selected : α → Bool}
    {overwrite : α → Overwriting α}
    {rows changed : List α}
    {count : Nat}
    (overwritten : overwriteRows selected overwrite rows = .ok (count, changed)) :
    ∀ row ∈ changed, row ∈ rows ∨ ∃ old ∈ rows, overwrite old = .ok row := by
  rcases map_eq_ok_iff.1 overwritten with ⟨all, performed, same⟩
  cases same
  intro row member
  rcases exists_of_mem_mapM performed row member with ⟨old, isOld, step⟩
  split at step
  · exact .inr ⟨old, isOld, step⟩
  · cases step
    exact .inl isOld

theorem eq_of_distinctRows
    {α κ : Type}
    [BEq κ]
    {key? : α → Option κ}
    {columns : String}
    {changed distinct : Nat × List α}
    (checked : distinctRows key? columns changed = .ok distinct) :
    distinct = changed := by
  unfold distinctRows at checked
  dsimp only at checked
  split at checked <;> cases checked
  rfl

/-- Overwriting a column changes costs only into what their column holds. -/
theorem inexactCosts_of_overwrite
    {store after : Store}
    (inexact : InexactCosts store.requests)
    {table column key : String}
    {value : Option Cell}
    {count : Nat}
    (overwritten : store.overwrite table column key value = .ok (count, after)) :
    InexactCosts after.requests := by
  unfold overwrite at overwritten
  split at overwritten
  · simp only [overwriteRuns, bind_eq_ok_iff] at overwritten
    rcases overwritten with ⟨_, -, _, -, _, -, built⟩
    cases built
    exact inexact
  · split at overwritten
    · simp only [overwriteMetrics, bind_eq_ok_iff] at overwritten
      rcases overwritten with ⟨_, -, _, -, _, -, built⟩
      cases built
      exact inexact
    · split at overwritten
      · simp only [overwriteRequests, bind_eq_ok_iff] at overwritten
        rcases overwritten with ⟨_, -, changed, rows, distinct, checked, built⟩
        cases eq_of_distinctRows checked
        cases built
        intro row member
        rcases mem_of_overwriteRows rows row member with kept | ⟨old, isOld, step⟩
        · exact inexact row kept
        · exact StoredRequest.inexact_of_overwrite (inexact old isOld) step
      · cases overwritten

/-! ## Handled stores -/

theorem inexactCosts_of_perform
    {store : Store}
    (inexact : InexactCosts store.requests)
    (operation : Operation) :
    InexactCosts (store.perform operation).2.requests := by
  rw [(perform_usage store operation).2]
  intro row member
  rcases Table.mem_or_mem_of_mem_putAll member with written | kept
  · rcases List.mem_map.1 written with ⟨record, -, rfl⟩
    exact (numeric_ofRecord record).cost
  · exact inexact row kept

theorem inexactCosts_of_handled
    {store : Store}
    (handled : Handled store) :
    InexactCosts store.requests := by
  induction handled with
  | empty => exact fun row member => absurd member List.not_mem_nil
  | perform _ operation hypothesis => exact inexactCosts_of_perform hypothesis operation
  | overwrite _ overwritten hypothesis => exact inexactCosts_of_overwrite hypothesis overwritten

end UsageLedger.Store
