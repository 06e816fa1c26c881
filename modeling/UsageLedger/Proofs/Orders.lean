import UsageLedger.Store.Basic

/-!
# Orders that rows are sorted by

A comparison is fit for sorting when it is transitive and total.  Rows are
mostly compared by one field, with another comparison for rows whose fields
are equal; such a comparison is fit for sorting when both of its parts are.
The first row of a sorted list then comes no later than any other.  Where no
two rows come both before each other, sorting forgets the order they had.
-/

namespace UsageLedger

variable {α β : Type}

/-- A comparison that sorting may rely on. -/
structure SortsBy (le : α → α → Bool) : Prop where
  trans : ∀ first second third,
    le first second = true → le second third = true → le first third = true
  total : ∀ first second, (le first second || le second first) = true

/-- Two distinct values never come both before each other. -/
def Decides (le : α → α → Bool) : Prop :=
  ∀ first second, le first second = true → le second first = true → first = second

/-- Comparison by a field, and in another way where the fields are equal. -/
def tieBroken [DecidableEq β] (field : α → β) (le : β → β → Bool)
    (tie : α → α → Bool) (first second : α) : Bool :=
  if field first = field second then tie first second
  else le (field first) (field second)

theorem SortsBy.tieBroken [DecidableEq β]
    {field : α → β}
    {le : β → β → Bool}
    {tie : α → α → Bool}
    (fields : SortsBy le)
    (decides : Decides le)
    (ties : SortsBy tie) :
    SortsBy (tieBroken field le tie) where
  trans first second third := by
    unfold UsageLedger.tieBroken
    intro firstSecond secondThird
    by_cases same : field first = field second
    · rw [if_pos same] at firstSecond
      rw [same]
      by_cases sameNext : field second = field third
      · rw [if_pos sameNext] at secondThird ⊢
        exact ties.trans _ _ _ firstSecond secondThird
      · rw [if_neg sameNext] at secondThird ⊢
        exact secondThird
    · rw [if_neg same] at firstSecond
      by_cases sameNext : field second = field third
      · rw [← sameNext, if_neg same]
        exact firstSecond
      · rw [if_neg sameNext] at secondThird
        -- Equal ends would put the middle both before and after them.
        have apart : field first ≠ field third := by
          intro sameEnds
          rw [← sameEnds] at secondThird
          exact same (decides _ _ firstSecond secondThird)
        rw [if_neg apart]
        exact fields.trans _ _ _ firstSecond secondThird
  total first second := by
    unfold UsageLedger.tieBroken
    by_cases same : field first = field second
    · rw [if_pos same, if_pos same.symm]
      exact ties.total first second
    · rw [if_neg same, if_neg (Ne.symm same)]
      exact fields.total _ _

/-- The first of sorted rows is one of the rows and comes no later than any of them. -/
theorem SortsBy.head_mergeSort
    {le : α → α → Bool}
    (order : SortsBy le)
    {rows rest : List α}
    {first : α}
    (sorted : rows.mergeSort le = first :: rest) :
    first ∈ rows ∧ ∀ other ∈ rows, le first other = true := by
  have inOrder := List.pairwise_mergeSort order.trans order.total rows
  have member : ∀ row, row ∈ first :: rest ↔ row ∈ rows := by
    intro row
    rw [← sorted]
    exact List.mem_mergeSort
  rw [sorted, List.pairwise_cons] at inOrder
  constructor
  · exact (member first).1 List.mem_cons_self
  · intro other isRow
    rcases List.mem_cons.1 ((member other).2 isRow) with rfl | later
    · simpa using order.total other other
    · exact inOrder.1 other later

/-- Rows of which no two come both before each other are sorted in one way. -/
theorem SortsBy.mergeSort_eq_of_perm
    {le : α → α → Bool}
    (order : SortsBy le)
    {first second : List α}
    (decides : ∀ row ∈ first, ∀ other ∈ first,
      le row other = true → le other row = true → row = other)
    (perm : first.Perm second) :
    first.mergeSort le = second.mergeSort le := by
  refine List.Perm.eq_of_pairwise ?_
    (List.pairwise_mergeSort order.trans order.total first)
    (List.pairwise_mergeSort order.trans order.total second)
    ((List.mergeSort_perm first le).trans
      (perm.trans (List.mergeSort_perm second le).symm))
  intro row other member memberToo
  exact decides row (List.mem_mergeSort.1 member) other
    (perm.mem_iff.2 (List.mem_mergeSort.1 memberToo))

/-- Rows sort by a text in ascending order. -/
theorem sortsBy_text (field : α → String) :
    SortsBy fun first second => decide (field first ≤ field second) where
  trans first second third := by
    simp only [decide_eq_true_eq]
    exact String.le_trans
  total first second := by
    simp only [Bool.or_eq_true, decide_eq_true_eq]
    exact String.le_total _ _

theorem decides_text : Decides fun first second : String => decide (first ≤ second) := by
  intro first second
  simp only [decide_eq_true_eq]
  exact String.le_antisymm

/-- Sorting leaves no row out. -/
theorem mergeSort_eq_nil {le : α → α → Bool} {rows : List α} :
    rows.mergeSort le = [] ↔ rows = [] := by
  rw [← List.length_eq_zero_iff, List.length_mergeSort, List.length_eq_zero_iff]

namespace Store

/-- Optional texts sort in descending order, missing ones last. -/
theorem sortsBy_descending : SortsBy descending where
  trans first second third := by
    intro firstSecond secondThird
    cases first <;> cases second <;> cases third <;>
      simp_all only [descending, decide_eq_true_eq, Bool.false_eq_true]
    exact String.le_trans secondThird firstSecond
  total first second := by
    cases first <;> cases second <;>
      simp only [descending, Bool.or_true, Bool.true_or, Bool.or_eq_true,
        decide_eq_true_eq]
    exact String.le_total _ _

theorem decides_descending : Decides descending := by
  intro first second firstSecond secondFirst
  cases first <;> cases second <;>
    simp_all only [descending, decide_eq_true_eq, Bool.false_eq_true]
  exact congrArg some (String.le_antisymm secondFirst firstSecond)

/-- Optional texts sort in ascending order, missing ones first. -/
theorem sortsBy_ascending : SortsBy ascending where
  trans first second third := by
    intro firstSecond secondThird
    cases first <;> cases second <;> cases third <;>
      simp_all only [ascending, decide_eq_true_eq, Bool.false_eq_true]
    exact String.le_trans firstSecond secondThird
  total first second := by
    cases first <;> cases second <;>
      simp only [ascending, Bool.or_true, Bool.true_or, Bool.or_eq_true,
        decide_eq_true_eq]
    exact String.le_total _ _

theorem decides_ascending : Decides ascending := by
  intro first second firstSecond secondFirst
  cases first <;> cases second <;>
    simp_all only [ascending, decide_eq_true_eq, Bool.false_eq_true]
  exact congrArg some (String.le_antisymm firstSecond secondFirst)

end Store

end UsageLedger
