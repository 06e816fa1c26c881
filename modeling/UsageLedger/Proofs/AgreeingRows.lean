import UsageLedger.Proofs.Tables

/-!
# Rows that agree

Rows agree when those with one key are the same row.  Then it does not matter
in which order they are written, how often, or in which batches: a table that
is overlaid with them holds the row with a key under that key.
-/

namespace UsageLedger.Table

variable {α κ : Type} [DecidableEq κ] {key : α → κ}

/-- Among rows that agree, looking a key up depends on which rows there are only. -/
theorem Agree.find?_congr
    {rows others : List α}
    (agree : Agree key rows)
    (same : ∀ row, row ∈ others ↔ row ∈ rows)
    (wanted : κ) :
    find? key wanted others = find? key wanted rows := by
  have agreeToo : Agree key others := by
    intro first firstMember second secondMember
    exact agree first ((same first).1 firstMember) second ((same second).1 secondMember)
  ext row
  rw [agreeToo.find?_eq_some_iff, agree.find?_eq_some_iff, same]

/-- A table that was overlaid with rows that agree is overlaid with them in any order. -/
theorem Overlay.of_agree
    {rows others before after : List α}
    (overlay : Overlay key others before after)
    (agree : Agree key rows)
    (same : ∀ row, row ∈ others ↔ row ∈ rows) :
    Overlay key rows before after where
  find wanted := by
    have sameLookup :
        find? key wanted others.reverse = find? key wanted rows.reverse := by
      rw [agree.find?_congr fun row => List.mem_reverse.trans (same row),
        agree.find?_congr fun row => List.mem_reverse]
    rw [overlay.find wanted, sameLookup]
  unique := overlay.unique

/-- Rows laid over a table determine the result up to the order of its rows. -/
theorem Overlay.perm
    {rows before first second : List α}
    (overlay : Overlay key rows before first)
    (overlayToo : Overlay key rows before second) :
    first.Perm second := by
  refine (List.perm_ext_iff_of_nodup (overlay.unique.of_map key)
    (overlayToo.unique.of_map key)).2 ?_
  intro row
  have sameLookup : find? key (key row) first = find? key (key row) second :=
    (overlay.find _).trans (overlayToo.find _).symm
  have found : find? key (key row) first = some row ↔ row ∈ first ∧ key row = key row :=
    find?_eq_some_iff overlay.unique
  rw [sameLookup, find?_eq_some_iff overlayToo.unique] at found
  simpa using found.symm

end UsageLedger.Table
