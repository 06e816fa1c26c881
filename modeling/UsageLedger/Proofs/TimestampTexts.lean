import UsageLedger.Proofs.ByteOrder
import UsageLedger.Proofs.Checkpoints
import UsageLedger.Proofs.TimeSpellings

/-!
# The text of an instant in place of the instant

The store keeps instants as texts only: it sorts and filters by their bytes,
and a later import starts at a text that an earlier one has left.  With years
of four digits nothing but what is past the millisecond is lost by this.  The
texts have the order of the instants, they are read back, and they begin with
the date, a leap second among them.

`timestamps_stand_for_instants` adds what imports make of it: the window that
is planned from a run begins on the date on which the window of that run ended,
whatever was done to the store in between.
-/

namespace UsageLedger

open UsageLedger.Calendar
open UsageLedger.Store
open UsageLedger.Text

/-! ## Order and reading -/

namespace Calendar

theorem Instant.cutToMilli_le_cutToMilli_iff {first second : Instant} :
    first.cutToMilli ≤ second.cutToMilli ↔ ¬ second.BeforeMilli first := by
  rw [Instant.le_cutToMilli_iff ⟨_, Nat.mul_comm _ _⟩]
  simp only [Instant.BeforeMilli, Instant.milliOfSecond, Instant.cutToMilli]
  omega

/-- The texts of instants have the order of the instants, cut to milliseconds. -/
theorem Instant.bytesOf_text_le_iff
    {first second : Instant}
    (firstPlain : first.date.IsPlain)
    (secondPlain : second.date.IsPlain) :
    bytesOf first.text ≤ bytesOf second.text ↔ first.cutToMilli ≤ second.cutToMilli := by
  rw [← le_iff_bytesOf_le, ← String.not_lt, Instant.text_lt_text_iff secondPlain firstPlain,
    Instant.cutToMilli_le_cutToMilli_iff]

/-- What is written for an instant is RFC 3339 of the instant, cut to the millisecond. -/
theorem Instant.instantOfRfc3339?_text {instant : Instant} (plain : instant.date.IsPlain) :
    instantOfRfc3339? instant.text = some instant.cutToMilli := by
  have written : (instant.written plain).text = instant.text :=
    congrArg String.ofList (Instant.chars_written plain)
  rw [← written, UsageLedger.instantOfRfc3339?_text, Instant.instant_written]

end Calendar

/-! ## Windows that follow each other -/

/-- A window goes on where another one ends, on the same date. -/
structure ImportWindow.GoesOn (next window : ImportWindow) : Prop where
  mode : next.mode = .incremental
  fromTimestamp : next.fromTimestamp = some window.toTimestamp
  fromDate : next.fromDate = window.toDate

/-- A window that is planned from a run goes on where the window of that run ends. -/
theorem goesOn_incremental
    {last : Option ImportRun}
    {first : Instant}
    {window : ImportWindow}
    {run : ImportRun}
    (planned : ImportWindow.plan last first = .ok window)
    (opened : OpenedFor window (StoredRun.ofRun run))
    (second : Instant) :
    (ImportWindow.incremental run second).GoesOn window := by
  rcases plan_eq_ok_iff.1 planned with ⟨-, rfl⟩
  have bound : run.toTimestamp = first.text :=
    opened.toTimestamp.trans (windowFor_toTimestamp last first)
  refine ⟨rfl, congrArg some opened.toTimestamp, ?_⟩
  show dateOfTimestamp run.toTimestamp = _
  rw [bound, dateOfTimestamp_text]
  cases last <;> rfl

namespace Store

theorem Sound.openImport
    {store opened : Store}
    (sound : Sound store)
    {window : ImportWindow}
    {outcome : Except StoreError ImportRun}
    (opens : store.openImport window = (outcome, opened)) :
    Sound opened := by
  have performed := (sound.perform (.createRun window.mode window.fromTimestamp
    window.toTimestamp window.toTimestamp)).1
  change Sound (store.openImport window).2 at performed
  rwa [opens] at performed

/-- Whatever is done to a store after a run was opened, the row with its number has its bounds. -/
theorem Sound.openedFor_of_openImport
    {store opened : Store}
    (sound : Sound store)
    {window : ImportWindow}
    {run : ImportRun}
    (opens : store.openImport window = (.ok run, opened))
    {between : List Operation}
    {row : StoredRun}
    (member : row ∈ (opened.after between).runs)
    (sameId : row.id = run.id) :
    OpenedFor window row := by
  rcases (sound.openImport opens).after between with ⟨soundLater, continues⟩
  by_cases room : store.highestId < largestSigned
  · rw [openImport_of_room room] at opens
    cases opens
    have stored : StoredRun.ofRun (store.runFor window) ∈
        (store.withRun (store.runFor window)).runs :=
      List.mem_append_right _ (List.mem_singleton.2 rfl)
    rcases continues.kept _ stored with ⟨later, laterRow, becomes⟩
    rw [soundLater.runs.eq_of_id_eq member laterRow (sameId.trans becomes.id.symm)]
    exact (openedFor_runFor store window).continues becomes
  · rw [openImport_of_full room] at opens
    cases opens

/-- A window that is planned from an opened run goes on where the window of that run ends. -/
theorem Sound.goesOn_planImport
    {store opened : Store}
    (sound : Sound store)
    {last : Option ImportRun}
    {first : Instant}
    {window : ImportWindow}
    {run checkpoint : ImportRun}
    (planned : ImportWindow.plan last first = .ok window)
    (opens : store.openImport window = (.ok run, opened))
    {between : List Operation}
    (found : (opened.after between).lastSuccess = .ok (some checkpoint))
    (sameId : checkpoint.id = run.id)
    (second : Instant) :
    ∃ next, (opened.after between).planImport second = .ok next ∧ next.GoesOn window := by
  refine ⟨ImportWindow.incremental checkpoint second, ?_,
    goesOn_incremental planned ?_ second⟩
  · rw [planImport, found]
    rfl
  · have soundLater := ((sound.openImport opens).after between).1
    rcases soundLater.runs.lastSuccess_isCheckpoint with ⟨chosen, foundToo, isCheckpoint⟩
    rw [found] at foundToo
    cases foundToo
    exact sound.openedFor_of_openImport opens isCheckpoint.1 sameId

end Store

/-! ## Texts for instants -/

/-- What the text of an instant keeps of it, beside that of another one and for imports at both. -/
structure StandsFor (first second : Instant) : Prop where
  order : bytesOf first.text ≤ bytesOf second.text ↔ first.cutToMilli ≤ second.cutToMilli
  readsBack : instantOfRfc3339? first.text = some first.cutToMilli
  dated : dateOfTimestamp first.text = first.date.text
  /-- A window can be planned, whether there is a checkpoint or not. -/
  plans : ∀ last : Option ImportRun, ∃ window, ImportWindow.plan last first = .ok window
  /-- A window that is planned from a run goes on where the window of that run ends. -/
  goesOn : ∀ (last : Option ImportRun) (window : ImportWindow) (run : ImportRun),
    ImportWindow.plan last first = .ok window →
      OpenedFor window (StoredRun.ofRun run) →
        ∃ next, ImportWindow.plan (some run) second = .ok next ∧ next.GoesOn window
  /-- So does the next import, if the checkpoint is then a run that was opened for that window. -/
  imports : ∀ (operations between : List Operation) (last : Option ImportRun)
      (window : ImportWindow) (run checkpoint : ImportRun) (opened : Store),
    ImportWindow.plan last first = .ok window →
      (Store.empty.after operations).openImport window = (.ok run, opened) →
        (opened.after between).lastSuccess = .ok (some checkpoint) →
          checkpoint.id = run.id →
            ∃ next, (opened.after between).planImport second = .ok next ∧ next.GoesOn window

/-- The texts of instants with years of four digits stand for the instants to the millisecond. -/
theorem timestamps_stand_for_instants
    {first second : Instant}
    (firstPlain : first.date.IsPlain)
    (secondPlain : second.date.IsPlain) :
    StandsFor first second where
  order := Instant.bytesOf_text_le_iff firstPlain secondPlain
  readsBack := Instant.instantOfRfc3339?_text firstPlain
  dated := dateOfTimestamp_text first
  plans last := by
    rcases firstPlain with ⟨lower, upper⟩
    exact ⟨windowFor last first,
      plan_eq_ok_iff.2 ⟨fun _ => canLookBack_of_year (by omega) (by omega), rfl⟩⟩
  goesOn _ _ run planned opened :=
    ⟨.incremental run second, rfl, goesOn_incremental planned opened second⟩
  imports operations _ _ _ _ _ _ planned opens found sameId :=
    (sound_empty.after operations).1.goesOn_planImport planned opens found sameId second

/-- The last nanosecond of the leap second at the end of 2016. -/
def leapSecondOf2016 : Instant :=
  ⟨1483228799, 1999999999, by decide, by decide⟩

/-- The moment after it. -/
def newYearOf2017 : Instant :=
  ⟨1483228800, 0, by decide, by decide⟩

theorem timestamps_stand_for_instants_leap_second :
    leapSecondOf2016.date.IsPlain ∧ newYearOf2017.date.IsPlain ∧
      StandsFor leapSecondOf2016 newYearOf2017 ∧
      leapSecondOf2016.text = "2016-12-31T23:59:60.999Z" ∧
      newYearOf2017.text = "2017-01-01T00:00:00.000Z" :=
  ⟨by decide, by decide, timestamps_stand_for_instants (by decide) (by decide),
    by decide +kernel, by decide +kernel⟩

end UsageLedger
