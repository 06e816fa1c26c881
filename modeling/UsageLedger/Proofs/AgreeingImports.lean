import Mathlib.Tactic.FinCases
import UsageLedger.Proofs.AgreeingRows
import UsageLedger.Proofs.TokenSums
import UsageLedger.Proofs.UndisturbedImports

/-!
# Imports at the same time leave no trace of their order

When the rows of all sources agree, it does not matter in which order the
steps of the imports follow each other: every import ends as its own source
has it, and the tables of usage become the old ones overlaid with all rows
that were fetched.
-/

namespace UsageLedger

open UsageLedger.Store
open UsageLedger.Telemetry

section Together

variable {count : Nat} (sources : Fin count → Answers) (start : Store)

/-- The metrics of all sources that give any. -/
def allMetricRows : List StoredMetric :=
  (List.finRange count).flatMap fun call => (sources call).metricRows

/-- The requests of all sources that are asked for any and give them. -/
def allRequestRows : List StoredRequest :=
  (List.finRange count).flatMap fun call => (sources call).requestRows

/-- Moves with which all imports return, each of them answered by its own source. -/
structure Completes (moves : List (Move (Fin count))) : Prop where
  answered : ∀ move ∈ moves, move.AnsweredBy (sources move.call)
  returned : ∀ call, (((Imports.fresh start).after moves).stages call).hasReturned = true

/-- What imports leave behind that all have returned. -/
structure Imports.LeftBehind (imports : Imports (Fin count)) : Prop where
  /-- Each gives back a run that is stored and ends as its own source has it. -/
  ended : ∀ call, ∃ run : ImportRun,
    (imports.stages call).result? = some (.ok run) ∧
      StoredRun.ofRun run ∈ imports.store.runs ∧
      (∀ row ∈ start.runs, row.id < run.id) ∧
      run.EndsWith (sources call).outcome
  distinct : ∀ first second run other, first ≠ second →
    (imports.stages first).result? = some (.ok run) →
    (imports.stages second).result? = some (.ok other) → run.id ≠ other.id
  /-- The runs of the start are as they were, and there are no others than those of the imports. -/
  runs : ∀ row, row ∈ imports.store.runs ↔
    row ∈ start.runs ∨ ∃ call run, (imports.stages call).result? = some (.ok run) ∧
      StoredRun.ofRun run = row
  running : ∀ row ∈ imports.store.runs, row.HasStatus .running → row ∈ start.runs
  metrics : Table.Overlay StoredMetric.key (allMetricRows sources)
    start.metrics imports.store.metrics
  requests : Table.Overlay StoredRequest.id (allRequestRows sources)
    start.requests imports.store.requests

variable {sources start}

/-- A returned import that is undisturbed has ended its run. -/
theorem Imports.Undisturbed.closed
    {imports : Imports (Fin count)}
    (undisturbed : imports.Undisturbed sources start)
    {call : Fin count}
    (returned : (imports.stages call).hasReturned = true) :
    ∃ window opened ended,
      imports.stages call = .closed window opened (.ok ended) ∧
        ended.id = opened.id ∧ StoredRun.ofRun ended ∈ imports.store.runs ∧
        ended.EndsWith (sources call).outcome := by
  have holds := undisturbed.holds call
  cases stage : imports.stages call with
  | closed window opened result =>
      rw [stage] at holds
      rcases holds with ⟨ended, rfl, sameId, member, ends⟩
      exact ⟨window, opened, ended, rfl, sameId, member, ends⟩
  | refused cause =>
      rw [stage] at holds returned
      cases holds
      cases returned
  | _ =>
      rw [stage] at returned
      cases returned

theorem mem_allMetricRows_iff {row : StoredMetric} :
    row ∈ allMetricRows sources ↔ ∃ call, row ∈ (sources call).metricRows := by
  simp [allMetricRows]

theorem mem_allRequestRows_iff {row : StoredRequest} :
    row ∈ allRequestRows sources ↔ ∃ call, row ∈ (sources call).requestRows := by
  simp [allRequestRows]

/-- A table into which all rows were written is overlaid with them, if they agree. -/
theorem Written.overlay
    {ι α κ : Type}
    [DecidableEq κ]
    {key : α → κ}
    {stored : ι → List α}
    {rows before after : List α}
    (written : Written key stored before after)
    (unique : (before.map key).Nodup)
    (agree : Table.Agree key rows)
    (all : ∀ row, row ∈ rows ↔ ∃ call, row ∈ stored call) :
    Table.Overlay key rows before after := by
  rcases written with ⟨others, rfl, mem_others⟩
  exact (Table.overlay_putAll unique others).of_agree agree fun row =>
    (mem_others row).trans (all row).symm

/-- After all returned, the runs are those of the start and those that were returned. -/
theorem Imports.Undisturbed.mem_runs_iff
    {imports : Imports (Fin count)}
    (undisturbed : imports.Undisturbed sources start)
    (returned : ∀ call, (imports.stages call).hasReturned = true)
    (row : StoredRun) :
    row ∈ imports.store.runs ↔
      row ∈ start.runs ∨ ∃ call run, (imports.stages call).result? = some (.ok run) ∧
        StoredRun.ofRun run = row := by
  constructor
  · intro member
    rcases undisturbed.owned row member with ofStart | ⟨call, number⟩
    · exact Or.inl ofStart
    · rcases undisturbed.closed (returned call) with
        ⟨window, opened, ended, stage, sameId, stored, -⟩
      rw [stage] at number
      have sameNumber : opened.id = row.id := Option.some.inj number
      refine Or.inr ⟨call, ended, by rw [stage]; rfl, ?_⟩
      exact undisturbed.sound.eq_of_id_eq stored member (sameId.trans sameNumber)
  · rintro (ofStart | ⟨call, run, result, rfl⟩)
    · exact undisturbed.kept row ofStart
    · rcases undisturbed.closed (returned call) with
        ⟨window, opened, ended, stage, -, stored, -⟩
      rw [stage] at result
      cases result
      exact stored

/-- Imports that were undisturbed until all returned leave behind what their sources gave. -/
theorem Imports.Undisturbed.leftBehind
    {imports : Imports (Fin count)}
    (undisturbed : imports.Undisturbed sources start)
    (sound : Store.Sound start)
    (metricsAgree : Table.Agree StoredMetric.key (allMetricRows sources))
    (requestsAgree : Table.Agree StoredRequest.id (allRequestRows sources))
    (returned : ∀ call, (imports.stages call).hasReturned = true) :
    imports.LeftBehind sources start := by
  have closed := fun call => undisturbed.closed (returned call)
  have runs := undisturbed.mem_runs_iff returned
  refine
    { ended := ?_
      distinct := ?_
      runs := runs
      running := ?_
      metrics := undisturbed.metrics.overlay sound.metrics metricsAgree ?_
      requests := undisturbed.requests.overlay sound.requests requestsAgree ?_ }
  · intro call
    rcases closed call with ⟨window, opened, ended, stage, sameId, stored, ends⟩
    refine ⟨ended, by rw [stage]; rfl, stored, ?_, ends⟩
    intro row member
    have above := (undisturbed.fresh call opened.id (by rw [stage]; rfl)).1
    rw [sameId]
    exact Int.lt_of_le_of_lt (sound.runs.bounded row member) above
  · intro first second run other apart result resultToo same
    rcases closed first with ⟨_, opened, _, stage, sameId, -⟩
    rcases closed second with ⟨_, openedToo, _, stageToo, sameIdToo, -⟩
    rw [stage] at result
    rw [stageToo] at resultToo
    cases result
    cases resultToo
    refine apart (undisturbed.distinct first second run.id ?_ ?_)
    · rw [stage, sameId]
      rfl
    · rw [stageToo, same, sameIdToo]
      rfl
  · intro row member running
    rcases (runs row).1 member with ofStart | ⟨call, run, result, rfl⟩
    · exact ofStart
    · rcases closed call with ⟨_, _, ended, stage, -, -, ends⟩
      rw [stage] at result
      cases result
      exact absurd ((StoredRun.hasStatus_ofRun run .running).1 running) ends.not_running
  · intro row
    rw [mem_allMetricRows_iff]
    refine exists_congr fun call => ?_
    rcases closed call with ⟨_, _, _, stage, -⟩
    rw [stage]
    rfl
  · intro row
    rw [mem_allRequestRows_iff]
    refine exists_congr fun call => ?_
    rcases closed call with ⟨_, _, _, stage, -⟩
    rw [stage]
    rfl

end Together

/--
Imports that run at the same time, with sources whose rows agree, do not
disturb each other in any reachable store that has enough numbers left.  In
whatever order their steps follow each other, each returns a run of its own,
ended as its own source has it, and the tables of usage are the old ones
overlaid with all rows that were fetched.
-/
theorem concurrent_imports_agree
    {count : Nat}
    (sources : Fin count → Answers)
    (start : Store)
    (reachable : Reachable start)
    (room : start.highestId + count ≤ largestSigned)
    (metricsAgree : Table.Agree StoredMetric.key (allMetricRows sources))
    (requestsAgree : Table.Agree StoredRequest.id (allRequestRows sources))
    (moves : List (Move (Fin count)))
    (completes : Completes sources start moves) :
    ((Imports.fresh start).after moves).LeftBehind sources start ∧
      ∀ others, Completes sources start others →
        ((Imports.fresh start).after moves).store.metrics.Perm
            ((Imports.fresh start).after others).store.metrics ∧
          ((Imports.fresh start).after moves).store.requests.Perm
            ((Imports.fresh start).after others).store.requests := by
  have sound := reachable.sound
  have leftBehind : ∀ moves, Completes sources start moves →
      ((Imports.fresh start).after moves).LeftBehind sources start := by
    intro moves completes
    have fresh := undisturbed_fresh sources sound.runs (by simpa using room)
    exact (fresh.after sound.runs.bounded moves completes.answered).leftBehind sound
      metricsAgree requestsAgree completes.returned
  have here := leftBehind moves completes
  refine ⟨here, ?_⟩
  intro others completesToo
  have there := leftBehind others completesToo
  exact ⟨here.metrics.perm there.metrics, here.requests.perm there.requests⟩

/-- Three sources, of which the second one gives no metrics and the third one no observations. -/
def threeSources : Fin 3 → Answers
  | 0 => ⟨.ok [.counting (some "gpt-4o") "1"], .ok [fullObservation "a"]⟩
  | 1 => ⟨.error (.unreachable "connection refused"), .ok [fullObservation "b"]⟩
  | 2 => ⟨.ok [.counting (some "gpt-4o") "1"],
      .error (.refused .observations 502 "bad gateway")⟩

/-- Three imports that make one step each in turn, seven times. -/
def threeTakingTurns : List (Move (Fin 3)) :=
  (List.replicate 7 [0, 1, 2]).flatten.zipIdx.map fun (call, second) =>
    { call
      reading := Calendar.Instant.ofNanos (second * 1000000000)
      metrics := (threeSources call).metrics
      observations := (threeSources call).observations }

/-- The first and the third source give the same metric. -/
theorem agree_metricRows_threeSources :
    Table.Agree StoredMetric.key (allMetricRows threeSources) := by
  have only : ∀ row ∈ allMetricRows threeSources, ∃ metric,
      (MetricRow.counting (some "gpt-4o") "1").metric? = some metric ∧
        StoredMetric.ofMetric metric = row := by
    intro row member
    rcases mem_allMetricRows_iff.1 member with ⟨call, ofCall⟩
    have ofShared : row ∈ (threeSources 0).metricRows := by
      fin_cases call
      · exact ofCall
      · cases ofCall
      · exact ofCall
    simpa [threeSources, Answers.metricRows, Telemetry.dailyMetrics,
      Transformed.of] using ofShared
  intro first firstMember second secondMember _
  rcases only first firstMember with ⟨metric, isMetric, rfl⟩
  rcases only second secondMember with ⟨other, isOther, rfl⟩
  rw [Option.some.inj (isMetric.symm.trans isOther)]

/-- The first source alone is asked for requests and gives one. -/
theorem agree_requestRows_threeSources :
    Table.Agree StoredRequest.id (allRequestRows threeSources) := by
  have only : ∀ row ∈ allRequestRows threeSources, ∃ record,
      (fullObservation "a").record? = some record ∧
        StoredRequest.ofRecord record = row := by
    intro row member
    rcases mem_allRequestRows_iff.1 member with ⟨call, ofCall⟩
    have ofFirst : row ∈ (threeSources 0).requestRows := by
      fin_cases call
      · exact ofCall
      · cases ofCall
      · cases ofCall
    simpa [threeSources, Answers.requestRows, requestRecords,
      Transformed.of] using ofFirst
  intro first firstMember second secondMember _
  rcases only first firstMember with ⟨record, isRecord, rfl⟩
  rcases only second secondMember with ⟨other, isOther, rfl⟩
  rw [Option.some.inj (isRecord.symm.trans isOther)]

theorem completes_threeTakingTurns :
    Completes threeSources Store.empty threeTakingTurns := by
  constructor
  · intro move member
    rcases List.mem_map.1 member with ⟨⟨call, second⟩, -, rfl⟩
    exact ⟨rfl, rfl⟩
  · intro call
    exact imports_return sound_empty.runs (by revert call; decide)
      (by revert call; decide +kernel)

theorem concurrent_imports_agree_three :
    Reachable Store.empty ∧
      Store.empty.highestId + (3 : Nat) ≤ largestSigned ∧
      Table.Agree StoredMetric.key (allMetricRows threeSources) ∧
      Table.Agree StoredRequest.id (allRequestRows threeSources) ∧
      Completes threeSources Store.empty threeTakingTurns ∧
      ((Imports.fresh Store.empty).after threeTakingTurns).LeftBehind
        threeSources Store.empty ∧
      (((Imports.fresh Store.empty).after threeTakingTurns).store.runs.map
        fun row => (row.id, row.mode, row.status)) =
          [(1, "full", "success"), (2, "full", "failed"), (3, "full", "failed")] := by
  have room : Store.empty.highestId + (3 : Nat) ≤ largestSigned := by decide
  exact ⟨reachable_empty, room, agree_metricRows_threeSources,
    agree_requestRows_threeSources, completes_threeTakingTurns,
    (concurrent_imports_agree threeSources Store.empty reachable_empty room
      agree_metricRows_threeSources agree_requestRows_threeSources threeTakingTurns
      completes_threeTakingTurns).1,
    by decide +kernel⟩

end UsageLedger
