import UsageLedger.Proofs.CountedTimes
import UsageLedger.Width

/-!
# Latencies

The latency between two texts is a matter of the instants that they spell.
`latencies_follow_instants` says which number it is, that the spelling of
neither text counts, and that every latency fits into 64 bits.

What two texts say is counted apart from the reading, by `InstantSpelling`;
`tellsInstant_iff` joins the two, and the rest is about instants.  A second 60
has no count of its own, so which number the latency of such a text is stays
open; that it fits and changes sign with the order is said of it as well.
-/

namespace UsageLedger.Calendar

/-! ## What the texts tell -/

/-- What is given is a text in RFC 3339. -/
def IsTime (given : Option String) : Prop :=
  ∃ text second elapsed, given = some text ∧ InstantSpelling text.toList second elapsed

/--
What is given is a text in RFC 3339 of the instant some nanoseconds after the
start of the year 0000, with a second below 60.
-/
def TellsInstant (given : Option String) (elapsed : Int) : Prop :=
  ∃ text second, given = some text ∧ second < 60 ∧ InstantSpelling text.toList second elapsed

theorem isTime_iff {given : Option String} :
    IsTime given ↔ ∃ written : WrittenTime, given = some written.text := by
  constructor
  · rintro ⟨text, second, elapsed, rfl, spelled⟩
    rcases instantSpelling_toList_iff.1 spelled with ⟨written, rfl, -⟩
    exact ⟨written, rfl⟩
  · rintro ⟨written, rfl⟩
    exact ⟨_, _, _, rfl, instantSpelling_toList_iff.2 ⟨written, rfl, rfl, rfl⟩⟩

theorem tellsInstant_iff {given : Option String} {elapsed : Int} :
    TellsInstant given elapsed ↔
      ∃ written : WrittenTime, given = some written.text ∧ written.clock.second < 60 ∧
        written.elapsed = elapsed := by
  constructor
  · rintro ⟨text, second, rfl, below, spelled⟩
    rcases instantSpelling_toList_iff.1 spelled with ⟨written, rfl, rfl, rfl⟩
    exact ⟨written, rfl, below, rfl⟩
  · rintro ⟨written, rfl, below, rfl⟩
    exact ⟨_, _, rfl, below, instantSpelling_toList_iff.2 ⟨written, rfl, rfl, rfl⟩⟩

theorem tellsInstant_of_read
    {text : String}
    {instant : Instant}
    (read : instantOfRfc3339? text = some instant)
    (below : instant.nano < nanosPerSecond) :
    TellsInstant (some text) instant.elapsed := by
  rcases exists_written_of_isSome (Option.isSome_of_eq_some read) with ⟨written, rfl⟩
  rw [instantOfRfc3339?_text] at read
  cases read
  have second := written.clock.second_le
  have noLeap : written.clock.second < 60 := by
    refine Nat.lt_of_le_of_ne second fun leap => ?_
    simp only [WrittenTime.instant, Instant.ofClock, if_pos leap] at below
    omega
  exact tellsInstant_iff.2 ⟨written, rfl, noLeap, (WrittenTime.elapsed_eq noLeap).symm⟩

/-! ## Distances of instants -/

/-- The second that a leap second at the earlier time of day adds, negative on the way back. -/
def leapBetween (start stop : Instant) : Int :=
  if start.secondOfDay < stop.secondOfDay ∧ nanosPerSecond ≤ start.nano then 1
  else if stop.secondOfDay < start.secondOfDay ∧ nanosPerSecond ≤ stop.nano then -1
  else 0

theorem nanosBetween_eq (start stop : Instant) :
    nanosBetween start stop =
      (stop.second - start.second + leapBetween start stop) * nanosPerSecond +
        (stop.nano - start.nano) := by
  simp only [nanosBetween, leapBetween]
  split
  · rfl
  · split
    · rfl
    · rw [Int.add_zero]

theorem leapBetween_swap (start stop : Instant) :
    leapBetween stop start = -leapBetween start stop := by
  simp only [leapBetween]
  split <;> split <;> omega

theorem leapBetween_bounds (start stop : Instant) :
    -1 ≤ leapBetween start stop ∧ leapBetween start stop ≤ 1 := by
  simp only [leapBetween]
  split
  · decide
  · split <;> decide

theorem leapBetween_of_lt
    {start stop : Instant}
    (startBelow : start.nano < nanosPerSecond)
    (stopBelow : stop.nano < nanosPerSecond) :
    leapBetween start stop = 0 := by
  rw [leapBetween, if_neg fun leap => not_le.2 startBelow leap.2,
    if_neg fun leap => not_le.2 stopBelow leap.2]

theorem nanosBetween_swap (start stop : Instant) :
    nanosBetween stop start = -nanosBetween start stop := by
  rw [nanosBetween_eq, nanosBetween_eq, leapBetween_swap]
  unfold nanosPerSecond
  omega

theorem millisecondsBetween_swap (start stop : Instant) :
    millisecondsBetween stop start = -millisecondsBetween start stop := by
  rw [millisecondsBetween, nanosBetween_swap, Int.neg_tdiv, millisecondsBetween]

theorem nanosBetween_eq_elapsed
    {start stop : Instant}
    (startBelow : start.nano < nanosPerSecond)
    (stopBelow : stop.nano < nanosPerSecond) :
    nanosBetween start stop = stop.elapsed - start.elapsed := by
  rw [nanosBetween_eq, leapBetween_of_lt startBelow stopBelow, Instant.elapsed, Instant.elapsed]
  unfold nanosPerSecond
  omega

/-- No two instants have the same count, those in leap seconds apart. -/
theorem Instant.eq_of_elapsed_eq
    {first second : Instant}
    (firstBelow : first.nano < nanosPerSecond)
    (secondBelow : second.nano < nanosPerSecond)
    (same : first.elapsed = second.elapsed) :
    first = second := by
  simp only [Instant.elapsed, nanosPerSecond, secondsPerDay] at *
  exact Instant.ext (by omega) (by omega)

theorem WrittenTime.nano_lt
    {written : WrittenTime}
    (below : written.clock.second < 60) :
    written.instant.nano < nanosPerSecond := by
  have noLeap : written.clock.second ≠ 60 := by omega
  have nano := written.clock.nano_lt
  simp only [WrittenTime.instant, Instant.ofClock, if_neg noLeap]
  exact nano

/-- A plain date is less than ten thousand years away from 1970. -/
theorem Date.IsPlain.dayNumber_bounds {date : Date} (plain : date.IsPlain) :
    -719528 ≤ date.dayNumber ∧ date.dayNumber < 2932897 := by
  have first : daysBeforeYear 0 = -366 := by decide
  have last : daysBeforeYear 10000 = 3652059 := by decide
  have lower := daysBeforeYear_mono plain.1
  have upper := daysBeforeYear_mono (show date.year + 1 ≤ 10000 from Int.add_le_add_right plain.2 1)
  have inYear := date.dayOfYear_lt_year
  have year := daysBeforeYear_succ date.year
  simp only [Date.dayNumber, epochDay]
  omega

theorem OffsetSpelling.bounds
    {offset : List Char}
    {minutesAhead : Int}
    (spelled : OffsetSpelling offset minutesAhead) :
    -1440 < minutesAhead ∧ minutesAhead < 1440 := by
  cases spelled with
  | universal isLetter => decide
  | ahead hours_lt minutes_lt => omega
  | behind isMinus hours_lt minutes_lt => omega

theorem WrittenTime.second_bounds (written : WrittenTime) :
    -1000000000000 < written.instant.second ∧ written.instant.second < 1000000000000 := by
  have days := written.plain.dayNumber_bounds
  have offset := (offsetSpelling_iff.2 written.offset_reads).bounds
  have hour := written.clock.hour_lt
  have minute := written.clock.minute_lt
  simp only [WrittenTime.instant, Instant.ofClock, secondsPerDay]
  omega

theorem WrittenTime.milliseconds_fit (started stopped : WrittenTime) :
    leastSigned ≤ millisecondsBetween started.instant stopped.instant ∧
      millisecondsBetween started.instant stopped.instant ≤ largestSigned := by
  have startSecond := started.second_bounds
  have stopSecond := stopped.second_bounds
  have startNano := started.instant.nano_lt
  have stopNano := stopped.instant.nano_lt
  have nanos : (nanosBetween started.instant stopped.instant).natAbs < 3000000000000000000000 := by
    have leap := leapBetween_bounds started.instant stopped.instant
    rw [nanosBetween_eq]
    unfold nanosPerSecond at *
    omega
  have cut : (millisecondsBetween started.instant stopped.instant).natAbs =
      (nanosBetween started.instant stopped.instant).natAbs / 1000000 :=
    Int.natAbs_tdiv _ _
  simp only [leastSigned, largestSigned]
  omega

/-! ## Latencies -/

theorem latency?_eq (start stop : Option String) :
    latency? start stop =
      (start.bind instantOfRfc3339?).bind fun started =>
        (stop.bind instantOfRfc3339?).map (millisecondsBetween started) := by
  simp only [latency?, bind, Option.bind_assoc, Option.map_eq_bind, Function.comp_def]

theorem latency?_text (started stopped : WrittenTime) :
    latency? (some started.text) (some stopped.text) =
      some (millisecondsBetween started.instant stopped.instant) := by
  simp only [latency?, bind, Option.bind, instantOfRfc3339?_text]

/-- There is a latency where both texts are times. -/
theorem latency?_isSome_iff {start stop : Option String} :
    (latency? start stop).isSome ↔ IsTime start ∧ IsTime stop := by
  rw [isTime_iff, isTime_iff]
  constructor
  · intro told
    rcases Option.isSome_iff_exists.1 told with ⟨latency, found⟩
    simp only [latency?, bind, Option.bind_eq_some_iff] at found
    rcases found with ⟨startText, rfl, started, startRead, stopText, rfl, stopped, stopRead, -⟩
    rcases exists_written_of_isSome (Option.isSome_of_eq_some startRead) with ⟨first, rfl⟩
    rcases exists_written_of_isSome (Option.isSome_of_eq_some stopRead) with ⟨last, rfl⟩
    exact ⟨⟨first, rfl⟩, last, rfl⟩
  · rintro ⟨⟨started, rfl⟩, stopped, rfl⟩
    rw [latency?_text]
    rfl

theorem latency?_swap (start stop : Option String) :
    latency? stop start = (latency? start stop).map fun latency => -latency := by
  rw [latency?_eq, latency?_eq]
  cases start.bind instantOfRfc3339? with
  | none => cases stop.bind instantOfRfc3339? <;> rfl
  | some started =>
      cases stop.bind instantOfRfc3339? with
      | none => rfl
      | some stopped => exact congrArg some (millisecondsBetween_swap started stopped)

/-- Texts of one instant are the same to a latency. -/
theorem latency?_congr
    {first second : Option String}
    {elapsed : Int}
    (one : TellsInstant first elapsed)
    (other : TellsInstant second elapsed)
    (stop : Option String) :
    latency? first stop = latency? second stop := by
  rcases tellsInstant_iff.1 one with ⟨written, rfl, below, same⟩
  rcases tellsInstant_iff.1 other with ⟨respelled, rfl, respelledBelow, rfl⟩
  have instants : written.instant = respelled.instant := by
    refine Instant.eq_of_elapsed_eq (WrittenTime.nano_lt below)
      (WrittenTime.nano_lt respelledBelow) ?_
    rw [WrittenTime.elapsed_eq below, WrittenTime.elapsed_eq respelledBelow, same]
  simp only [latency?, bind, Option.bind, instantOfRfc3339?_text, instants]

/-- A latency is a matter of the instants of its texts. -/
structure FollowsInstants (start stop : Option String) : Prop where
  /-- The milliseconds from one instant to the other, cut toward zero. -/
  told : ∀ {started stopped : Int}, TellsInstant start started → TellsInstant stop stopped →
    latency? start stop = some ((stopped - started).tdiv 1000000)
  /-- Another spelling of the start has the same latencies. -/
  startRespelled : ∀ {other : Option String} {started : Int},
    TellsInstant start started → TellsInstant other started →
    latency? other stop = latency? start stop
  /-- Another spelling of the end has the same latencies. -/
  stopRespelled : ∀ {other : Option String} {stopped : Int},
    TellsInstant stop stopped → TellsInstant other stopped →
    latency? start other = latency? start stop
  /-- The way back is the negative. -/
  swapped : latency? stop start = (latency? start stop).map fun latency => -latency
  /-- Every latency is an integer of 64 bits. -/
  fits : ∀ latency ∈ latency? start stop, leastSigned ≤ latency ∧ latency ≤ largestSigned
  /-- There is none where a text is missing or not in RFC 3339, and only there. -/
  missing_iff : latency? start stop = none ↔ ¬ (IsTime start ∧ IsTime stop)

theorem latencies_follow_instants (start stop : Option String) :
    FollowsInstants start stop where
  told := by
    intro started stopped tellsStart tellsStop
    rcases tellsInstant_iff.1 tellsStart with ⟨first, rfl, firstBelow, rfl⟩
    rcases tellsInstant_iff.1 tellsStop with ⟨last, rfl, lastBelow, rfl⟩
    rw [latency?_text, millisecondsBetween,
      nanosBetween_eq_elapsed (WrittenTime.nano_lt firstBelow) (WrittenTime.nano_lt lastBelow),
      WrittenTime.elapsed_eq firstBelow, WrittenTime.elapsed_eq lastBelow]
  startRespelled := fun tells tellsOther => latency?_congr tellsOther tells stop
  stopRespelled := by
    intro other stopped tells tellsOther
    rw [latency?_swap other start, latency?_swap stop start,
      latency?_congr tellsOther tells start]
  swapped := latency?_swap start stop
  fits := by
    intro latency found
    have times := latency?_isSome_iff.1 (Option.isSome_of_mem found)
    rw [isTime_iff, isTime_iff] at times
    rcases times with ⟨⟨started, rfl⟩, stopped, rfl⟩
    rw [latency?_text, Option.mem_some_iff] at found
    rw [← found]
    exact started.milliseconds_fit stopped
  missing_iff := by
    rw [← latency?_isSome_iff, Option.not_isSome_iff_eq_none]

/--
Across a leap day and the end of its month: less than a tenth of the third
millisecond is cut.
-/
theorem latencies_follow_instants_leap_day :
    ∃ started stopped : Int,
      TellsInstant (some "2024-03-01T00:30:00.0019999999+01:00") started ∧
      TellsInstant (some "2024-02-29t23:29:59.9999Z") stopped ∧
      latency? (some "2024-03-01T00:30:00.0019999999+01:00") (some "2024-02-29t23:29:59.9999Z") =
        some ((stopped - started).tdiv 1000000) ∧
      stopped - started = -2099999 ∧ (stopped - started).tdiv 1000000 = -2 := by
  have start : TellsInstant (some "2024-03-01T00:30:00.0019999999+01:00") 63876468600001999999 :=
    tellsInstant_of_read
      (show _ = some ⟨1709249400, 1999999, by decide, by decide⟩ by decide +kernel) (by decide)
  have stop : TellsInstant (some "2024-02-29t23:29:59.9999Z") 63876468599999900000 :=
    tellsInstant_of_read
      (show _ = some ⟨1709249399, 999900000, by decide, by decide⟩ by decide +kernel) (by decide)
  exact ⟨_, _, start, stop, (latencies_follow_instants _ _).told start stop, by decide, by decide⟩

end UsageLedger.Calendar
