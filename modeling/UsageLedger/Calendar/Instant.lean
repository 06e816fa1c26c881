import UsageLedger.Calendar.Date

/-!
# Instants of universal time

An instant is a whole number of seconds from 1970-01-01 and nanoseconds above
it.  A leap second is kept as the last second of its minute with a further
1 000 000 000 nanoseconds, so it comes after that second and before the next
minute.  `millisecondsBetween` is the distance of two instants cut to whole
milliseconds, in which a leap second strictly between them counts.
-/

namespace UsageLedger.Calendar

def nanosPerSecond : Nat := 1000000000

def secondsPerDay : Nat := 86400

/-- A time of day; second 60 is a leap second. -/
structure ClockTime where
  hour : Nat
  minute : Nat
  second : Nat
  nano : Nat
  hour_lt : hour < 24
  minute_lt : minute < 60
  second_le : second ≤ 60
  nano_lt : nano < nanosPerSecond
  deriving DecidableEq

/-- The time of day with these parts, if there is one. -/
def ClockTime.ofParts? (hour minute second nano : Nat) : Option ClockTime :=
  if exists_ : (hour < 24 ∧ minute < 60) ∧ second ≤ 60 ∧ nano < nanosPerSecond then
    some ⟨hour, minute, second, nano,
      exists_.1.1, exists_.1.2, exists_.2.1, exists_.2.2⟩
  else none

/-- A point of universal time. -/
@[ext]
structure Instant where
  second : Int
  nano : Nat
  nano_lt : nano < 2 * nanosPerSecond
  leap_last : nanosPerSecond ≤ nano → second % 60 = 59
  deriving DecidableEq

/-- The instant a clock shows that is ahead of universal time by some minutes. -/
def Instant.ofClock
    (date : Date)
    (clock : ClockTime)
    (minutesAhead : Int) :
    Instant where
  second :=
    date.dayNumber * secondsPerDay + clock.hour * 3600 + clock.minute * 60 +
      (min clock.second 59 : Nat) - minutesAhead * 60
  nano := clock.nano + (if clock.second = 60 then nanosPerSecond else 0)
  nano_lt := by
    have bound := clock.nano_lt
    split <;> omega
  leap_last := by
    intro leap
    have bound := clock.nano_lt
    split at leap
    · unfold secondsPerDay
      omega
    · omega

/-- The instant some nanoseconds after the start of 1970. -/
def Instant.ofNanos (nanos : Int) : Instant where
  second := nanos / nanosPerSecond
  nano := (nanos % nanosPerSecond).toNat
  nano_lt := by
    unfold nanosPerSecond
    omega
  leap_last := by
    intro leap
    unfold nanosPerSecond at leap
    omega

/-- The date of an instant in universal time. -/
def Instant.date (instant : Instant) : Date :=
  Date.ofDayNumber (instant.second / secondsPerDay)

/-- The seconds of an instant since midnight. -/
def Instant.secondOfDay (instant : Instant) : Nat :=
  (instant.second % secondsPerDay).toNat

/-- Order in time. -/
def Instant.isLE (first second : Instant) : Bool :=
  first.second < second.second ||
    (first.second == second.second && first.nano ≤ second.nano)

instance : LE Instant := ⟨fun first second => first.isLE second = true⟩

instance (first second : Instant) : Decidable (first ≤ second) :=
  inferInstanceAs (Decidable (_ = true))

/-- The whole milliseconds above the second, a leap second counting as one thousand more. -/
def Instant.milliOfSecond (instant : Instant) : Nat :=
  instant.nano / 1000000

/-- The instant itself, or for one in a leap second the one a second later. -/
def Instant.afterLeap (instant : Instant) : Instant where
  second :=
    if nanosPerSecond ≤ instant.nano then instant.second + 1 else instant.second
  nano := instant.nano % nanosPerSecond
  nano_lt := by
    unfold nanosPerSecond
    omega
  leap_last := by
    intro leap
    unfold nanosPerSecond at leap
    omega

/-- The instant a number of days earlier; a leap second counts as the start of the next minute. -/
def Instant.minusDays (instant : Instant) (days : Nat) : Instant where
  second := instant.afterLeap.second - days * secondsPerDay
  nano := instant.afterLeap.nano
  nano_lt := instant.afterLeap.nano_lt
  leap_last := by
    intro leap
    have last := instant.afterLeap.leap_last leap
    unfold secondsPerDay
    omega

/-- The nanoseconds from one instant to another, negative when it is earlier. -/
def nanosBetween (start stop : Instant) : Int :=
  let seconds := stop.second - start.second
  let counted :=
    if start.secondOfDay < stop.secondOfDay ∧ nanosPerSecond ≤ start.nano then
      seconds + 1
    else if stop.secondOfDay < start.secondOfDay ∧ nanosPerSecond ≤ stop.nano then
      seconds - 1
    else seconds
  counted * nanosPerSecond + ((stop.nano : Int) - start.nano)

/-- The milliseconds from one instant to another, cut toward zero. -/
def millisecondsBetween (start stop : Instant) : Int :=
  (nanosBetween start stop).tdiv 1000000

end UsageLedger.Calendar
