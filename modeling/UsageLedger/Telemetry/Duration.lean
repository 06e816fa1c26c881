import UsageLedger.Decimal.Binary
import UsageLedger.Decimal.Literal
import UsageLedger.Text.Blank
import UsageLedger.Width

/-!
# Lengths of time

A duration is a whole number of nanoseconds whose seconds fit 64 bits.
Scaling stops at the longest duration.  `Duration.ofSeconds?` takes a number
of seconds to the nearest nanosecond, a half to the even one;
`retryAfter?` reads such a number from a text.
-/

namespace UsageLedger.Telemetry

open UsageLedger.Decimal
open UsageLedger.Text

def nanosPerSecond : Nat := 1000000000

/-- The first number of nanoseconds that is too large. -/
def durationLimit : Nat := modulus64 * nanosPerSecond

/-- A length of time. -/
@[ext]
structure Duration where
  nanos : Nat
  nanos_lt : nanos < durationLimit
  deriving DecidableEq, Repr

def Duration.longest : Duration :=
  ⟨durationLimit - 1, by decide⟩

/-- The duration of some nanoseconds, or the longest one if they are too many. -/
def Duration.ofNanos (nanos : Nat) : Duration :=
  if fits : nanos < durationLimit then ⟨nanos, fits⟩ else Duration.longest

/-- The duration of some nanoseconds, if they are not too many. -/
def Duration.ofNanos? (nanos : Nat) : Option Duration :=
  if fits : nanos < durationLimit then some ⟨nanos, fits⟩ else none

/-- The duration of some milliseconds. -/
def Duration.ofMillis (millis : Nat) : Duration :=
  Duration.ofNanos (millis * 1000000)

/-- A multiple of a duration, or the longest one if that is too long. -/
def Duration.scale (duration : Duration) (factor : Nat) : Duration :=
  Duration.ofNanos (duration.nanos * factor)

/-- The whole seconds. -/
def Duration.seconds (duration : Duration) : Nat :=
  duration.nanos / nanosPerSecond

/-- The nanoseconds above the whole seconds. -/
def Duration.subsecond (duration : Duration) : Nat :=
  duration.nanos % nanosPerSecond

/-- The duration of a number of seconds that is not negative, not infinite and not too large. -/
def Duration.ofSeconds? (seconds : Float) : Option Duration := do
  let exact ← Binary.ofFloat? seconds
  if exact.negative && exact.significand != 0 then none
  else Duration.ofNanos? (exact.scaled nanosPerSecond)

/-- The duration that a text gives as a number of seconds. -/
def retryAfter? (text : String) : Option Duration :=
  (realOfText? (trim text)).bind Duration.ofSeconds?

theorem Duration.ofNanos_nanos
    {nanos : Nat}
    (fits : nanos < durationLimit) :
    (Duration.ofNanos nanos).nanos = nanos := by
  simp [Duration.ofNanos, fits]

theorem Duration.ofNanos_of_le
    {nanos : Nat}
    (tooMany : durationLimit ≤ nanos) :
    Duration.ofNanos nanos = Duration.longest := by
  simp [Duration.ofNanos, Nat.not_lt.mpr tooMany]

end UsageLedger.Telemetry
