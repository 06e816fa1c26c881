import UsageLedger.Telemetry.Retry
import Mathlib.Algebra.Order.Ring.Nat

/-!
# Pauses that double

Where the service names no pause, the pause after an attempt is the base delay
times a power of two, or the longest duration if that is too long.  Two bounds
are kept on the way there: the power stops at `largestFactor`, and a product
stops at `Duration.longest`.  Stopping twice is the same as stopping once at
the end, unless the first bound is reached and the second one is not.

`pauses_double_up_to_factor` says when that is so.  Before the attempt 32 it
never is, whatever the base.  From that attempt on it always is, but for a
base of zero and for one that is too long with the largest factor already
(`Duration.OutlastsFactor`).  `millisecond_falls_short` has a base of one
millisecond.
-/

namespace UsageLedger.Telemetry

/-! ## Numbers of nanoseconds as durations -/

/-- A duration is a number of nanoseconds, or the longest duration if they are too many. -/
def Duration.IsOf (duration : Duration) (nanos : Nat) : Prop :=
  if nanos < durationLimit then duration.nanos = nanos else duration = Duration.longest

instance (duration : Duration) (nanos : Nat) : Decidable (duration.IsOf nanos) :=
  inferInstanceAs (Decidable (ite _ _ _))

theorem Duration.nanos_ofNanos (nanos : Nat) :
    (Duration.ofNanos nanos).nanos = min nanos (durationLimit - 1) := by
  by_cases fits : nanos < durationLimit
  · rw [Duration.ofNanos_nanos fits, Nat.min_eq_left (Nat.le_sub_one_of_lt fits)]
  · have tooMany : durationLimit ≤ nanos := Nat.le_of_not_lt fits
    rw [Duration.ofNanos_of_le tooMany, Nat.min_eq_right ((Nat.sub_le _ 1).trans tooMany)]
    rfl

theorem Duration.isOf_iff {duration : Duration} {nanos : Nat} :
    duration.IsOf nanos ↔ duration = Duration.ofNanos nanos := by
  unfold Duration.IsOf
  split
  · rename_i fits
    rw [Duration.ext_iff, Duration.ofNanos_nanos fits]
  · rename_i exceeds
    rw [Duration.ofNanos_of_le (Nat.le_of_not_lt exceeds)]

theorem Duration.ofNanos_eq_iff {first second : Nat} :
    Duration.ofNanos first = Duration.ofNanos second ↔
      first = second ∨ durationLimit - 1 ≤ first ∧ durationLimit - 1 ≤ second := by
  rw [Duration.ext_iff, Duration.nanos_ofNanos, Duration.nanos_ofNanos]
  omega

/-- Stopping at the longest duration before doubling is the same as stopping after it. -/
theorem Duration.ofNanos_two_mul (nanos : Nat) :
    Duration.ofNanos (2 * (Duration.ofNanos nanos).nanos) = Duration.ofNanos (2 * nanos) := by
  have longest : 1 ≤ durationLimit - 1 := by decide
  rw [Duration.ofNanos_eq_iff, Duration.nanos_ofNanos]
  omega

/-- Whole seconds and the nanoseconds above them are scaled apart, with a carry between them. -/
theorem Duration.scale_parts (duration : Duration) (factor : Nat) :
    let seconds := duration.seconds * factor + duration.subsecond * factor / nanosPerSecond
    if seconds < modulus64 then
      (duration.scale factor).seconds = seconds ∧
        (duration.scale factor).subsecond = duration.subsecond * factor % nanosPerSecond
    else duration.scale factor = Duration.longest := by
  have positive : 0 < nanosPerSecond := by decide
  have product : duration.nanos * factor =
      nanosPerSecond * (duration.seconds * factor) + duration.subsecond * factor := by
    rw [← Nat.mul_assoc, ← Nat.add_mul, Duration.seconds, Duration.subsecond, Nat.div_add_mod]
  have quotient : duration.nanos * factor / nanosPerSecond =
      duration.seconds * factor + duration.subsecond * factor / nanosPerSecond := by
    rw [product, Nat.mul_add_div positive]
  have fits_iff : duration.nanos * factor < durationLimit ↔
      duration.nanos * factor / nanosPerSecond < modulus64 := by
    rw [Nat.div_lt_iff_lt_mul positive, durationLimit]
  intro seconds
  split
  · rename_i few
    have fits := fits_iff.2 (quotient.trans_lt few)
    constructor
    · rw [Duration.seconds, Duration.scale, Duration.ofNanos_nanos fits, quotient]
    · rw [Duration.subsecond, Duration.scale, Duration.ofNanos_nanos fits, product,
        Nat.mul_add_mod]
  · rename_i many
    apply Duration.ofNanos_of_le
    rw [← Nat.not_lt, fits_iff, quotient]
    exact many

/-! ## The bound of the factor -/

theorem backoffFactor_eq (attempt : Nat) :
    backoffFactor attempt = min (2 ^ attempt) largestFactor := by
  unfold backoffFactor
  split
  · rename_i early
    have power : 2 ^ attempt ≤ 2 ^ 31 :=
      Nat.pow_le_pow_right (Nat.succ_pos 1) (Nat.le_of_lt_succ early)
    rw [Nat.min_eq_left (power.trans (by decide))]
    rfl
  · rename_i late
    have power : 2 ^ 32 ≤ 2 ^ attempt :=
      Nat.pow_le_pow_right (Nat.succ_pos 1) (Nat.le_of_not_lt late)
    rw [Nat.min_eq_right ((by decide : largestFactor ≤ 2 ^ 32).trans power)]

/-- Before the attempt 32 the factor is the power of two itself. -/
theorem backoffFactor_of_early {attempt : Nat} (early : attempt < 32) :
    backoffFactor attempt = 2 ^ attempt :=
  if_pos early

theorem backoffFactor_of_late {attempt : Nat} (late : 32 ≤ attempt) :
    backoffFactor attempt = largestFactor :=
  if_neg (Nat.not_lt.2 late)

theorem largestFactor_lt_two_pow {attempt : Nat} (late : 32 ≤ attempt) :
    largestFactor < 2 ^ attempt :=
  (by decide : largestFactor < 2 ^ 32).trans_le (Nat.pow_le_pow_right (Nat.succ_pos 1) late)

/-- From the attempt 31 on the factor is more than half of the largest one. -/
theorem largestFactor_lt_two_mul {attempt : Nat} (late : 31 ≤ attempt) :
    largestFactor < 2 * backoffFactor attempt := by
  rcases Nat.lt_or_eq_of_le late with later | rfl
  · rw [backoffFactor_of_late later]
    decide
  · decide

/-- The base is zero, or too long already when it is scaled with the largest factor. -/
def Duration.OutlastsFactor (base : Duration) : Prop :=
  base.nanos = 0 ∨ durationLimit ≤ base.nanos * largestFactor

/-- No product with the largest factor is the longest duration exactly. -/
theorem mul_largestFactor_ne_longest (nanos : Nat) :
    nanos * largestFactor ≠ durationLimit - 1 := by
  simp only [largestFactor, largest32, durationLimit, modulus64, nanosPerSecond]
  omega

/--
With the largest factor a base gives the same duration as with a larger one
exactly if the bound of the factor is none that it meets.
-/
theorem ofNanos_mul_largestFactor_eq_iff
    {base : Duration}
    {factor : Nat}
    (larger : largestFactor < factor) :
    Duration.ofNanos (base.nanos * largestFactor) = Duration.ofNanos (base.nanos * factor) ↔
      base.OutlastsFactor := by
  have inexact := mul_largestFactor_ne_longest base.nanos
  rw [Duration.ofNanos_eq_iff, Duration.OutlastsFactor]
  constructor
  · rintro (same | ⟨exceeds, -⟩)
    · rcases Nat.eq_zero_or_pos base.nanos with zero | positive
      · exact .inl zero
      · exact absurd (Nat.eq_of_mul_eq_mul_left positive same) larger.ne
    · right
      omega
  · rintro (zero | exceeds)
    · left
      rw [zero, Nat.zero_mul, Nat.zero_mul]
    · have more : base.nanos * largestFactor ≤ base.nanos * factor :=
        Nat.mul_le_mul_left base.nanos larger.le
      right
      omega

/-! ## The pauses of a policy -/

section Policies

variable (policy : RetryPolicy) (attempt : Nat)

theorem RetryPolicy.delay_eq :
    policy.delay attempt = Duration.ofNanos (policy.baseDelay.nanos * backoffFactor attempt) :=
  rfl

/-- The pause is the base delay times the power of two exactly where the factor is not too small. -/
theorem RetryPolicy.delay_isOf_iff :
    (policy.delay attempt).IsOf (policy.baseDelay.nanos * 2 ^ attempt) ↔
      attempt < 32 ∨ policy.baseDelay.OutlastsFactor := by
  rw [Duration.isOf_iff, policy.delay_eq]
  by_cases early : attempt < 32
  · rw [backoffFactor_of_early early]
    exact iff_of_true rfl (.inl early)
  · have late := Nat.le_of_not_lt early
    rw [backoffFactor_of_late late,
      ofNanos_mul_largestFactor_eq_iff (largestFactor_lt_two_pow late), or_iff_right early]

/-- A pause is twice the one before it exactly where the factor can be doubled. -/
theorem RetryPolicy.delay_succ_isOf_iff :
    (policy.delay (attempt + 1)).IsOf (2 * (policy.delay attempt).nanos) ↔
      attempt < 31 ∨ policy.baseDelay.OutlastsFactor := by
  rw [Duration.isOf_iff, policy.delay_eq, policy.delay_eq, Duration.ofNanos_two_mul,
    Nat.mul_left_comm]
  by_cases early : attempt < 31
  · rw [backoffFactor_of_early (Nat.succ_lt_succ early),
      backoffFactor_of_early (Nat.lt_succ_of_lt early), Nat.pow_succ']
    exact iff_of_true rfl (.inl early)
  · have late := Nat.le_of_not_lt early
    rw [backoffFactor_of_late (Nat.succ_le_succ late),
      ofNanos_mul_largestFactor_eq_iff (largestFactor_lt_two_mul late), or_iff_right early]

end Policies

/-- What the pauses of a policy are where the service names none. -/
structure BacksOff (policy : RetryPolicy) : Prop where
  computed : ∀ attempt, (policy.delay attempt).IsOf
    (policy.baseDelay.nanos * min (2 ^ attempt) (2 ^ 32 - 1))
  /-- The pause is the base delay times the power of two, or the longest if that is too long. -/
  exponential_iff : ∀ attempt,
    (policy.delay attempt).IsOf (policy.baseDelay.nanos * 2 ^ attempt) ↔
      attempt < 32 ∨ policy.baseDelay.OutlastsFactor
  /-- The pause is twice the one before it, or the longest if that is too long. -/
  doubles_iff : ∀ attempt,
    (policy.delay (attempt + 1)).IsOf (2 * (policy.delay attempt).nanos) ↔
      attempt < 31 ∨ policy.baseDelay.OutlastsFactor
  /-- Seconds of 64 bits and the nanoseconds above them give the same pause. -/
  carried : ∀ attempt,
    let factor := backoffFactor attempt
    let seconds := policy.baseDelay.seconds * factor +
      policy.baseDelay.subsecond * factor / nanosPerSecond
    if seconds < modulus64 then
      (policy.delay attempt).seconds = seconds ∧
        (policy.delay attempt).subsecond =
          policy.baseDelay.subsecond * factor % nanosPerSecond
    else policy.delay attempt = Duration.longest

/--
The pauses of a policy double with every attempt, exactly and up to the longest
duration, as long as the factor fits 32 bits; after that they stay as they are,
which shows for every base that is neither zero nor too long by then.
-/
theorem pauses_double_up_to_factor (policy : RetryPolicy) : BacksOff policy where
  computed attempt := by
    rw [Duration.isOf_iff, policy.delay_eq, backoffFactor_eq]
    rfl
  exponential_iff := policy.delay_isOf_iff
  doubles_iff := policy.delay_succ_isOf_iff
  carried attempt := policy.baseDelay.scale_parts (backoffFactor attempt)

/-- Forty retries, the first after a millisecond. -/
def millisecondPolicy : RetryPolicy where
  maxRetries := 40
  baseDelay := Duration.ofMillis 1

/-- With a base of one millisecond the pause after the attempt 32 is a millisecond too short. -/
theorem millisecond_falls_short :
    ¬ (millisecondPolicy.delay 32).IsOf (millisecondPolicy.baseDelay.nanos * 2 ^ 32) ∧
      ¬ (millisecondPolicy.delay 32).IsOf (2 * (millisecondPolicy.delay 31).nanos) ∧
      (millisecondPolicy.delay 32).nanos + 1000000 = 2 ^ 32 * 1000000 := by
  decide +kernel

end UsageLedger.Telemetry
