import UsageLedger.Telemetry.Duration

/-!
# Asking again when the service is busy

A request that is turned away because there were too many is made again after
a pause, up to a number of times that the policy sets.  The pause is the one
the answer names, or else the base delay doubled once for each earlier retry.
The last answer stands as it is; a request that fails is not made again.  The
number of attempts, one more than that of retries, has to fit 32 bits; it is
reckoned first, and with the largest number of retries nothing is asked at all.

`retrying` is written for any monad in which requests are made and pauses are
spent, so that one definition serves a scripted service and a real one.
-/

namespace UsageLedger.Telemetry

/-- How often and how patiently requests are made again. -/
@[ext]
structure RetryPolicy where
  maxRetries : Nat
  baseDelay : Duration
  maxRetries_le : maxRetries ≤ largest32 := by decide
  deriving DecidableEq, Repr

/-- The number of retries unless a policy says otherwise. -/
def defaultMaxRetries : Nat := 3

/-- The milliseconds of the first pause unless a policy says otherwise. -/
def defaultBaseMillis : Nat := 1000

/-- Three retries, the first after a second. -/
def RetryPolicy.standard : RetryPolicy where
  maxRetries := defaultMaxRetries
  baseDelay := Duration.ofMillis defaultBaseMillis

/-- The largest factor of a delay. -/
def largestFactor : Nat := largest32

/-- The power of two of a retry, which stops at the largest factor. -/
def backoffFactor (attempt : Nat) : Nat :=
  if attempt < 32 then Nat.pow 2 attempt else largestFactor

/-- The pause after an attempt, counted from zero. -/
def RetryPolicy.delay (policy : RetryPolicy) (attempt : Nat) : Duration :=
  policy.baseDelay.scale (backoffFactor attempt)

/-- What an answer says about the number of requests. -/
inductive RateLimit where
  | accepted
  | tooMany (retryAfter : Option Duration)
  deriving DecidableEq, Repr

/-- Makes a request until it is accepted, fails or no retries are left. -/
def retrying {m : Type → Type} [Monad m] {ε ρ : Type}
    (policy : RetryPolicy)
    (rateLimit : ρ → RateLimit)
    (pause : Duration → m Unit)
    (request : m (Except ε ρ)) :
    (retriesLeft attempt : Nat) → m (Except ε ρ)
  | 0, _ => request
  | retriesLeft + 1, attempt => do
    match ← request with
    | .error failure => pure (.error failure)
    | .ok answer =>
      match rateLimit answer with
      | .accepted => pure (.ok answer)
      | .tooMany retryAfter =>
        pause (retryAfter.getD (policy.delay attempt))
        retrying policy rateLimit pause request retriesLeft (attempt + 1)

/-- How often a request is made at most. -/
def RetryPolicy.attempts (policy : RetryPolicy) : Except Overflow Nat :=
  if policy.maxRetries < largest32 then .ok (policy.maxRetries + 1) else .error .attempts

/-- Makes a request under a policy, or breaks off. -/
def RetryPolicy.run {m : Type → Type} [Monad m] [MonadExceptOf Overflow m] {ε ρ : Type}
    (policy : RetryPolicy)
    (rateLimit : ρ → RateLimit)
    (pause : Duration → m Unit)
    (request : m (Except ε ρ)) : m (Except ε ρ) :=
  match policy.attempts with
  | .ok _ => retrying policy rateLimit pause request policy.maxRetries 0
  | .error cause => throw cause

end UsageLedger.Telemetry
