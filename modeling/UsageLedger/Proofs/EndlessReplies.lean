import Mathlib.Data.ENat.Lattice
import UsageLedger.Proofs.RetriedCalls

/-!
# Calls against endless replies

A `Supply` has a reply for every request there may ever be, and keeps what a
call does in order: the requests it makes and the pauses it spends.

A reply settles a call if the call ends with it whatever retries are left.  The
first reply that does may be missing; `firstSettling` is then infinite.
`calls_settle_unless_attempts_overflow` says how often a call makes its request
under a policy, which reply it gives back and how it pauses in between, for all
replies.  One policy is left out of that: with the most retries there are, the
attempts do not fit 32 bits, and a call breaks off before its first request
(`most_retries_break_off`).
-/

namespace UsageLedger.Telemetry

open UsageLedger.Store

/-- What a call does. -/
inductive CallEvent where
  | request
  | pause (duration : Duration)
  deriving DecidableEq

/-- How many requests were made. -/
def requestCount (events : List CallEvent) : Nat :=
  events.count .request

def CallEvent.pause? : CallEvent → Option Duration
  | .request => none
  | .pause duration => some duration

/-- The pauses that were spent, in order. -/
def pausesOf (events : List CallEvent) : List Duration :=
  events.filterMap CallEvent.pause?

/-- A reply to each request, by the number of requests before it, and what was done so far. -/
structure Supply (ε ρ : Type) where
  reply : Nat → Except ε ρ
  events : List CallEvent

/-- Requests with a pause between any two of them. -/
def requestsBetween (pauses : List Duration) : List CallEvent :=
  (pauses.flatMap fun duration => [.request, .pause duration]) ++ [.request]

theorem requestsBetween_cons (duration : Duration) (pauses : List Duration) :
    requestsBetween (duration :: pauses) =
      [.request, .pause duration] ++ requestsBetween pauses := by
  rw [requestsBetween, List.flatMap_cons, List.append_assoc, requestsBetween]

theorem requestCount_requestsBetween (pauses : List Duration) :
    requestCount (requestsBetween pauses) = pauses.length + 1 := by
  induction pauses with
  | nil => rfl
  | cons duration rest hypothesis =>
      rw [requestsBetween_cons, requestCount, List.count_append]
      exact (congrArg (1 + ·) hypothesis).trans (Nat.add_comm 1 _)

theorem pausesOf_requestsBetween (pauses : List Duration) :
    pausesOf (requestsBetween pauses) = pauses := by
  induction pauses with
  | nil => rfl
  | cons duration rest hypothesis =>
      rw [requestsBetween_cons, pausesOf, List.filterMap_append]
      exact congrArg (duration :: ·) hypothesis

section Supplies

variable {ε ρ : Type}

def Supply.start (reply : Nat → Except ε ρ) : Supply ε ρ :=
  ⟨reply, []⟩

def Supply.send : StateM (Supply ε ρ) (Except ε ρ) :=
  modifyGet fun supply =>
    (supply.reply (requestCount supply.events),
      { supply with events := supply.events ++ [.request] })

def Supply.pause (duration : Duration) : StateM (Supply ε ρ) Unit :=
  modify fun supply => { supply with events := supply.events ++ [.pause duration] }

/-- Whether a call ends with a reply whatever retries are left: it is a failure or accepted. -/
def Settles (rateLimit : ρ → RateLimit) : Except ε ρ → Prop
  | .error _ => True
  | .ok answer => ¬ TurnsAway rateLimit answer

/-- The number of the first reply that settles a call, infinite if there is none. -/
noncomputable def firstSettling (rateLimit : ρ → RateLimit) (reply : Nat → Except ε ρ) : ℕ∞ :=
  ⨅ index ∈ {index | Settles rateLimit (reply index)}, (index : ℕ∞)

/-- The pause that a reply itself asks for. -/
def ownPause? (rateLimit : ρ → RateLimit) : Except ε ρ → Option Duration
  | .error _ => none
  | .ok answer =>
    match rateLimit answer with
    | .accepted => none
    | .tooMany retryAfter => retryAfter

/-- The pause after a reply, which is as long as the reply asks or else grows with the retries. -/
def RetryPolicy.pauseAfterReply (policy : RetryPolicy) (rateLimit : ρ → RateLimit)
    (reply : Nat → Except ε ρ) (index : Nat) : Duration :=
  (ownPause? rateLimit (reply index)).getD (policy.delay index)

variable
    {rateLimit : ρ → RateLimit}
    {reply : Nat → Except ε ρ}

/-! ## The first reply that settles -/

theorem le_firstSettling
    {index : Nat}
    (unsettled : ∀ earlier < index, ¬ Settles rateLimit (reply earlier)) :
    (index : ℕ∞) ≤ firstSettling rateLimit reply := by
  refine le_iInf₂ fun other settles => ?_
  rw [Nat.cast_le]
  exact Nat.le_of_not_lt fun earlier => unsettled other earlier settles

theorem firstSettling_eq
    {index : Nat}
    (unsettled : ∀ earlier < index, ¬ Settles rateLimit (reply earlier))
    (settles : Settles rateLimit (reply index)) :
    firstSettling rateLimit reply = index :=
  le_antisymm (iInf₂_le index settles) (le_firstSettling unsettled)

/-- Replies that do not settle a call before its retries run out decide where it ends. -/
theorem min_firstSettling_eq
    {index retries : Nat}
    (unsettled : ∀ earlier < index, ¬ Settles rateLimit (reply earlier))
    (within : index ≤ retries)
    (ends : index = retries ∨ Settles rateLimit (reply index)) :
    min (firstSettling rateLimit reply) retries = index := by
  rcases ends with rfl | settles
  · exact min_eq_right (le_firstSettling unsettled)
  · rw [firstSettling_eq unsettled settles]
    exact min_eq_left (Nat.cast_le.2 within)

/-! ## One call -/

theorem Supply.run_send (supply : Supply ε ρ) :
    Supply.send.run supply =
      (supply.reply (requestCount supply.events),
        { supply with events := supply.events ++ [.request] }) := rfl

theorem Supply.run_pause (duration : Duration) (supply : Supply ε ρ) :
    (Supply.pause duration).run supply =
      ((), { supply with events := supply.events ++ [.pause duration] }) := rfl

/-- A reply that settles a call ends it. -/
theorem run_retrying_of_settles
    {supply : Supply ε ρ}
    (settles : Settles rateLimit (supply.reply (requestCount supply.events)))
    (policy : RetryPolicy)
    (retries attempt : Nat) :
    (retrying policy rateLimit Supply.pause Supply.send retries attempt).run supply =
      (supply.reply (requestCount supply.events),
        { supply with events := supply.events ++ [.request] }) := by
  cases retries with
  | zero => exact Supply.run_send supply
  | succ retries =>
      simp only [retrying, run_bind_state, Supply.run_send]
      cases given : supply.reply (requestCount supply.events) with
      | error cause => rfl
      | ok answer =>
          rw [given] at settles
          have accepted : rateLimit answer = .accepted := not_not.1 settles
          simp only [accepted]
          rfl

/-- One that does not settle it takes a retry, after a pause. -/
theorem run_retrying_of_unsettled
    {supply : Supply ε ρ}
    (unsettled : ¬ Settles rateLimit (supply.reply (requestCount supply.events)))
    (policy : RetryPolicy)
    (retries : Nat) :
    (retrying policy rateLimit Supply.pause Supply.send (retries + 1)
        (requestCount supply.events)).run supply =
      (retrying policy rateLimit Supply.pause Supply.send retries
        (requestCount supply.events + 1)).run
          { supply with
            events := supply.events ++
              [.request, .pause (policy.pauseAfterReply rateLimit supply.reply
                (requestCount supply.events))] } := by
  simp only [retrying, run_bind_state, Supply.run_send, RetryPolicy.pauseAfterReply]
  cases given : supply.reply (requestCount supply.events) with
  | error cause =>
      rw [given] at unsettled
      exact absurd trivial unsettled
  | ok answer =>
      cases limit : rateLimit answer with
      | accepted =>
          rw [given] at unsettled
          exact absurd (not_not.2 limit) unsettled
      | tooMany retryAfter =>
          simp only [ownPause?, limit, run_bind_state, Supply.run_pause, List.append_assoc,
            List.cons_append, List.nil_append]

/--
A call whose attempts are counted with its requests goes on until a reply
settles it or no retry is left.
-/
theorem exists_run_retrying
    (policy : RetryPolicy)
    (rateLimit : ρ → RateLimit)
    (retries : Nat)
    (supply : Supply ε ρ) :
    ∃ spent, spent ≤ retries ∧
      (∀ earlier < spent, ¬ Settles rateLimit
        (supply.reply (requestCount supply.events + earlier))) ∧
      (spent = retries ∨
        Settles rateLimit (supply.reply (requestCount supply.events + spent))) ∧
      (retrying policy rateLimit Supply.pause Supply.send retries
          (requestCount supply.events)).run supply =
        (supply.reply (requestCount supply.events + spent),
          { supply with
            events := supply.events ++ requestsBetween
              ((List.range' (requestCount supply.events) spent).map
                (policy.pauseAfterReply rateLimit supply.reply)) }) := by
  -- By induction on the retries: the invariant is that attempts and requests have one number.
  induction retries generalizing supply with
  | zero => exact ⟨0, Nat.le_refl _, by simp, Or.inl rfl, Supply.run_send supply⟩
  | succ retries hypothesis =>
      by_cases settles : Settles rateLimit (supply.reply (requestCount supply.events))
      · exact ⟨0, Nat.zero_le _, by simp, Or.inr settles,
          run_retrying_of_settles settles policy _ _⟩
      · obtain ⟨next, next_eq⟩ : ∃ next : Supply ε ρ, next =
            { supply with
              events := supply.events ++
                [.request, .pause (policy.pauseAfterReply rateLimit supply.reply
                  (requestCount supply.events))] } := ⟨_, rfl⟩
        have sameReply : next.reply = supply.reply := by rw [next_eq]
        have counted : requestCount next.events = requestCount supply.events + 1 := by
          rw [next_eq, requestCount, List.count_append]
          rfl
        rcases hypothesis next with ⟨spent, within, unsettled, ends, performed⟩
        rw [counted, sameReply] at unsettled ends performed
        have shift : ∀ later, requestCount supply.events + 1 + later =
            requestCount supply.events + (later + 1) := by
          intro later
          omega
        refine ⟨spent + 1, Nat.succ_le_succ within, ?_, ?_, ?_⟩
        · intro earlier before
          cases earlier with
          | zero => exact settles
          | succ earlier =>
              rw [← shift]
              exact unsettled earlier (Nat.lt_of_succ_lt_succ before)
        · rw [← shift]
          exact ends.imp_left (congrArg Nat.succ)
        · rw [run_retrying_of_unsettled settles, ← next_eq, performed, List.range'_succ,
            List.map_cons, requestsBetween_cons, shift, next_eq]
          simp only [List.append_assoc]

end Supplies

/-! ## Calls under a policy -/

/-- What a call does under a policy, and what it gives back. -/
structure EndsWithSettling {ε ρ : Type} (policy : RetryPolicy) (rateLimit : ρ → RateLimit)
    (reply : Nat → Except ε ρ) (given : Except ε ρ) (events : List CallEvent) : Prop where
  /-- One request for each reply up to the first that settles the call, as far as retries go. -/
  requests : (requestCount events : ℕ∞) =
    min (firstSettling rateLimit reply) policy.maxRetries + 1
  bounded : requestCount events ≤ policy.maxRetries + 1
  given : given = reply (requestCount events - 1)
  /-- Each pause is as long as its reply asks, or doubled for each earlier one of either kind. -/
  pauses : pausesOf events =
    (List.range (requestCount events - 1)).map fun index =>
      (ownPause? rateLimit (reply index)).getD (policy.delay index)
  /-- The pauses are spent one by one between the requests. -/
  inTurn : events = requestsBetween (pausesOf events)

/-- What comes of a call under a policy: a reply, unless its attempts cannot be reckoned. -/
structure SettlesOrBreaksOff {ε ρ : Type} (policy : RetryPolicy) (rateLimit : ρ → RateLimit)
    (reply : Nat → Except ε ρ) (outcome : Except Overflow (Except ε ρ))
    (events : List CallEvent) : Prop where
  settled : policy.maxRetries < largest32 →
    ∃ given, outcome = .ok given ∧ EndsWithSettling policy rateLimit reply given events
  /-- With the most retries there are, nothing is asked and no pause is spent. -/
  brokenOff : policy.maxRetries = largest32 → outcome = .error .attempts ∧ events = []

/-- A call under a policy against the replies of a supply. -/
def RetryPolicy.call {ε ρ : Type} (policy : RetryPolicy) (rateLimit : ρ → RateLimit)
    (reply : Nat → Except ε ρ) : Except Overflow (Except ε ρ) × Supply ε ρ :=
  Checked.perform (policy.run rateLimit (fun duration => ExceptT.lift (Supply.pause duration))
    (ExceptT.lift Supply.send)) (.start reply)

theorem endsWithSettling_requestsBetween
    {ε ρ : Type}
    {policy : RetryPolicy}
    {rateLimit : ρ → RateLimit}
    {reply : Nat → Except ε ρ}
    {spent : Nat}
    (within : spent ≤ policy.maxRetries)
    (unsettled : ∀ earlier < spent, ¬ Settles rateLimit (reply earlier))
    (ends : spent = policy.maxRetries ∨ Settles rateLimit (reply spent)) :
    EndsWithSettling policy rateLimit reply (reply spent)
      (requestsBetween ((List.range spent).map (policy.pauseAfterReply rateLimit reply))) := by
  obtain ⟨pauses, pauses_eq⟩ : ∃ pauses, pauses =
      (List.range spent).map (policy.pauseAfterReply rateLimit reply) := ⟨_, rfl⟩
  have length : pauses.length = spent := by
    rw [pauses_eq, List.length_map, List.length_range]
  rw [← pauses_eq]
  refine ⟨?_, ?_, ?_, ?_, ?_⟩
  · rw [requestCount_requestsBetween, length, Nat.cast_add, Nat.cast_one]
    exact congrArg (· + 1) (min_firstSettling_eq unsettled within ends).symm
  · rw [requestCount_requestsBetween, length]
    exact Nat.succ_le_succ within
  · simp only [requestCount_requestsBetween, length, Nat.add_sub_cancel]
  · simp only [requestCount_requestsBetween, length, Nat.add_sub_cancel,
      pausesOf_requestsBetween]
    exact pauses_eq
  · simp only [pausesOf_requestsBetween]

/--
Whatever the replies are, a call makes its request until a reply settles it or
its retries are spent, and gives back the last reply as it is; with the most
retries there are, it breaks off instead.
-/
theorem calls_settle_unless_attempts_overflow
    {ε ρ : Type}
    (policy : RetryPolicy)
    (rateLimit : ρ → RateLimit)
    (reply : Nat → Except ε ρ) :
    SettlesOrBreaksOff policy rateLimit reply (policy.call rateLimit reply).1
      (policy.call rateLimit reply).2.events where
  settled fewer := by
    rcases exists_run_retrying policy rateLimit policy.maxRetries (.start reply) with
      ⟨spent, within, unsettled, ends, performed⟩
    have none : requestCount (Supply.start reply).events = 0 := rfl
    simp only [none, Nat.zero_add] at unsettled ends performed
    rw [← List.range_eq_range'] at performed
    rw [RetryPolicy.call, RetryPolicy.perform_run_of_lt rateLimit _ _ fewer performed]
    exact ⟨reply spent, rfl, endsWithSettling_requestsBetween within unsettled ends⟩
  brokenOff most := by
    rw [RetryPolicy.call, RetryPolicy.perform_run_of_le rateLimit _ _ most.ge]
    exact ⟨rfl, rfl⟩

/-- A request that would be accepted at once is not made at all. -/
theorem most_retries_break_off :
    @RetryPolicy.call Empty _ .mostPatient id (fun _ => .ok .accepted) =
        (.error .attempts, .start fun _ => .ok .accepted) ∧
      ¬ ∃ given,
        (@RetryPolicy.call Empty _ .mostPatient id fun _ => .ok .accepted).1 = .ok given := by
  have broken : @RetryPolicy.call Empty _ .mostPatient id (fun _ => .ok .accepted) =
      (.error .attempts, .start fun _ => .ok .accepted) :=
    RetryPolicy.perform_run_of_le id _ _ (Nat.le_refl _) _
  refine ⟨broken, ?_⟩
  rintro ⟨given, answered⟩
  rw [broken] at answered
  cases answered

end UsageLedger.Telemetry
