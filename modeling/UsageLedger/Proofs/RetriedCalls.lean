import UsageLedger.Proofs.ImportSteps
import UsageLedger.Telemetry.Retry

/-!
# Calls that are made again

A `Line` hands out replies in turn, one for each request, and fails once they
have run out.  The replies to one call make up a `Round`: answers that turn it
away because there were too many, and the reply it ends with.

`Round.Fits` says where a round ends under a number of retries: at the first
reply that does not turn the request away, or when no retry is left.  Whatever
a line hands out begins with such a round (`exists_fitting_round`), and a call
takes exactly the replies of that round, repeats its request for each of them
and gives back the last (`run_retrying_of_fits`).

A call breaks off if its attempts do not fit 32 bits.  `Checked` has actions
that may do so: with fewer retries than the most there are a call is what it
would be without that check, and with the most it does nothing at all.
-/

namespace UsageLedger.Telemetry

open UsageLedger.Store

/--
Replies that come in turn, one for each request, with the requests that were
made and the pauses that were spent.
-/
structure Line (ι ε ρ : Type) where
  replies : List (Except ε ρ)
  /-- Why a request fails once there is no reply left. -/
  ended : ε
  requests : List ι
  pauses : List Duration

/-- The replies to one call: those that turn it away, and the one it ends with. -/
structure Round (ε ρ : Type) where
  busy : List ρ
  last : Except ε ρ

/-- Whether an answer turns its request away because there were too many. -/
def TurnsAway {ρ : Type} (rateLimit : ρ → RateLimit) (answer : ρ) : Prop :=
  rateLimit answer ≠ .accepted

/-- The pause before a request is made again. -/
def RetryPolicy.pauseAfter (policy : RetryPolicy) (limit : RateLimit) (attempt : Nat) :
    Duration :=
  match limit with
  | .accepted => policy.delay attempt
  | .tooMany retryAfter => retryAfter.getD (policy.delay attempt)

section Lines

variable {ι ε ρ : Type}

def Line.start (replies : List (Except ε ρ)) (ended : ε) : Line ι ε ρ :=
  ⟨replies, ended, [], []⟩

/-- What a line hands out, up to the first failure after its replies. -/
def Line.coming (line : Line ι ε ρ) : List (Except ε ρ) :=
  line.replies ++ [.error line.ended]

/-- A line after it gave some replies to one request, with some pauses between them. -/
def Line.after (line : Line ι ε ρ) (request : ι) (count : Nat)
    (pauses : List Duration) : Line ι ε ρ :=
  { line with
    replies := line.replies.drop count
    requests := line.requests ++ List.replicate count request
    pauses := line.pauses ++ pauses }

def Line.send (request : ι) : StateM (Line ι ε ρ) (Except ε ρ) :=
  modifyGet fun line =>
    (line.replies.headD (.error line.ended), line.after request 1 [])

def Line.pause (duration : Duration) : StateM (Line ι ε ρ) Unit :=
  modify fun line => { line with pauses := line.pauses ++ [duration] }

def Round.replies (round : Round ε ρ) : List (Except ε ρ) :=
  round.busy.map .ok ++ [round.last]

/-- The pauses of a round whose first one follows an attempt. -/
def Round.pauses (policy : RetryPolicy) (rateLimit : ρ → RateLimit) (attempt : Nat)
    (round : Round ε ρ) : List Duration :=
  (round.busy.zipIdx attempt).map fun entry =>
    policy.pauseAfter (rateLimit entry.1) entry.2

/--
A round that goes on while the request is turned away and retries are left,
and no longer.
-/
structure Round.Fits (rateLimit : ρ → RateLimit) (retries : Nat)
    (round : Round ε ρ) : Prop where
  turnedAway : ∀ answer ∈ round.busy, TurnsAway rateLimit answer
  withinBudget : round.busy.length ≤ retries
  spent : ∀ answer, round.last = .ok answer → TurnsAway rateLimit answer →
    round.busy.length = retries

/-! ## What a line hands out -/

theorem Line.run_send (request : ι) (line : Line ι ε ρ) :
    (Line.send request).run line =
      (line.replies.headD (.error line.ended), line.after request 1 []) := rfl

theorem Line.run_pause_after
    (line : Line ι ε ρ)
    (request : ι)
    (count : Nat)
    (pauses : List Duration)
    (duration : Duration) :
    (Line.pause duration).run (line.after request count pauses) =
      ((), line.after request count (pauses ++ [duration])) := by
  simp only [Line.after, ← List.append_assoc]
  rfl

theorem Line.after_after
    (line : Line ι ε ρ)
    (request : ι)
    (count others : Nat)
    (pauses more : List Duration) :
    (line.after request count pauses).after request others more =
      line.after request (count + others) (pauses ++ more) := by
  simp only [Line.after, List.drop_drop, List.append_assoc, List.replicate_add]

theorem Line.coming_after
    {line : Line ι ε ρ}
    {count : Nat}
    (enough : count ≤ line.replies.length)
    (request : ι)
    (pauses : List Duration) :
    (line.after request count pauses).coming = line.coming.drop count :=
  (List.drop_append_of_le_length enough).symm

theorem Line.headD_of_comes
    {line : Line ι ε ρ}
    {reply : Except ε ρ}
    {others : List (Except ε ρ)}
    (comes : reply :: others <+: line.coming) :
    line.replies.headD (.error line.ended) = reply := by
  rw [Line.coming] at comes
  cases given : line.replies with
  | nil =>
      rw [given] at comes
      exact (List.cons_prefix_cons.1 comes).1.symm
  | cons head tail =>
      rw [given] at comes
      exact (List.cons_prefix_cons.1 comes).1.symm

theorem length_le_of_answered
    {earlier replies : List (Except ε ρ)}
    {answer : ρ}
    {ended : ε}
    (comes : earlier ++ [.ok answer] <+: replies ++ [.error ended]) :
    earlier.length + 1 ≤ replies.length := by
  have bound := comes.length_le
  simp only [List.length_append, List.length_cons, List.length_nil] at bound
  rcases Nat.lt_or_eq_of_le bound with within | exact
  · exact Nat.le_of_lt_succ within
  · have whole := comes.eq_of_length (by simp [exact])
    have last := congrArg List.getLast? whole
    simp at last

theorem Round.length_replies (round : Round ε ρ) :
    round.replies.length = round.busy.length + 1 := by
  simp [Round.replies]

theorem Round.length_replies_le
    {round : Round ε ρ}
    {replies : List (Except ε ρ)}
    {answer : ρ}
    {ended : ε}
    (comes : round.replies <+: replies ++ [.error ended])
    (answered : round.last = .ok answer) :
    round.replies.length ≤ replies.length := by
  rw [Round.replies, answered] at comes
  rw [Round.length_replies]
  simpa using length_le_of_answered comes

/-! ## Rounds under a number of retries -/

variable {rateLimit : ρ → RateLimit}

theorem exists_fitting_round
    (rateLimit : ρ → RateLimit)
    (retries : Nat)
    (replies : List (Except ε ρ))
    (ended : ε) :
    ∃ round : Round ε ρ,
      round.Fits rateLimit retries ∧ round.replies <+: replies ++ [.error ended] := by
  induction replies generalizing retries with
  | nil => exact ⟨⟨[], .error ended⟩, ⟨by simp, by simp, by simp⟩, List.prefix_rfl⟩
  | cons reply rest hypothesis =>
      have alone : (⟨[], reply⟩ : Round ε ρ).replies <+: reply :: rest ++ [.error ended] :=
        List.prefix_append [reply] _
      cases reply with
      | error cause => exact ⟨⟨[], .error cause⟩, ⟨by simp, by simp, by simp⟩, alone⟩
      | ok answer =>
          by_cases away : TurnsAway rateLimit answer
          · cases retries with
            | zero => exact ⟨⟨[], .ok answer⟩, ⟨by simp, by simp, by simp⟩, alone⟩
            | succ retries =>
                rcases hypothesis retries with ⟨round, fits, comes⟩
                refine ⟨⟨answer :: round.busy, round.last⟩, ⟨?_, ?_, ?_⟩, ?_⟩
                · exact List.forall_mem_cons.2 ⟨away, fits.turnedAway⟩
                · exact Nat.succ_le_succ fits.withinBudget
                · intro other ends turned
                  exact congrArg Nat.succ (fits.spent other ends turned)
                · exact List.cons_prefix_cons.2 ⟨rfl, comes⟩
          · refine ⟨⟨[], .ok answer⟩, ⟨by simp, by simp, ?_⟩, alone⟩
            rintro other ⟨⟩ turned
            exact absurd turned away

theorem Round.Fits.of_cons
    {answer : ρ}
    {busy : List ρ}
    {last : Except ε ρ}
    {retries : Nat}
    (fits : (⟨answer :: busy, last⟩ : Round ε ρ).Fits rateLimit (retries + 1)) :
    (⟨busy, last⟩ : Round ε ρ).Fits rateLimit retries where
  turnedAway := (List.forall_mem_cons.1 fits.turnedAway).2
  withinBudget := Nat.le_of_succ_le_succ fits.withinBudget
  spent other ends turned := Nat.succ.inj (fits.spent other ends turned)

/-- A round that is not turned away, or with no retry left, ends the call with its reply. -/
theorem run_retrying_of_last
    {last : Except ε ρ}
    {retries : Nat}
    {line : Line ι ε ρ}
    (fits : (⟨[], last⟩ : Round ε ρ).Fits rateLimit retries)
    (comes : [last] <+: line.coming)
    (policy : RetryPolicy)
    (request : ι)
    (attempt : Nat) :
    (retrying policy rateLimit Line.pause (Line.send request) retries attempt).run line =
      (last, line.after request 1 []) := by
  have sent := Line.run_send request line
  rw [Line.headD_of_comes comes] at sent
  cases retries with
  | zero => exact sent
  | succ retries =>
      cases last with
      | error cause =>
          simp only [retrying, run_bind_state, sent]
          rfl
      | ok answer =>
          cases limit : rateLimit answer with
          | accepted =>
              simp only [retrying, run_bind_state, sent, limit]
              rfl
          | tooMany retryAfter =>
              have away : TurnsAway rateLimit answer := by simp [TurnsAway, limit]
              cases fits.spent answer rfl away

/--
A call takes the replies of its round in turn, makes its request once for each
of them and gives back the last.
-/
theorem run_retrying_of_fits
    {round : Round ε ρ}
    {retries : Nat}
    {line : Line ι ε ρ}
    (fits : round.Fits rateLimit retries)
    (comes : round.replies <+: line.coming)
    (policy : RetryPolicy)
    (request : ι)
    (attempt : Nat) :
    (retrying policy rateLimit Line.pause (Line.send request) retries attempt).run line =
      (round.last,
        line.after request round.replies.length
          (round.pauses policy rateLimit attempt)) := by
  rcases round with ⟨busy, last⟩
  -- By induction on the answers that turn the request away: each uses up one reply and one retry.
  induction busy generalizing retries attempt line with
  | nil => exact run_retrying_of_last fits comes policy request attempt
  | cons answer busy hypothesis =>
      cases retries with
      | zero => cases fits.withinBudget
      | succ retries =>
          have sent := Line.run_send request line
          rw [Line.headD_of_comes comes] at sent
          cases limit : rateLimit answer with
          | accepted => exact absurd limit (fits.turnedAway answer List.mem_cons_self)
          | tooMany retryAfter =>
              -- The answer is a reply of the line, and not the failure at its end.
              have present : 1 ≤ line.replies.length :=
                @length_le_of_answered _ _ [] _ answer _
                  ((List.prefix_append [_] _).trans comes)
              have rest : (⟨busy, last⟩ : Round ε ρ).replies <+:
                  (line.after request 1
                    [retryAfter.getD (policy.delay attempt)]).coming := by
                rw [Line.coming_after present]
                rcases comes with ⟨later, parts⟩
                exact ⟨later, congrArg (List.drop 1) parts⟩
              simp only [retrying, run_bind_state, sent, limit, Line.run_pause_after,
                List.nil_append]
              rw [hypothesis (attempt + 1) fits.of_cons rest, Line.after_after]
              simp [Round.pauses, Round.length_replies, RetryPolicy.pauseAfter, limit,
                Nat.add_comm]

end Lines

/-! ## Calls that may break off -/

/-- Actions on a state that may break off. -/
abbrev Checked (σ : Type) := ExceptT Overflow (StateM σ)

namespace Checked

variable {σ α β : Type}

/-- What comes of an action, and the state it leaves. -/
def perform (action : Checked σ α) (state : σ) : Except Overflow α × σ :=
  action.run.run state

theorem perform_bind_of_ok
    {action : Checked σ α}
    {state later : σ}
    {value : α}
    (performed : action.perform state = (.ok value, later))
    (next : α → Checked σ β) :
    (action >>= next).perform state = (next value).perform later := by
  have unfolded : (action >>= next).perform state =
      (ExceptT.bindCont next (action.perform state).1).run (action.perform state).2 := rfl
  rw [unfolded, performed]
  rfl

theorem perform_bind_of_error
    {action : Checked σ α}
    {state later : σ}
    {cause : Overflow}
    (broken : action.perform state = (.error cause, later))
    (next : α → Checked σ β) :
    (action >>= next).perform state = (.error cause, later) := by
  have unfolded : (action >>= next).perform state =
      (ExceptT.bindCont next (action.perform state).1).run (action.perform state).2 := rfl
  rw [unfolded, broken]
  rfl

end Checked

section BreakingOff

variable
    {σ ε ρ : Type}
    (rateLimit : ρ → RateLimit)
    (pause : Duration → StateM σ Unit)
    (request : StateM σ (Except ε ρ))

/-- Where no request and no pause breaks off, a call does not either. -/
theorem retrying_lift (policy : RetryPolicy) (retries attempt : Nat) :
    (retrying policy rateLimit (fun duration => ExceptT.lift (pause duration))
        (ExceptT.lift request) retries attempt : Checked σ _) =
      ExceptT.lift (retrying policy rateLimit pause request retries attempt) := by
  induction retries generalizing attempt with
  | zero => rfl
  | succ retries hypothesis =>
      rw [retrying, retrying, ExceptT.lift_bind]
      refine congrArg (ExceptT.lift request >>= ·) (funext fun reply => ?_)
      cases reply with
      | error cause => exact (ExceptT.lift_pure _).symm
      | ok answer =>
          cases limit : rateLimit answer with
          | accepted =>
              simp only [limit]
              exact (ExceptT.lift_pure _).symm
          | tooMany retryAfter =>
              simp only [limit, hypothesis]
              exact (ExceptT.lift_bind _ _).symm

variable {policy : RetryPolicy}

/-- With fewer retries than there are numbers the attempts can be reckoned, and a call is made. -/
theorem RetryPolicy.perform_run_of_lt
    (fewer : policy.maxRetries < largest32)
    {state later : σ}
    {given : Except ε ρ}
    (performed : (retrying policy rateLimit pause request policy.maxRetries 0).run state =
      (given, later)) :
    Checked.perform (policy.run rateLimit (fun duration => ExceptT.lift (pause duration))
      (ExceptT.lift request)) state = (.ok given, later) := by
  rw [RetryPolicy.run, RetryPolicy.attempts, if_pos fewer]
  simp only [retrying_lift]
  exact congrArg (fun both => (Except.ok both.1, both.2)) performed

/-- With the most retries there are, nothing is done. -/
theorem RetryPolicy.perform_run_of_le
    (most : largest32 ≤ policy.maxRetries)
    (state : σ) :
    Checked.perform (policy.run rateLimit (fun duration => ExceptT.lift (pause duration))
      (ExceptT.lift request)) state = (.error .attempts, state) := by
  rw [RetryPolicy.run, RetryPolicy.attempts, if_neg (Nat.not_lt.2 most)]
  rfl

end BreakingOff

/-- The most retries there are. -/
def RetryPolicy.mostPatient : RetryPolicy where
  maxRetries := largest32
  baseDelay := Duration.ofMillis defaultBaseMillis

end UsageLedger.Telemetry
