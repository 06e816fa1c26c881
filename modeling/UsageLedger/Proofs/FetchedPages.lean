import Mathlib.Algebra.Order.BigOperators.Group.List
import Mathlib.Algebra.Order.Ring.Nat
import UsageLedger.Proofs.FormTexts
import UsageLedger.Proofs.JsonTexts
import UsageLedger.Proofs.RetriedCalls
import UsageLedger.Telemetry.Client

/-!
# Observations, page by page

The service is a `Line` of replies.  A `Paging` splits what it hands out into
rounds: those that end with a page that names the next one, and the round that
ends the question.  `Means` says what the last reply of a round means, and
`AsksFor` what a request asks for, by what its target decodes to.

Every line splits into a paging, each round with a retry budget of its own, and
a client that asks for all observations follows it: it takes the replies in
order and no more than those, asks each round with the cursor of the page
before it, and gives back the rows of all pages, or the error of the last round
(`observations_follow_pages_or_break_off`).  With the most retries there are it
asks for nothing (`most_retries_fetch_nothing`).
-/

namespace UsageLedger.Telemetry

open UsageLedger.Decode
open UsageLedger.Store
open UsageLedger.Text

/-- What a request is answered with in the end: a response, or why there is none. -/
abbrev Reply := Except TelemetryError HttpResponse

def lineLink (wording : Wording) :
    Link (Checked (Line HttpRequest TelemetryError HttpResponse)) where
  send request := ExceptT.lift (Line.send request)
  pause duration := ExceptT.lift (Line.pause duration)
  wording

/-- What a reply to a question for a page means: a page, or an error. -/
inductive Means (wording : Wording) : Reply → Except TelemetryError ObservationsAnswer → Prop where
  | failed {cause : TelemetryError} : Means wording (.error cause) (.error cause)
  | refused {response : HttpResponse} :
      ¬ (200 ≤ response.status ∧ response.status < 300) →
        Means wording (.ok response)
          (.error (.refused .observations response.status (textOfBytes response.body)))
  | undecodable {response : HttpResponse} {fault : Json.Fault} :
      200 ≤ response.status → response.status < 300 →
        ofBytes ObservationsAnswer.shape.decode response.body = .error fault →
          Means wording (.ok response)
            (.error (.undecodable .observations fault (wording.badBody response.body fault)))
  | page {response : HttpResponse} {answer : ObservationsAnswer} :
      200 ≤ response.status → response.status < 300 →
        ofBytes ObservationsAnswer.shape.decode response.body = .ok answer →
          Means wording (.ok response) (.ok answer)

/-- What a page is asked for with; the cursor is all that differs between pages. -/
def pageParameters (fromStart cursor : Option String) : List (String × String) :=
  [("type", "GENERATION"), ("limit", "1000"), ("fields", "core,basic,usage,model")] ++
    (fromStart.map fun start => ("fromStartTime", start)).toList ++
    (cursor.map fun mark => ("cursor", mark)).toList

/-- What stands in front of the parameters of a request: a path, and a query of its own. -/
def Address.beforeParameters (address : Address) : String :=
  match address.query with
  | none => address.path ++ "?"
  | some query => if query = "" then address.path ++ "?" else address.path ++ "?" ++ query ++ "&"

/--
A request that a client makes at an address for a list of parameters: the text
that its target ends in decodes to them, in their order.
-/
structure AsksFor (client : Client) (address : Address) (parameters : List (String × String))
    (request : HttpRequest) : Prop where
  method : request.method = "GET"
  authorization : request.authorization = client.credentials.authorization
  sameScheme : request.address.secure = address.secure
  sameServer : request.address.authority = address.authority
  target : ∃ form, request.address.target = address.beforeParameters ++ String.ofList form ∧
    decodeForm? form = some parameters

/--
Replies split into rounds: those that were followed by another one, with their
pages, and the one that came last, with what it means.
-/
structure Paging where
  followed : List (Round TelemetryError HttpResponse × ObservationsAnswer)
  final : Round TelemetryError HttpResponse
  outcome : Except TelemetryError ObservationsAnswer

namespace Paging

def rounds (paging : Paging) : List (Round TelemetryError HttpResponse) :=
  paging.followed.map Prod.fst ++ [paging.final]

def replies (paging : Paging) : List Reply :=
  paging.rounds.flatMap Round.replies

/-- What each round asks with: the first cursor, and then that of the page before. -/
def cursors (paging : Paging) (first : Option String) : List (Option String) :=
  first :: paging.followed.map fun step => step.2.nextCursor?

/-- The request of each round, once for each of its replies. -/
def requests (paging : Paging) (first : Option String)
    (request : Option String → HttpRequest) : List HttpRequest :=
  (paging.rounds.zip (paging.cursors first)).flatMap fun entry =>
    List.replicate entry.1.replies.length (request entry.2)

/-- The pauses of all rounds; each round counts its attempts from zero. -/
def pauses (paging : Paging) (policy : RetryPolicy) : List Duration :=
  paging.rounds.flatMap (Round.pauses policy HttpResponse.rateLimit 0)

/-- The rows of all pages, or the error of the last round. -/
def result (paging : Paging) : Except TelemetryError (List ObservationRow) :=
  paging.outcome.map fun page =>
    paging.followed.flatMap (fun step => step.2.data) ++ page.data

structure Splits (wording : Wording) (retries : Nat) (coming : List Reply) (paging : Paging) :
    Prop where
  inOrder : paging.replies <+: coming
  fits : ∀ round ∈ paging.rounds, round.Fits HttpResponse.rateLimit retries
  pages : ∀ step ∈ paging.followed, Means wording step.1.last (.ok step.2)
  goesOn : ∀ step ∈ paging.followed, step.2.data ≠ [] ∧ step.2.nextCursor? ≠ none
  concludes : Means wording paging.final.last paging.outcome
  stops : ∀ page, paging.outcome = .ok page →
    page.data = [] ∨ page.nextCursor? = none

def before (paging : Paging) (round : Round TelemetryError HttpResponse)
    (page : ObservationsAnswer) : Paging :=
  { paging with followed := (round, page) :: paging.followed }

end Paging

/-! ## What a request asks for -/

theorem observationsParameters_eq (fromStart cursor : Option String) :
    observationsParameters fromStart cursor = pageParameters fromStart cursor := by
  cases fromStart <;> cases cursor <;> rfl

theorem target_withParameters (address : Address) (parameters : List (String × String)) :
    (address.withParameters parameters).target =
      address.beforeParameters ++ String.ofList (encodeForm parameters) := by
  rcases address with ⟨secure, authority, path, query⟩
  cases query with
  | none => rfl
  | some query =>
      by_cases bare : query = ""
      · subst bare
        rfl
      · have filled : query.isEmpty = false := by simpa using bare
        apply String.toList_injective
        simp [Address.withParameters, Address.target, Address.beforeParameters, filled, bare]

/-- The request of a client for some parameters asks for them. -/
theorem asksFor_of_request?
    {client : Client}
    {path : String}
    {address : Address}
    {parameters : List (String × String)}
    {request : HttpRequest}
    (readable : Address.ofText? (client.credentials.host ++ path) = some address)
    (requested : client.request? path parameters = some request) :
    AsksFor client address parameters request := by
  rw [Client.request?, Client.addressText, readable] at requested
  cases requested
  exact {
    method := rfl
    authorization := rfl
    sameScheme := rfl
    sameServer := rfl
    target := ⟨_, target_withParameters address parameters, decodeForm?_encodeForm parameters⟩ }

theorem exists_request?
    {client : Client}
    {path : String}
    {address : Address}
    (readable : Address.ofText? (client.credentials.host ++ path) = some address)
    (parameters : List (String × String)) :
    ∃ request, client.request? path parameters = some request := by
  rw [Client.request?, Client.addressText, readable]
  exact ⟨_, rfl⟩

/-! ## What a reply means -/

theorem turnsAway_iff (response : HttpResponse) :
    TurnsAway HttpResponse.rateLimit response ↔ response.status = 429 := by
  unfold TurnsAway HttpResponse.rateLimit tooManyRequests
  split <;> simp_all

theorem isSuccess_iff (response : HttpResponse) :
    response.isSuccess = true ↔ 200 ≤ response.status ∧ response.status < 300 := by
  simp [HttpResponse.isSuccess]

/-- A reply means what the client reads from it. -/
theorem means_iff
    (wording : Wording) (reply : Reply) (outcome : Except TelemetryError ObservationsAnswer) :
    Means wording reply outcome ↔
      reply.bind (readAnswer wording .observations ObservationsAnswer.shape.decode) =
        outcome := by
  constructor
  · intro means
    cases means with
    | failed => rfl
    | refused unsuccessful =>
        simp only [Except.bind, readAnswer, isSuccess_iff, if_neg unsuccessful]
    | undecodable least most unread =>
        simp only [Except.bind, readAnswer, isSuccess_iff, if_pos (And.intro least most),
          unread]
    | page least most read =>
        simp only [Except.bind, readAnswer, isSuccess_iff, if_pos (And.intro least most),
          read]
  · rintro ⟨⟩
    cases reply with
    | error cause => exact .failed
    | ok response =>
        simp only [Except.bind, readAnswer, isSuccess_iff]
        split
        · next success =>
            cases read : ofBytes ObservationsAnswer.shape.decode response.body with
            | ok page => exact .page success.1 success.2 read
            | error fault => exact .undecodable success.1 success.2 read
        · next unsuccessful => exact .refused unsuccessful

theorem Means.exists_answer
    {wording : Wording}
    {reply : Reply}
    {page : ObservationsAnswer}
    (means : Means wording reply (.ok page)) :
    ∃ response, reply = .ok response := by
  cases means with
  | page => exact ⟨_, rfl⟩

/-! ## A paging and its first round -/

namespace Paging

variable {wording : Wording}

theorem replies_before
    (paging : Paging)
    (round : Round TelemetryError HttpResponse)
    (page : ObservationsAnswer) :
    (paging.before round page).replies = round.replies ++ paging.replies := rfl

theorem requests_before
    (paging : Paging)
    (round : Round TelemetryError HttpResponse)
    (page : ObservationsAnswer)
    (first : Option String)
    (request : Option String → HttpRequest) :
    (paging.before round page).requests first request =
      List.replicate round.replies.length (request first) ++
        paging.requests page.nextCursor? request := rfl

theorem pauses_before
    (paging : Paging)
    (round : Round TelemetryError HttpResponse)
    (page : ObservationsAnswer)
    (policy : RetryPolicy) :
    (paging.before round page).pauses policy =
      round.pauses policy HttpResponse.rateLimit 0 ++ paging.pauses policy := rfl

theorem result_before
    (paging : Paging)
    (round : Round TelemetryError HttpResponse)
    (page : ObservationsAnswer) :
    (paging.before round page).result =
      paging.result.map fun rest => page.data ++ rest := by
  rcases paging with ⟨followed, final, outcome⟩
  cases outcome with
  | error cause => rfl
  | ok last => simp [result, before, Except.map, List.append_assoc]

theorem Splits.of_before
    {paging : Paging}
    {round : Round TelemetryError HttpResponse}
    {page : ObservationsAnswer}
    {retries : Nat}
    {coming : List Reply}
    (splits : (paging.before round page).Splits wording retries coming) :
    paging.Splits wording retries (coming.drop round.replies.length) where
  inOrder := by
    rcases splits.inOrder with ⟨rest, parts⟩
    refine ⟨rest, ?_⟩
    rw [← parts, replies_before, List.append_assoc, List.drop_left]
  fits other member := splits.fits other (List.mem_cons_of_mem _ member)
  pages step member := splits.pages step (List.mem_cons_of_mem _ member)
  goesOn step member := splits.goesOn step (List.mem_cons_of_mem _ member)
  concludes := splits.concludes
  stops := splits.stops

/-- A round that ends with a page that names the next one, and a paging of the rest. -/
theorem Splits.before
    {paging : Paging}
    {round : Round TelemetryError HttpResponse}
    {page : ObservationsAnswer}
    {retries : Nat}
    {coming : List Reply}
    (splits : paging.Splits wording retries (coming.drop round.replies.length))
    (comes : round.replies <+: coming)
    (fits : round.Fits HttpResponse.rateLimit retries)
    (means : Means wording round.last (.ok page))
    (goesOn : page.data ≠ [] ∧ page.nextCursor? ≠ none) :
    (paging.before round page).Splits wording retries coming where
  inOrder := by
    rcases comes with ⟨rest, parts⟩
    subst parts
    rw [replies_before, List.prefix_append_right_inj]
    simpa using splits.inOrder
  fits := List.forall_mem_cons.2 ⟨fits, splits.fits⟩
  pages := List.forall_mem_cons.2 ⟨means, splits.pages⟩
  goesOn := List.forall_mem_cons.2 ⟨goesOn, splits.goesOn⟩
  concludes := splits.concludes
  stops := splits.stops

theorem length_requests
    (paging : Paging)
    (first : Option String)
    (request : Option String → HttpRequest) :
    (paging.requests first request).length = paging.replies.length := by
  rcases paging with ⟨followed, final, outcome⟩
  induction followed generalizing first with
  | nil => simp [requests, replies, rounds, cursors]
  | cons step followed hypothesis =>
      change (((⟨followed, final, outcome⟩ : Paging).before step.1 step.2).requests first
        request).length =
          ((⟨followed, final, outcome⟩ : Paging).before step.1 step.2).replies.length
      rw [requests_before, replies_before, List.length_append, List.length_append,
        List.length_replicate, hypothesis]

/-- No round takes more replies than its own budget. -/
theorem Splits.length_replies_le
    {paging : Paging}
    {retries : Nat}
    {coming : List Reply}
    (splits : paging.Splits wording retries coming) :
    paging.replies.length ≤ paging.rounds.length * (retries + 1) := by
  have each : ∀ count ∈ paging.rounds.map fun round => round.replies.length,
      count ≤ retries + 1 := by
    refine List.forall_mem_map.2 fun round member => ?_
    rw [Round.length_replies]
    exact Nat.succ_le_succ (splits.fits round member).withinBudget
  simpa [replies, List.length_flatMap] using List.sum_le_card_nsmul _ _ each

end Paging

/-- What is handed out splits into a paging. -/
theorem exists_paging
    (wording : Wording) (retries : Nat) (replies : List Reply) (ended : TelemetryError) :
    ∃ paging : Paging, paging.Splits wording retries (replies ++ [.error ended]) := by
  induction length : replies.length using Nat.strong_induction_on generalizing replies with
  | _ count hypothesis =>
      rcases exists_fitting_round HttpResponse.rateLimit retries replies ended with
        ⟨round, fits, comes⟩
      have alone (outcome : Except TelemetryError ObservationsAnswer)
          (concludes : Means wording round.last outcome)
          (stops : ∀ page, outcome = .ok page → page.data = [] ∨ page.nextCursor? = none) :
          Paging.Splits wording retries (replies ++ [.error ended]) ⟨[], round, outcome⟩ :=
        { inOrder := by simpa [Paging.replies, Paging.rounds] using comes
          fits := by simpa [Paging.rounds] using fits
          pages := by simp
          goesOn := by simp
          concludes
          stops }
      have concludes := (means_iff wording round.last _).2 rfl
      cases meaning : round.last.bind
          (readAnswer wording .observations ObservationsAnswer.shape.decode) with
      | error cause =>
          rw [meaning] at concludes
          exact ⟨_, alone _ concludes (by simp)⟩
      | ok page =>
          rw [meaning] at concludes
          by_cases stops : page.data = [] ∨ page.nextCursor? = none
          · exact ⟨_, alone _ concludes (by rintro other ⟨⟩; exact stops)⟩
          · -- The round ends with an answer, so the failure at the end is still to come.
            rcases concludes.exists_answer with ⟨response, answered⟩
            have within := Round.length_replies_le comes answered
            have shorter : (replies.drop round.replies.length).length < count := by
              rw [List.length_drop, length]
              rw [Round.length_replies] at within ⊢
              omega
            rcases hypothesis _ shorter _ rfl with ⟨paging, splits⟩
            rw [← List.drop_append_of_le_length within] at splits
            exact ⟨_, splits.before comes fits concludes (not_or.1 stops)⟩

/-! ## Asking for pages -/

section Asking

variable {client : Client} {wording : Wording}

theorem send_lineLink
    {path : String}
    {parameters : List (String × String)}
    {request : HttpRequest}
    (requested : client.request? path parameters = some request) :
    client.send (lineLink wording) path parameters = ExceptT.lift (Line.send request) := by
  rw [Client.send, requested]
  rfl

/-- A question takes the replies of its round, and has what the last of them means. -/
theorem perform_ask_of_fits
    {α : Type}
    {path : String}
    {parameters : List (String × String)}
    {request : HttpRequest}
    (requested : client.request? path parameters = some request)
    (fewer : client.policy.maxRetries < largest32)
    {round : Round TelemetryError HttpResponse}
    {line : Line HttpRequest TelemetryError HttpResponse}
    (fits : round.Fits HttpResponse.rateLimit client.policy.maxRetries)
    (comes : round.replies <+: line.coming)
    (subject : Subject)
    (decode : Decoder α) :
    (client.ask (lineLink wording) subject path parameters decode).perform line =
      (.ok (round.last.bind (readAnswer wording subject decode)),
        line.after request round.replies.length
          (round.pauses client.policy HttpResponse.rateLimit 0)) := by
  have taken := RetryPolicy.perform_run_of_lt HttpResponse.rateLimit Line.pause
    (Line.send request) fewer (run_retrying_of_fits fits comes client.policy request 0)
  rw [Client.ask, send_lineLink requested]
  refine (Checked.perform_bind_of_ok taken _).trans ?_
  cases round.last with
  | error cause => rfl
  | ok response => rfl

/-- With the most retries there are, a question asks for nothing. -/
theorem perform_ask_of_le
    {α : Type}
    {path : String}
    {parameters : List (String × String)}
    {request : HttpRequest}
    (requested : client.request? path parameters = some request)
    (most : largest32 ≤ client.policy.maxRetries)
    (line : Line HttpRequest TelemetryError HttpResponse)
    (subject : Subject)
    (decode : Decoder α) :
    (client.ask (lineLink wording) subject path parameters decode).perform line =
      (.error .attempts, line) := by
  have broken := RetryPolicy.perform_run_of_le HttpResponse.rateLimit Line.pause
    (Line.send request) most line
  rw [Client.ask, send_lineLink requested]
  exact Checked.perform_bind_of_error broken _

variable {fromStart : Option String}

/-- A question that ends with a reply has its rows, or its error. -/
theorem perform_observationPages_of_stops
    {outcome : Except TelemetryError ObservationsAnswer}
    {line last : Line HttpRequest TelemetryError HttpResponse}
    {cursor : Option String}
    (asked : (client.ask (lineLink wording) .observations observationsPath
        (observationsParameters fromStart cursor)
        ObservationsAnswer.shape.decode).perform line = (.ok outcome, last))
    (stops : ∀ page, outcome = .ok page → page.data = [] ∨ page.nextCursor? = none)
    (pages : Nat) :
    (client.observationPages (lineLink wording) fromStart (pages + 1) cursor).perform line =
      (.ok (outcome.map ObservationsAnswer.data), last) := by
  rw [Client.observationPages]
  refine (Checked.perform_bind_of_ok asked _).trans ?_
  cases outcome with
  | error cause => rfl
  | ok page =>
      rcases page with ⟨data, mark⟩
      cases data with
      | nil => rfl
      | cons row rows =>
          rcases stops _ rfl with empty | unmarked
          · cases empty
          · simp only [unmarked]
            rfl

/-- A question that goes on has the rows of a page and those that come after it. -/
theorem perform_observationPages_of_goesOn
    {page : ObservationsAnswer}
    {line later last : Line HttpRequest TelemetryError HttpResponse}
    {cursor : Option String}
    {pages : Nat}
    {others : Except TelemetryError (List ObservationRow)}
    (asked : (client.ask (lineLink wording) .observations observationsPath
        (observationsParameters fromStart cursor)
        ObservationsAnswer.shape.decode).perform line = (.ok (.ok page), later))
    (goesOn : page.data ≠ [] ∧ page.nextCursor? ≠ none)
    (rest : (client.observationPages (lineLink wording) fromStart pages
        page.nextCursor?).perform later = (.ok others, last)) :
    (client.observationPages (lineLink wording) fromStart (pages + 1) cursor).perform line =
      (.ok (others.map fun rows => page.data ++ rows), last) := by
  rw [Client.observationPages]
  refine (Checked.perform_bind_of_ok asked _).trans ?_
  rcases goesOn with ⟨filled, marked⟩
  cases named : page.nextCursor? with
  | none => exact absurd named marked
  | some next =>
      rw [named] at rest
      cases rows : page.data with
      | nil => exact absurd rows filled
      | cons row others =>
          simp only [rows, named]
          exact (Checked.perform_bind_of_ok rest _).trans rfl

def Line.afterPaging (line : Line HttpRequest TelemetryError HttpResponse)
    (paging : Paging) (policy : RetryPolicy) (first : Option String)
    (request : Option String → HttpRequest) :
    Line HttpRequest TelemetryError HttpResponse :=
  { line with
    replies := line.replies.drop paging.replies.length
    requests := line.requests ++ paging.requests first request
    pauses := line.pauses ++ paging.pauses policy }

theorem Line.afterPaging_alone
    (line : Line HttpRequest TelemetryError HttpResponse)
    (round : Round TelemetryError HttpResponse)
    (outcome : Except TelemetryError ObservationsAnswer)
    (policy : RetryPolicy)
    (first : Option String)
    (request : Option String → HttpRequest) :
    line.afterPaging ⟨[], round, outcome⟩ policy first request =
      line.after (request first) round.replies.length
        (round.pauses policy HttpResponse.rateLimit 0) := by
  simp [Line.afterPaging, Line.after, Paging.replies, Paging.requests, Paging.pauses,
    Paging.rounds, Paging.cursors]

theorem Line.afterPaging_before
    (line : Line HttpRequest TelemetryError HttpResponse)
    (paging : Paging)
    (round : Round TelemetryError HttpResponse)
    (page : ObservationsAnswer)
    (policy : RetryPolicy)
    (first : Option String)
    (request : Option String → HttpRequest) :
    line.afterPaging (paging.before round page) policy first request =
      (line.after (request first) round.replies.length
        (round.pauses policy HttpResponse.rateLimit 0)).afterPaging paging policy
          page.nextCursor? request := by
  simp only [Line.afterPaging, Line.after, Paging.replies_before, Paging.requests_before,
    Paging.pauses_before, List.length_append, List.drop_drop, List.append_assoc]

/-- A client that asks page by page follows the paging of what is handed out. -/
theorem perform_observationPages_of_splits
    {paging : Paging}
    {line : Line HttpRequest TelemetryError HttpResponse}
    {pages : Nat}
    {request : Option String → HttpRequest}
    (requested : ∀ cursor, client.request? observationsPath
      (observationsParameters fromStart cursor) = some (request cursor))
    (fewer : client.policy.maxRetries < largest32)
    (splits : paging.Splits wording client.policy.maxRetries line.coming)
    (enough : line.replies.length < pages)
    (cursor : Option String) :
    (client.observationPages (lineLink wording) fromStart pages cursor).perform line =
      (.ok paging.result, line.afterPaging paging client.policy cursor request) := by
  rcases paging with ⟨followed, final, outcome⟩
  -- By induction on the rounds that were followed: each leaves a line with the replies behind it.
  induction followed generalizing pages cursor line with
  | nil =>
      have comes : final.replies <+: line.coming := by
        simpa [Paging.replies, Paging.rounds] using splits.inOrder
      have asked := @perform_ask_of_fits _ wording _ _ _ _ (requested cursor) fewer _ _
        (splits.fits final List.mem_cons_self) comes .observations
        ObservationsAnswer.shape.decode
      rw [(means_iff _ _ _).1 splits.concludes] at asked
      cases pages with
      | zero => cases enough
      | succ pages =>
          rw [perform_observationPages_of_stops asked splits.stops, Line.afterPaging_alone]
          cases outcome <;> rfl
  | cons step followed hypothesis =>
      rcases step with ⟨round, page⟩
      have means := splits.pages (round, page) List.mem_cons_self
      have comes : round.replies <+: line.coming :=
        (List.prefix_append _ _).trans splits.inOrder
      have asked := @perform_ask_of_fits _ wording _ _ _ _ (requested cursor) fewer _ _
        (splits.fits round List.mem_cons_self) comes .observations
        ObservationsAnswer.shape.decode
      rw [(means_iff _ _ _).1 means] at asked
      rcases means.exists_answer with ⟨response, answered⟩
      have within := Round.length_replies_le comes answered
      cases pages with
      | zero => cases enough
      | succ pages =>
          have others := @Paging.Splits.of_before _ ⟨followed, final, outcome⟩ round page _ _
            splits
          rw [← Line.coming_after within (request cursor)
            (round.pauses client.policy HttpResponse.rateLimit 0)] at others
          have less : (line.replies.drop round.replies.length).length < pages := by
            rw [List.length_drop]
            rw [Round.length_replies] at within ⊢
            omega
          rw [perform_observationPages_of_goesOn asked
            (splits.goesOn (round, page) List.mem_cons_self)
            (hypothesis less page.nextCursor? others)]
          exact Prod.ext
            (congrArg Except.ok
              (Paging.result_before ⟨followed, final, outcome⟩ round page).symm)
            (Line.afterPaging_before line ⟨followed, final, outcome⟩ round page _ _ _).symm

theorem perform_observationPages_of_le
    {pages : Nat}
    {cursor : Option String}
    {request : HttpRequest}
    (requested : client.request? observationsPath
      (observationsParameters fromStart cursor) = some request)
    (most : largest32 ≤ client.policy.maxRetries)
    (line : Line HttpRequest TelemetryError HttpResponse) :
    (client.observationPages (lineLink wording) fromStart (pages + 1) cursor).perform line =
      (.error .attempts, line) := by
  have broken := @perform_ask_of_le _ wording _ _ _ _ requested most line .observations
    ObservationsAnswer.shape.decode
  rw [Client.observationPages]
  exact Checked.perform_bind_of_error broken _

end Asking

/-- What a client does that asks a service for all observations. -/
structure FollowsPages (client : Client) (wording : Wording) (address : Address)
    (fromStart : Option String) (replies : List Reply) (ended : TelemetryError)
    (performed : Except Overflow (Except TelemetryError (List ObservationRow)) ×
      Line HttpRequest TelemetryError HttpResponse) : Prop where
  /-- What the service hands out splits into rounds. -/
  splits : ∃ paging : Paging,
    paging.Splits wording client.policy.maxRetries (replies ++ [.error ended])
  /-- Every such paging is followed, with one and the same request in each round. -/
  followed : client.policy.maxRetries < largest32 →
    ∀ paging : Paging,
      paging.Splits wording client.policy.maxRetries (replies ++ [.error ended]) →
        ∃ request : Option String → HttpRequest,
          (∀ cursor, AsksFor client address (pageParameters fromStart cursor)
            (request cursor)) ∧
          performed = (.ok paging.result,
            { replies := replies.drop paging.replies.length
              ended
              requests := paging.requests none request
              pauses := paging.pauses client.policy }) ∧
          (paging.requests none request).length = paging.replies.length ∧
          paging.replies.length ≤ paging.rounds.length * (client.policy.maxRetries + 1)
  /-- With the most retries there are, no reply is taken. -/
  brokenOff : client.policy.maxRetries = largest32 →
    performed = (.error .attempts, Line.start replies ended)

/--
What a service hands out splits into rounds, and a client that asks for all
observations follows every such paging.  It takes the replies in order, each
once and none after the last round; it asks the first round without a cursor
and every later one with that of the page before, makes each request again
unchanged, and gives back the rows of all pages in order, or the error of the
last round.  The client with the most retries there are breaks off instead.
-/
theorem observations_follow_pages_or_break_off
    {client : Client}
    {address : Address}
    (readable : Address.ofText? (client.credentials.host ++ observationsPath) = some address)
    (wording : Wording)
    (fromStart : Option String)
    (replies : List Reply)
    (ended : TelemetryError)
    {pages : Nat}
    (enough : replies.length < pages) :
    FollowsPages client wording address fromStart replies ended
      ((client.observations (lineLink wording) pages fromStart).perform
        (Line.start replies ended)) where
  splits := exists_paging wording _ replies ended
  followed fewer paging splits := by
    choose request requested using fun cursor =>
      exists_request? readable (observationsParameters fromStart cursor)
    refine ⟨request, fun cursor => ?_, ?_, ?_, ?_⟩
    · rw [← observationsParameters_eq]
      exact asksFor_of_request? readable (requested cursor)
    · exact @perform_observationPages_of_splits client wording fromStart paging
        (Line.start replies ended) pages request requested fewer splits enough none
    · exact paging.length_requests none _
    · exact splits.length_replies_le
  brokenOff most := by
    rcases exists_request? readable (observationsParameters fromStart none) with
      ⟨request, requested⟩
    cases pages with
    | zero => cases enough
    | succ pages =>
        exact perform_observationPages_of_le requested most.ge (Line.start replies ended)

def bareObservation (id : String) : ObservationRow :=
  ⟨some id, none, none, none, none, none, none, .null, .null, .null, .null, .null⟩

/-- A page of observations that have nothing but their identifiers. -/
def barePage (ids : List String) (cursor : Option String) : Json :=
  .object
    (("data", .array (ids.map fun id => .object [("id", .text id)])) ::
      (cursor.map fun mark => ("meta", .object [("cursor", .text mark)])).toList)

/-- The answer with a page. -/
def pageReply (page : Json) : Reply :=
  .ok ⟨200, [], bytesOf page.print⟩

/-- Two pages, the first of them given only after the request was turned away once. -/
def twoRounds : Paging where
  followed :=
    [(⟨[⟨429, [("Retry-After", "2")], []⟩], pageReply (barePage ["a"] (some "c1"))⟩,
      ⟨[bareObservation "a"], some ⟨some "c1"⟩⟩)]
  final := ⟨[], pageReply (barePage ["b"] none)⟩
  outcome := .ok ⟨[bareObservation "b"], none⟩

/-- A page without rows, given at once. -/
def emptyPage : Paging where
  followed := []
  final := ⟨[], pageReply (barePage [] none)⟩
  outcome := .ok ⟨[], none⟩

theorem spellable_barePage (ids : List String) (cursor : Option String) :
    Json.Spellable Json.nestingLimit (barePage ids cursor) := by
  have row (id : String) : Json.Spellable 125 (.object [("id", .text id)]) :=
    .object (by simp) (List.forall_mem_singleton.2 (.text _))
  have rows : Json.Spellable 126 (.array (ids.map fun id => .object [("id", .text id)])) :=
    .array (List.forall_mem_map.2 fun id _ => row id)
  cases cursor with
  | none => exact .object (by simp) (List.forall_mem_singleton.2 rows)
  | some mark =>
      have named : Json.Spellable 126 (.object [("cursor", .text mark)]) :=
        .object (by simp) (List.forall_mem_singleton.2 (.text _))
      exact .object (by simp) (List.forall_mem_cons.2 ⟨rows, List.forall_mem_singleton.2 named⟩)

theorem means_pageReply
    {ids : List String}
    {cursor : Option String}
    {answer : ObservationsAnswer}
    (decoded : ObservationsAnswer.shape.decode (Json.draft (barePage ids cursor)) = .ok answer)
    (wording : Wording) :
    Means wording (pageReply (barePage ids cursor)) (.ok answer) :=
  .page (Nat.le_refl 200) (show 200 < 300 by decide)
    ((Json.ofBytes_print (spellable_barePage ids cursor) _).trans decoded)

def plainWording : Wording where
  badAddress := id
  badBody _ _ := "malformed"

/-- What is said once there is no reply left. -/
def refusedConnection : TelemetryError := .unreachable "connection refused"

theorem splits_twoRounds :
    twoRounds.Splits plainWording 3 (twoRounds.replies ++ [.error refusedConnection]) where
  inOrder := List.prefix_append _ _
  fits := by
    refine List.forall_mem_cons.2
      ⟨⟨?_, Nat.le_add_left 1 2, ?_⟩, List.forall_mem_singleton.2 ⟨?_, Nat.zero_le 3, ?_⟩⟩
    · exact List.forall_mem_singleton.2 ((turnsAway_iff _).2 rfl)
    · rintro answer ⟨⟩ away
      cases (turnsAway_iff _).1 away
    · exact List.forall_mem_nil _
    · rintro answer ⟨⟩ away
      cases (turnsAway_iff _).1 away
  pages := List.forall_mem_singleton.2 (means_pageReply rfl _)
  goesOn := by simp [twoRounds, ObservationsAnswer.nextCursor?]
  concludes := means_pageReply rfl _
  stops := by
    rintro page ⟨⟩
    exact .inr rfl

def plainClient : Client := ⟨⟨"http://localhost", "pk", "sk"⟩, .standard⟩

def plainAddress : Address := ⟨false, "localhost", observationsPath, none⟩

theorem observations_follow_pages_or_break_off_two :
    Address.ofText? (plainClient.credentials.host ++ observationsPath) = some plainAddress ∧
      twoRounds.replies.length < 4 ∧
      ∃ request : Option String → HttpRequest,
        (∀ cursor, AsksFor plainClient plainAddress (pageParameters none cursor)
          (request cursor)) ∧
        (plainClient.observations (lineLink plainWording) 4 none).perform
            (Line.start twoRounds.replies refusedConnection) =
          (.ok (.ok [bareObservation "a", bareObservation "b"]),
            { replies := []
              ended := refusedConnection
              requests := [request none, request none, request (some "c1")]
              pauses := [Duration.ofMillis 2000] }) := by
  have readable : Address.ofText? (plainClient.credentials.host ++ observationsPath) =
      some plainAddress := by decide
  have enough : twoRounds.replies.length < 4 := by decide
  rcases (observations_follow_pages_or_break_off readable plainWording none twoRounds.replies
    refusedConnection enough).followed (by decide) twoRounds splits_twoRounds with
    ⟨request, asks, performed, -, -⟩
  have pauses : twoRounds.pauses plainClient.policy = [Duration.ofMillis 2000] := by
    decide +kernel
  exact ⟨readable, enough, request, asks, performed.trans (by rw [pauses]; rfl)⟩

theorem splits_emptyPage :
    emptyPage.Splits plainWording largest32
      (emptyPage.replies ++ [.error refusedConnection]) where
  inOrder := List.prefix_append _ _
  fits := by
    refine List.forall_mem_singleton.2 ⟨List.forall_mem_nil _, Nat.zero_le _, ?_⟩
    rintro answer ⟨⟩ away
    cases (turnsAway_iff _).1 away
  pages := List.forall_mem_nil _
  goesOn := List.forall_mem_nil _
  concludes := means_pageReply rfl _
  stops := by
    rintro page ⟨⟩
    exact .inl rfl

def patientClient : Client := ⟨⟨"http://localhost", "pk", "sk"⟩, .mostPatient⟩

/-- One page without rows is there to be fetched, and is not asked for. -/
theorem most_retries_fetch_nothing :
    emptyPage.Splits plainWording patientClient.policy.maxRetries
        (emptyPage.replies ++ [.error refusedConnection]) ∧
      emptyPage.result = .ok [] ∧
      (patientClient.observations (lineLink plainWording) 2 none).perform
          (Line.start emptyPage.replies refusedConnection) =
        (.error .attempts, Line.start emptyPage.replies refusedConnection) := by
  refine ⟨splits_emptyPage, rfl, ?_⟩
  have readable : Address.ofText? (patientClient.credentials.host ++ observationsPath) =
      some plainAddress := by decide
  rcases exists_request? readable (observationsParameters none none) with ⟨request, requested⟩
  exact perform_observationPages_of_le requested (Nat.le_refl _) _

end UsageLedger.Telemetry
