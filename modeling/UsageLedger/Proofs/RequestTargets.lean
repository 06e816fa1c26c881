import Mathlib.Data.List.TakeWhile
import UsageLedger.Proofs.FetchedPages

/-!
# What request targets say

A `PlainHost` has a scheme, an authority and perhaps a path, and neither a query
nor a fragment.  Behind it the parameters of a request are the whole query of
its target, from the first question mark on: no character of the path is
written with such a mark, and the parameters are encoded without the marks that
part them.

So the query decodes to the parameters of the request, whatever texts they
hold, and the parameter of a question for metrics is read as a JSON value, the
question (`IsDailyQuestion`).  `request_targets_say_what_is_asked` has this of
all requests that a client sends, whatever it is answered.
-/

namespace UsageLedger.Telemetry

open UsageLedger.Store
open UsageLedger.Text

/-- A host with a scheme, an authority and perhaps a path, and nothing behind them. -/
structure PlainHost where
  secure : Bool
  authority : List Char
  path : List Char
  names : isAuthority authority = true
  inside : ∀ character ∈ authority,
    isPassedOver character = false ∧ endsAuthority character = false
  isPath : ∀ character ∈ path, endsPath character = false
  rooted : ∀ character ∈ path.head?, character = '/'

/-- A path that begins with a slash and has neither a query nor a fragment behind it. -/
structure IsRooted (path : String) : Prop where
  slash : path.toList.head? = some '/'
  plain : ∀ character ∈ path.toList,
    isPassedOver character = false ∧ endsPath character = false

theorem isRooted_metricsPath : IsRooted metricsPath where
  slash := by decide
  plain := by simp [metricsPath, isPassedOver, endsPath]

theorem isRooted_observationsPath : IsRooted observationsPath where
  slash := by decide
  plain := by simp [observationsPath, isPassedOver, endsPath]

/-- The characters that count wherever they stand. -/
def countedOf (characters : List Char) : List Char :=
  characters.filter fun character => !isPassedOver character

theorem countedOf_eq_self
    {characters : List Char}
    (counted : ∀ character ∈ characters, isPassedOver character = false) :
    countedOf characters = characters := by
  refine List.filter_eq_self.2 fun character member => ?_
  rw [counted character member]
  rfl

namespace PlainHost

def scheme (host : PlainHost) : String :=
  if host.secure then "https://" else "http://"

def text (host : PlainHost) : String :=
  String.ofList (host.scheme.toList ++ (host.authority ++ host.path))

/-- The path of the host with a path behind it, as far as they count. -/
def wholePath (host : PlainHost) (path : String) : List Char :=
  countedOf host.path ++ path.toList

/-- The address of a path at a host. -/
def address (host : PlainHost) (path : String) : Address where
  secure := host.secure
  authority := String.ofList host.authority
  path := String.ofList ((host.wholePath path).flatMap pathChar)
  query := none

variable (host : PlainHost)

theorem exists_authority_eq_cons :
    ∃ first rest, host.authority = first :: rest ∧ isSlash first = false := by
  cases authority : host.authority with
  | nil =>
      have names := host.names
      rw [authority] at names
      exact absurd names (by decide)
  | cons first rest =>
      have inside := (host.inside first (by rw [authority]; exact List.mem_cons_self)).2
      exact ⟨first, rest, rfl, (Bool.or_eq_false_iff.1 inside).1⟩

/-- No character of the scheme is passed over, and the two slashes of it are. -/
theorem scheme?_append (rest : List Char) :
    scheme? (host.scheme.toList ++ (host.authority ++ rest)) =
      some (host.secure, host.authority ++ rest) := by
  rcases host.exists_authority_eq_cons with ⟨first, others, authority, solid⟩
  have apart : ¬ first = '/' ∧ ¬ first = '\\' := by simpa [isSlash] using solid
  cases secure : host.secure with
  | false => simp [scheme, secure, scheme?, afterStart?, authority, isSlash, apart]
  | true => simp [scheme, secure, scheme?, afterStart?, authority, isSlash, apart]

variable {path : String} (rooted : IsRooted path)

include rooted

theorem countedChars_text_append :
    countedChars (host.text ++ path).toList =
      host.scheme.toList ++ (host.authority ++ host.wholePath path) := by
  have characters : (host.text ++ path).toList =
      host.scheme.toList ++ (host.authority ++ (host.path ++ path.toList)) := by
    rw [String.toList_append, text, String.toList_ofList, List.append_assoc, List.append_assoc]
  have ofAuthority : countedOf host.authority = host.authority :=
    countedOf_eq_self fun character member => (host.inside character member).1
  have ofPath : countedOf path.toList = path.toList :=
    countedOf_eq_self fun character member => (rooted.plain character member).1
  have counted : countedOf (host.authority ++ (host.path ++ path.toList)) =
      host.authority ++ host.wholePath path := by
    rw [countedOf, List.filter_append, List.filter_append, wholePath]
    exact congrArg₂ (· ++ ·) ofAuthority (congrArg (countedOf host.path ++ ·) ofPath)
  rw [characters, ← counted]
  cases secure : host.secure with
  | false =>
      simp only [scheme, secure]
      rfl
  | true =>
      simp only [scheme, secure]
      rfl

theorem exists_wholePath_eq_cons : ∃ rest, host.wholePath path = '/' :: rest := by
  cases own : host.path with
  | nil =>
      rw [wholePath, own]
      exact List.head?_eq_some_iff.1 rooted.slash
  | cons first rest =>
      have slash : first = '/' := host.rooted first (by rw [own]; rfl)
      refine ⟨countedOf rest ++ path.toList, ?_⟩
      rw [wholePath, own, slash]
      rfl

theorem endsPath_of_mem_wholePath :
    ∀ character ∈ host.wholePath path, endsPath character = false := by
  refine List.forall_mem_append.2 ⟨fun character member => ?_, fun character member => ?_⟩
  · exact host.isPath character (List.mem_of_mem_filter member)
  · exact (rooted.plain character member).2

/-- A path behind a plain host gives the address of the path at the host. -/
theorem ofText?_text_append :
    Address.ofText? (host.text ++ path) = some (host.address path) := by
  rcases host.exists_wholePath_eq_cons rooted with ⟨rest, behind⟩
  have inside : ∀ character ∈ host.authority, (!endsAuthority character) = true := by
    intro character member
    rw [(host.inside character member).2]
    rfl
  have authority : (host.authority ++ host.wholePath path).takeWhile
      (fun character => !endsAuthority character) = host.authority := by
    rw [behind, List.takeWhile_append_of_pos inside, List.takeWhile_cons_of_neg (by decide),
      List.append_nil]
  have afterAuthority : (host.authority ++ host.wholePath path).dropWhile
      (fun character => !endsAuthority character) = host.wholePath path := by
    rw [List.dropWhile_append_of_pos inside, behind, List.dropWhile_cons_of_neg (by decide)]
  have allPath : ∀ character ∈ host.wholePath path, (!endsPath character) = true := by
    intro character member
    rw [host.endsPath_of_mem_wholePath rooted character member]
    rfl
  have ofPath : (host.wholePath path).takeWhile (fun character => !endsPath character) =
      host.wholePath path := List.takeWhile_eq_self_iff.2 allPath
  have nothing : (host.wholePath path).dropWhile (fun character => !endsPath character) =
      [] := List.dropWhile_eq_nil_iff.2 allPath
  have filled : (host.wholePath path).isEmpty = false := by rw [behind]; rfl
  simp only [Address.ofText?, host.countedChars_text_append rooted, scheme?_append,
    Option.bind_eq_bind, Option.bind_some, authority, afterAuthority, ofPath, nothing,
    host.names, filled]
  rfl

end PlainHost

/-! ## The query of a target -/

/-- What stands behind the first question mark of a request target. -/
def queryOf (target : String) : List Char :=
  (target.toList.dropWhile (· != '?')).drop 1

theorem capitalHexDigit_ne_questionMark : ∀ value < 16, capitalHexDigit value ≠ '?' := by
  decide

theorem ne_questionMark_of_mem_pathChar
    {character written : Char}
    (inPath : endsPath character = false)
    (member : written ∈ pathChar character) :
    written ≠ '?' := by
  rw [pathChar] at member
  split at member
  · rcases List.mem_flatMap.1 member with ⟨byte, -, ofByte⟩
    have small : byte.toNat < 256 := byte.toNat_lt
    simp only [percentByte, List.mem_cons, List.not_mem_nil, or_false] at ofByte
    rcases ofByte with rfl | rfl | rfl
    · decide
    · exact capitalHexDigit_ne_questionMark _ (by omega)
    · exact capitalHexDigit_ne_questionMark _ (by omega)
  · split at member
    · rw [List.mem_singleton.1 member]
      decide
    · rw [List.mem_singleton.1 member]
      rintro rfl
      exact absurd inPath (by decide)

/-- What the target of a request asks for. -/
def HttpRequest.parameters? (request : HttpRequest) : Option (List (String × String)) :=
  decodeForm? (queryOf request.address.target)

/-- Whatever a request to a plain host asks for is all that its target decodes to. -/
theorem parameters?_of_asksFor
    {host : PlainHost}
    {path : String}
    (rooted : IsRooted path)
    {client : Client}
    {parameters : List (String × String)}
    {request : HttpRequest}
    (asks : AsksFor client (host.address path) parameters request) :
    request.parameters? = some parameters := by
  have plain : ∀ character ∈ (host.address path).path.toList, (character != '?') = true := by
    intro character member
    rw [PlainHost.address, String.toList_ofList] at member
    rcases List.mem_flatMap.1 member with ⟨source, inPath, written⟩
    exact bne_iff_ne.2
      (ne_questionMark_of_mem_pathChar (host.endsPath_of_mem_wholePath rooted source inPath)
        written)
  rcases asks.target with ⟨form, target, decoded⟩
  have characters : request.address.target.toList =
      (host.address path).path.toList ++ '?' :: form := by
    rw [target]
    simp [Address.beforeParameters, PlainHost.address]
  rw [HttpRequest.parameters?, queryOf, characters, List.dropWhile_append_of_pos plain,
    List.dropWhile_cons_of_neg (by decide), List.drop_one, List.tail_cons]
  exact decoded

/-! ## The question for metrics -/

/-- The JSON value of a question for daily sums from one date to another. -/
structure IsDailyQuestion (fromDate toDate : String) (question : Json) : Prop where
  names : ∃ members, question = .object members ∧
    members.map Prod.fst =
      ["dimensions", "filters", "fromTimestamp", "metrics", "timeDimension", "toTimestamp",
        "view"]
  fromTimestamp : question.member? "fromTimestamp" = some (.text (fromDate ++ "T00:00:00Z"))
  toTimestamp : question.member? "toTimestamp" = some (.text (toDate ++ "T23:59:59Z"))
  view : question.member? "view" = some (.text "observations")
  metrics : question.member? "metrics" =
    some (.array
      [.object [("aggregation", .text "sum"), ("measure", .text "totalCost")],
        .object [("aggregation", .text "sum"), ("measure", .text "inputTokens")],
        .object [("aggregation", .text "sum"), ("measure", .text "outputTokens")],
        .object [("aggregation", .text "sum"), ("measure", .text "totalTokens")],
        .object [("aggregation", .text "count"), ("measure", .text "count")]])
  dimensions : question.member? "dimensions" =
    some (.array [.object [("field", .text "providedModelName")]])
  timeDimension : question.member? "timeDimension" =
    some (.object [("granularity", .text "day")])
  filters : question.member? "filters" = some (.array [])

theorem isDailyQuestion_metricsQuestion (fromDate toDate : String) :
    IsDailyQuestion fromDate toDate (metricsQuestion fromDate toDate) where
  names := ⟨_, rfl, rfl⟩
  fromTimestamp := rfl
  toTimestamp := rfl
  view := rfl
  metrics := rfl
  dimensions := rfl
  timeDimension := rfl
  filters := rfl

theorem spellable_measure (room : Nat) (aggregation name : String) :
    Json.Spellable (room + 1) (measure aggregation name) := by
  refine .object (by simp) ?_
  simp only [List.forall_mem_cons, List.not_mem_nil, false_imp_iff, implies_true, and_true]
  exact ⟨.text _, .text _⟩

theorem spellable_metricsQuestion (room : Nat) (fromDate toDate : String) :
    Json.Spellable (room + 3) (metricsQuestion fromDate toDate) := by
  have dimension : Json.Spellable (room + 1)
      (.object [("field", .text "providedModelName")]) :=
    .object (by simp) (List.forall_mem_singleton.2 (.text _))
  have granularity : Json.Spellable (room + 2) (.object [("granularity", .text "day")]) :=
    .object (by simp) (List.forall_mem_singleton.2 (.text _))
  refine .object (by simp) ?_
  simp only [List.forall_mem_cons, List.not_mem_nil, false_imp_iff, implies_true, and_true]
  refine ⟨.array (List.forall_mem_singleton.2 dimension), .array (List.forall_mem_nil _),
    .text _, .array ?_, granularity, .text _, .text _⟩
  simp only [List.forall_mem_cons, List.not_mem_nil, false_imp_iff, implies_true, and_true]
  exact ⟨spellable_measure _ _ _, spellable_measure _ _ _, spellable_measure _ _ _,
    spellable_measure _ _ _, spellable_measure _ _ _⟩

/-- A request whose target decodes to one parameter, a question for metrics in JSON. -/
def SendsDailyQuestion (request : HttpRequest) (fromDate toDate : String) : Prop :=
  ∃ text question, request.parameters? = some [("query", text)] ∧
    Json.parse text = .ok question ∧ IsDailyQuestion fromDate toDate question

theorem sendsDailyQuestion_of_parameters
    {request : HttpRequest}
    {fromDate toDate : String}
    (asked : request.parameters? = some (metricsParameters fromDate toDate)) :
    SendsDailyQuestion request fromDate toDate :=
  ⟨_, _, asked, Json.parse_print (spellable_metricsQuestion 124 fromDate toDate),
    isDailyQuestion_metricsQuestion fromDate toDate⟩

/-! ## What is sent -/

namespace Paging

/-- What the requests of a paging ask for, one after another. -/
def parameters (paging : Paging) (fromStart first : Option String) :
    List (List (String × String)) :=
  (paging.rounds.zip (paging.cursors first)).flatMap fun entry =>
    List.replicate entry.1.replies.length (pageParameters fromStart entry.2)

theorem map_parameters?_requests
    (paging : Paging)
    (fromStart first : Option String)
    {request : Option String → HttpRequest}
    (asked : ∀ cursor,
      (request cursor).parameters? = some (pageParameters fromStart cursor)) :
    (paging.requests first request).map HttpRequest.parameters? =
      (paging.parameters fromStart first).map some := by
  rw [requests, parameters, List.map_flatMap, List.map_flatMap]
  simp only [List.map_replicate, asked]

end Paging

section Sent

variable
    {host : PlainHost}
    {client : Client}
    (plain : client.credentials.host = host.text)

include plain

/-- A question for metrics makes one request, at least once unless it breaks off. -/
theorem exists_metrics_requests
    (wording : Wording)
    (fromDate toDate : String)
    (replies : List Reply)
    (ended : TelemetryError) :
    ∃ request count,
      ((client.metrics (lineLink wording) fromDate toDate).perform
          (Line.start replies ended)).2.requests = List.replicate count request ∧
        (client.policy.maxRetries < largest32 → 0 < count) ∧
        SendsDailyQuestion request fromDate toDate := by
  have readable := host.ofText?_text_append isRooted_metricsPath
  rw [← plain] at readable
  rcases exists_request? readable (metricsParameters fromDate toDate) with ⟨request, requested⟩
  have sends : SendsDailyQuestion request fromDate toDate :=
    sendsDailyQuestion_of_parameters
      (parameters?_of_asksFor isRooted_metricsPath (asksFor_of_request? readable requested))
  rcases Nat.lt_or_ge client.policy.maxRetries largest32 with fewer | most
  · rcases exists_fitting_round HttpResponse.rateLimit client.policy.maxRetries replies ended
      with ⟨round, fits, comes⟩
    have taken := @perform_ask_of_fits _ wording _ _ _ _ requested fewer round
      (Line.start replies ended) fits comes .metrics MetricsAnswer.shape.decode
    refine ⟨request, round.replies.length, ?_, fun _ => ?_, sends⟩
    · rw [Client.metrics, Checked.perform_bind_of_ok taken]
      rfl
    · rw [Round.length_replies]
      exact Nat.succ_pos _
  · have broken := @perform_ask_of_le _ wording _ _ _ _ requested most
      (Line.start replies ended) .metrics MetricsAnswer.shape.decode
    refine ⟨request, 0, ?_, fun fewer => absurd fewer (Nat.not_lt.2 most), sends⟩
    rw [Client.metrics, Checked.perform_bind_of_error broken]
    rfl

/-- A question for observations makes the requests of a paging of the replies. -/
theorem perform_observationPages_requests
    {paging : Paging}
    {wording : Wording}
    {replies : List Reply}
    {ended : TelemetryError}
    (splits : paging.Splits wording client.policy.maxRetries (replies ++ [.error ended]))
    (fewer : client.policy.maxRetries < largest32)
    {pages : Nat}
    (enough : replies.length < pages)
    (fromStart cursor : Option String) :
    ((client.observationPages (lineLink wording) fromStart pages cursor).perform
        (Line.start replies ended)).2.requests.map HttpRequest.parameters? =
      (paging.parameters fromStart cursor).map some := by
  have readable := host.ofText?_text_append isRooted_observationsPath
  rw [← plain] at readable
  choose request requested using fun cursor =>
    exists_request? readable (observationsParameters fromStart cursor)
  have followed := @perform_observationPages_of_splits client wording fromStart paging
    (Line.start replies ended) pages request requested fewer splits enough cursor
  rw [followed]
  refine paging.map_parameters?_requests fromStart cursor fun mark => ?_
  rw [← observationsParameters_eq]
  exact parameters?_of_asksFor isRooted_observationsPath
    (asksFor_of_request? readable (requested mark))

theorem perform_observationPages_nothing
    (most : largest32 ≤ client.policy.maxRetries)
    (wording : Wording)
    (fromStart cursor : Option String)
    {replies : List Reply}
    {pages : Nat}
    (enough : replies.length < pages)
    (ended : TelemetryError) :
    ((client.observationPages (lineLink wording) fromStart pages cursor).perform
      (Line.start replies ended)).2.requests = [] := by
  have readable := host.ofText?_text_append isRooted_observationsPath
  rw [← plain] at readable
  rcases exists_request? readable (observationsParameters fromStart cursor) with
    ⟨request, requested⟩
  cases pages with
  | zero => cases enough
  | succ pages =>
      rw [perform_observationPages_of_le requested most]
      rfl

end Sent

/-- What a client asks for by the targets of its requests, whatever it is answered. -/
structure AsksByTargets (client : Client) (wording : Wording) (replies : List Reply)
    (ended : TelemetryError) : Prop where
  /--
  A question for metrics is one parameter, in every request that is made for it;
  none is made only if the attempts do not fit 32 bits.
  -/
  metrics : ∀ fromDate toDate,
    ∃ request count,
      ((client.metrics (lineLink wording) fromDate toDate).perform
          (Line.start replies ended)).2.requests = List.replicate count request ∧
        (client.policy.maxRetries < largest32 → 0 < count) ∧
        SendsDailyQuestion request fromDate toDate
  /-- Each page is asked for with the fixed parameters, the start time and its cursor. -/
  observations : ∀ fromStart cursor pages, replies.length < pages →
    ∃ paging : Paging,
      paging.Splits wording client.policy.maxRetries (replies ++ [.error ended]) ∧
        (client.policy.maxRetries < largest32 →
          ((client.observationPages (lineLink wording) fromStart pages cursor).perform
              (Line.start replies ended)).2.requests.map HttpRequest.parameters? =
            (paging.parameters fromStart cursor).map some) ∧
        (client.policy.maxRetries = largest32 →
          ((client.observationPages (lineLink wording) fromStart pages cursor).perform
            (Line.start replies ended)).2.requests = [])

/--
The target of each request to a plain host decodes to what the client asks for:
a question for metrics to one JSON text that is read as the question, and a
question for a page of observations to its parameters in order, with the start
time and the cursor as they are.
-/
theorem request_targets_say_what_is_asked
    {host : PlainHost}
    {client : Client}
    (plain : client.credentials.host = host.text)
    (wording : Wording)
    (replies : List Reply)
    (ended : TelemetryError) :
    AsksByTargets client wording replies ended where
  metrics fromDate toDate := exists_metrics_requests plain wording fromDate toDate replies ended
  observations fromStart cursor _ enough := by
    rcases exists_paging wording client.policy.maxRetries replies ended with ⟨paging, splits⟩
    refine ⟨paging, splits, fun fewer => ?_, fun most => ?_⟩
    · exact perform_observationPages_requests plain splits fewer enough fromStart cursor
    · exact perform_observationPages_nothing plain most.ge wording fromStart cursor enough ended

/-- A port behind an address of eight pieces. -/
def loopbackHost : PlainHost where
  secure := false
  authority := "[::1]:8080".toList
  path := "/telemetry".toList
  names := by decide
  inside := by simp [isPassedOver, endsAuthority, endsPath, isSlash]
  isPath := by simp [endsPath]
  rooted := by simp

def loopbackClient : Client := ⟨⟨"http://[::1]:8080/telemetry", "pk", "sk"⟩, .standard⟩

theorem request_targets_say_what_is_asked_two :
    loopbackClient.credentials.host = loopbackHost.text ∧
      AsksByTargets loopbackClient plainWording twoRounds.replies refusedConnection := by
  have plain : loopbackClient.credentials.host = loopbackHost.text := by decide
  exact ⟨plain, request_targets_say_what_is_asked plain _ _ _⟩

end UsageLedger.Telemetry
