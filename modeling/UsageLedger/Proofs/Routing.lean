import UsageLedger.Http.Router

/-!
# What requests over HTTP reach

`Offers` lists the services: the path of each, what it takes, and the call that
is made.  A request makes such a call if it is posted to the path with a JSON
body that decodes; otherwise `Rejects` says with which status it is turned away,
or it checks the health of the program.

Whatever importing means, a request is dealt with in one of these ways: a
rejected one reaches no service, and the response to a call is what the service
gives back (`requests_reach_services`).  Only an import changes the store, and
none does without the settings that it needs.  A body may decode and still be
turned away, if it is too large (`large_body_is_rejected`).
-/

namespace UsageLedger.Http

open UsageLedger.Calendar
open UsageLedger.Decode
open UsageLedger.Json (Draft Fault)
open UsageLedger.Service
open UsageLedger.Telemetry
open UsageLedger.Text

/-! ## The services and their requests -/

/-- The services: where each one is, what it takes and what is called. -/
inductive Offers : String → (α : Type) → Decoder α → (α → Call) → Prop where
  | runImport : Offers "/api/import" Unit noParameters fun _ => .runImport
  | importStatus : Offers "/api/import_status" Unit noParameters fun _ => .importStatus
  | importHistory :
      Offers "/api/import_history" HistoryQuery HistoryQuery.shape.decode .importHistory
  | importRun : Offers "/api/import_run" RunQuery RunQuery.shape.decode .importRun
  | costs : Offers "/api/costs" CostQuery CostQuery.shape.decode .costs
  | requests : Offers "/api/requests" RequestQuery RequestQuery.shape.decode .requests
  | models : Offers "/api/models" Unit noParameters fun _ => .models

def IsOffered (path : String) : Prop :=
  ∃ α decode use, Offers path α decode use

/-- A request whose body may be read as JSON. -/
structure Request.HasJson (request : Request) : Prop where
  typed : ∃ type, request.contentType = some type ∧ isJsonMediaType type = true
  fits : request.body.length ≤ 2097152

def Request.document (request : Request) : Draft :=
  (Json.scan request.body).root

/-- A request that makes a call. -/
structure Calls (request : Request) (path : String) (call : Call) : Prop where
  asks : targetPath? request.target = some path
  method : request.method = "POST"
  json : request.HasJson
  decodes : ∃ α decode use value,
    Offers path α decode use ∧ decode request.document = .ok value ∧ call = use value

/-- A request that is turned away, with its status. -/
inductive Rejects (request : Request) : Nat → Prop where
  | badTarget : targetPath? request.target = none → Rejects request 400
  | unknownPath {path : String} : targetPath? request.target = some path →
      path ≠ "/health" → ¬ IsOffered path → Rejects request 404
  | wrongMethod {path : String} : targetPath? request.target = some path →
      IsOffered path → request.method ≠ "POST" → Rejects request 405
  | onlyHealth : targetPath? request.target = some "/health" →
      request.method ≠ "GET" → request.method ≠ "HEAD" → Rejects request 405
  | notJsonType {path : String} : targetPath? request.target = some path →
      IsOffered path → request.method = "POST" →
        (∀ type, request.contentType = some type → isJsonMediaType type = false) →
          Rejects request 415
  | tooLarge {path type : String} : targetPath? request.target = some path →
      IsOffered path → request.method = "POST" →
        request.contentType = some type → isJsonMediaType type = true →
          2097152 < request.body.length → Rejects request 413
  | notJson {path : String} {α : Type} {decode : Decoder α} {use : α → Call}
      {fault : Fault} : targetPath? request.target = some path →
      Offers path α decode use → request.method = "POST" → request.HasJson →
        decode request.document = .error fault → fault ≠ .mismatched →
          Rejects request 400
  | wrongShape {path : String} {α : Type} {decode : Decoder α} {use : α → Call} :
      targetPath? request.target = some path →
      Offers path α decode use → request.method = "POST" → request.HasJson →
        decode request.document = .error .mismatched → Rejects request 422

/-- A response to what a service gave back: its value, or its error with the same status twice. -/
structure Answered {α : Type} (encode : α → Json) (result : Except ServiceError α)
    (response : Response) : Prop where
  success : ∀ value, result = .ok value → response = ⟨200, some (encode value)⟩
  failure : ∀ cause, result = .error cause →
    response.status = cause.status ∧
      ∃ body, response.body = some body ∧ body = cause.toJson ∧
        body.member? "status" = some (.natural response.status)

/-- The response to a call that reads a store. -/
inductive Reads (store : Store) : Call → Response → Prop where
  | importStatus {response : Response} :
      Answered ImportOverview.toJson (importStatus store) response →
        Reads store .importStatus response
  | importHistory {query : HistoryQuery} {response : Response} :
      Answered (fun runs => .array (runs.map ImportRun.toJson))
        (importHistory store query) response →
          Reads store (.importHistory query) response
  | importRun {query : RunQuery} {response : Response} :
      Answered ImportRun.toJson (importRun store query) response →
        Reads store (.importRun query) response
  | costs {query : CostQuery} {response : Response} :
      Answered CostSummary.toJson (costs store query) response →
        Reads store (.costs query) response
  | requests {query : RequestQuery} {response : Response} :
      Answered RequestPage.toJson (requests store query) response →
        Reads store (.requests query) response
  | models {response : Response} :
      Answered (fun names => .array (names.map Json.text)) (models store) response →
        Reads store .models response

/-- What comes of an import for who asked for it: a response, or none if it broke off. -/
inductive Follows {n : Type → Type} [Monad n] [MonadExceptOf Overflow n] :
    Except ServiceError ImportRun → StateT Store n Response → Prop where
  | answered {result : Except ServiceError ImportRun} {response : Response} :
      (∀ cause, result ≠ .error (.overflow cause)) →
        Answered ImportRun.toJson result response → Follows result (pure response)
  | brokenOff {cause : Overflow} : Follows (.error (.overflow cause)) (throw cause)

/-- How a request is dealt with. -/
inductive Served {n : Type → Type} [Monad n] [MonadExceptOf Overflow n]
    (importing : StateT Store n (Except ServiceError ImportRun))
    (request : Request) (store : Store) : Prop where
  | rejected {status : Nat} : Rejects request status →
      respond importing request = pure ⟨status, none⟩ → Served importing request store
  | health : targetPath? request.target = some "/health" → request.method = "GET" →
      respond importing request = pure ⟨200, some (.object [("status", .text "ok")])⟩ →
        Served importing request store
  | healthHead : targetPath? request.target = some "/health" → request.method = "HEAD" →
      respond importing request = pure ⟨200, none⟩ → Served importing request store
  | read {path : String} {call : Call} {response : Response} :
      Calls request path call → Reads store call response →
        (respond importing request).run store = pure (response, store) →
          Served importing request store
  | imported {follow : Except ServiceError ImportRun → StateT Store n Response} :
      Calls request "/api/import" .runImport → (∀ result, Follows result (follow result)) →
        (respond importing request).run store =
            (importing.run store >>= fun outcome => (follow outcome.1).run outcome.2) →
          Served importing request store

/-! ## Routes -/

theorem answered_answer {α : Type} (encode : α → Json) (result : Except ServiceError α) :
    Answered encode result (answer encode result) where
  success := by
    rintro value rfl
    rfl
  failure := by
    rintro cause rfl
    exact ⟨rfl, _, rfl, rfl, rfl⟩

/-- What `respond` does with the result of an import. -/
def afterImport {n : Type → Type} [Monad n] [MonadExceptOf Overflow n]
    (result : Except ServiceError ImportRun) : StateT Store n Response :=
  match result with
  | .error (.overflow cause) => throw cause
  | run => pure (answer ImportRun.toJson run)

theorem follows_afterImport {n : Type → Type} [Monad n] [MonadExceptOf Overflow n]
    (result : Except ServiceError ImportRun) :
    Follows result (afterImport result : StateT Store n Response) := by
  cases result with
  | ok run => exact .answered (by simp) (answered_answer _ _)
  | error cause =>
      cases cause with
      | overflow cause => exact .brokenOff
      | _ => exact .answered (by simp) (answered_answer _ _)

theorem offers_of_member
    {path : String}
    {endpoint : Endpoint}
    (found : member? path endpoints = some endpoint) :
    ∃ α decode use, Offers path α decode use ∧
      ∀ body, endpoint.parameters body = (decode body).map use := by
  have member := mem_of_member? found
  simp only [endpoints, List.mem_cons, Prod.mk.injEq, List.not_mem_nil, or_false] at member
  rcases member with ⟨rfl, rfl⟩ | ⟨rfl, rfl⟩ | ⟨rfl, rfl⟩ | ⟨rfl, rfl⟩ | ⟨rfl, rfl⟩ |
    ⟨rfl, rfl⟩ | ⟨rfl, rfl⟩
  · exact ⟨_, _, _, .runImport, fun _ => rfl⟩
  · exact ⟨_, _, _, .importStatus, fun _ => rfl⟩
  · exact ⟨_, _, _, .importHistory, fun _ => rfl⟩
  · exact ⟨_, _, _, .importRun, fun _ => rfl⟩
  · exact ⟨_, _, _, .costs, fun _ => rfl⟩
  · exact ⟨_, _, _, .requests, fun _ => rfl⟩
  · exact ⟨_, _, _, .models, fun _ => rfl⟩

theorem member_of_offers
    {path : String}
    {α : Type}
    {decode : Decoder α}
    {use : α → Call}
    (offers : Offers path α decode use) :
    path ≠ healthPath ∧
      ∃ endpoint, member? path endpoints = some endpoint ∧
        ∀ body, endpoint.parameters body = (decode body).map use := by
  cases offers <;> exact ⟨by decide, _, rfl, fun _ => rfl⟩

theorem not_isOffered_of_none {path : String} (missing : member? path endpoints = none) :
    ¬ IsOffered path := by
  rintro ⟨α, decode, use, offers⟩
  rcases member_of_offers offers with ⟨-, endpoint, found, -⟩
  rw [missing] at found
  cases found

theorem typed_iff {request : Request} :
    (request.contentType.map isJsonMediaType).getD false = true ↔
      ∃ type, request.contentType = some type ∧ isJsonMediaType type = true := by
  cases request.contentType <;> simp

/-- What becomes of a body that was posted to a service. -/
theorem readBody_cases
    {request : Request}
    {path : String}
    {endpoint : Endpoint}
    (asks : targetPath? request.target = some path)
    (found : member? path endpoints = some endpoint)
    (method : request.method = "POST") :
    (∃ reason, readBody endpoint request = .rejected reason ∧
        Rejects request reason.status) ∨
      ∃ call, readBody endpoint request = .call call ∧ Calls request path call := by
  rcases offers_of_member found with ⟨α, decode, use, offers, parameters⟩
  have offered : IsOffered path := ⟨α, decode, use, offers⟩
  unfold readBody
  by_cases typed : (request.contentType.map isJsonMediaType).getD false = true
  · rw [if_neg (by simp [typed])]
    by_cases large : bodyLimit < request.body.length
    · rw [if_pos large]
      rcases typed_iff.1 typed with ⟨type, given, isJson⟩
      exact .inl ⟨_, rfl, .tooLarge asks offered method given isJson large⟩
    · rw [if_neg large, parameters]
      have json : request.HasJson := ⟨typed_iff.1 typed, Nat.le_of_not_lt large⟩
      cases read : decode (Json.scan request.body).root with
      | ok value =>
          exact .inr ⟨_, rfl, asks, method, json, α, decode, use, value, offers, read, rfl⟩
      | error fault =>
          refine .inl ⟨_, rfl, ?_⟩
          cases fault with
          | mismatched => exact .wrongShape asks offers method json read
          | truncated => exact .notJson asks offers method json read (by decide)
          | malformed => exact .notJson asks offers method json read (by decide)
  · rw [if_pos (by simp [typed])]
    refine .inl ⟨_, rfl, .notJsonType asks offered method ?_⟩
    intro type given
    rw [given] at typed
    simpa using typed

/-- A request has a route, and the route says what the request is. -/
theorem route_cases (request : Request) :
    (∃ reason, route request = .rejected reason ∧ Rejects request reason.status) ∨
      (∃ headOnly, route request = .health headOnly ∧
        targetPath? request.target = some "/health" ∧
          request.method = if headOnly then "HEAD" else "GET") ∨
      ∃ path call, route request = .call call ∧ Calls request path call := by
  unfold route
  cases asks : targetPath? request.target with
  | none => exact .inl ⟨_, rfl, .badTarget asks⟩
  | some path =>
      simp only [routePath]
      by_cases isHealth : path = healthPath
      · rw [if_pos isHealth]
        subst isHealth
        by_cases get : request.method = "GET"
        · rw [if_pos get]
          exact .inr (.inl ⟨false, rfl, rfl, get⟩)
        · rw [if_neg get]
          by_cases head : request.method = "HEAD"
          · rw [if_pos head]
            exact .inr (.inl ⟨true, rfl, rfl, head⟩)
          · rw [if_neg head]
            exact .inl ⟨_, rfl, .onlyHealth asks get head⟩
      · rw [if_neg isHealth]
        cases found : member? path endpoints with
        | none =>
            exact .inl ⟨_, rfl, .unknownPath asks isHealth (not_isOffered_of_none found)⟩
        | some endpoint =>
            by_cases method : request.method = "POST"
            · simp only [if_pos method]
              rcases readBody_cases asks found method with rejected | called
              · exact .inl rejected
              · exact .inr (.inr ⟨path, called⟩)
            · simp only [if_neg method]
              rcases offers_of_member found with ⟨α, decode, use, offers, -⟩
              exact .inl ⟨_, rfl, .wrongMethod asks ⟨α, decode, use, offers⟩ method⟩

theorem Rejects.status_cases {request : Request} {status : Nat}
    (rejects : Rejects request status) :
    status ∈ [404, 405, 415, 400, 422] ∨
      status = 413 ∧ 2097152 < request.body.length := by
  cases rejects with
  | tooLarge _ _ _ _ _ large => exact .inr ⟨rfl, large⟩
  | _ => exact .inl (by decide)

/-- Only an import is not a call that reads the store. -/
theorem Call.read?_cases (call : Call) :
    call = .runImport ∨
      ∀ store, ∃ response, call.read? store = some response ∧ Reads store call response := by
  cases call with
  | runImport => exact .inl rfl
  | importStatus => exact .inr fun store => ⟨_, rfl, .importStatus (answered_answer _ _)⟩
  | importHistory => exact .inr fun store => ⟨_, rfl, .importHistory (answered_answer _ _)⟩
  | importRun => exact .inr fun store => ⟨_, rfl, .importRun (answered_answer _ _)⟩
  | costs => exact .inr fun store => ⟨_, rfl, .costs (answered_answer _ _)⟩
  | requests => exact .inr fun store => ⟨_, rfl, .requests (answered_answer _ _)⟩
  | models => exact .inr fun store => ⟨_, rfl, .models (answered_answer _ _)⟩

theorem Calls.path_of_runImport
    {request : Request}
    {path : String}
    (calls : Calls request path .runImport) :
    path = "/api/import" := by
  rcases calls.decodes with ⟨α, decode, use, value, offers, -, same⟩
  cases offers with
  | runImport => rfl
  | _ => cases same

theorem Calls.route_eq
    {request : Request}
    {path : String}
    {call : Call}
    (calls : Calls request path call) :
    route request = .call call := by
  rcases calls.decodes with ⟨α, decode, use, value, offers, read, rfl⟩
  rcases member_of_offers offers with ⟨notHealth, endpoint, found, parameters⟩
  have typed := typed_iff.2 calls.json.typed
  have fits : ¬ bodyLimit < request.body.length := Nat.not_lt.2 calls.json.fits
  have parsed : decode (Json.scan request.body).root = .ok value := read
  simp only [route, calls.asks, routePath, if_neg notHealth, found, if_pos calls.method,
    readBody, typed, Bool.not_true, Bool.false_eq_true, if_false, if_neg fits, parameters,
    parsed, Except.map]

/-! ## Responses -/

theorem run_getThe {n : Type → Type} [Monad n] (store : Store) :
    (getThe Store : StateT Store n Store).run store = pure (store, store) := rfl

section Responses

variable {n : Type → Type} [Monad n] [LawfulMonad n] [MonadExceptOf Overflow n]
  (importing : StateT Store n (Except ServiceError ImportRun))
  (request : Request) (store : Store)

theorem run_respond_of_read
    {call : Call}
    {response : Response}
    (routed : route request = .call call)
    (read : call.read? store = some response) :
    (respond importing request).run store = pure (response, store) := by
  simp only [respond, routed, StateT.run_bind, run_getThe, pure_bind, read, StateT.run_pure]

theorem run_respond_of_import (routed : route request = .call .runImport) :
    (respond importing request).run store =
      (importing.run store >>= fun outcome => (afterImport outcome.1).run outcome.2) := by
  simp only [respond, routed, StateT.run_bind, run_getThe, pure_bind, Call.read?]
  rfl

/-- Whatever importing means, every request is dealt with in one way. -/
theorem served : Served importing request store := by
  rcases route_cases request with ⟨reason, routed, rejects⟩ | ⟨headOnly, routed, asks, method⟩ |
    ⟨path, call, routed, calls⟩
  · refine .rejected rejects ?_
    simp only [respond, routed]
  · cases headOnly with
    | false =>
        refine .health asks method ?_
        simp only [respond, routed]
        rfl
    | true =>
        refine .healthHead asks method ?_
        simp only [respond, routed]
  · rcases call.read?_cases with rfl | reads
    · cases calls.path_of_runImport
      exact .imported calls follows_afterImport (run_respond_of_import _ _ _ routed)
    · rcases reads store with ⟨response, read, isRead⟩
      exact .read calls isRead (run_respond_of_read _ _ _ routed read)

theorem run_respond_of_not_import
    (other : ¬ Calls request "/api/import" .runImport) :
    ∃ response, (respond importing request).run store = pure (response, store) := by
  cases served importing request store with
  | rejected _ responds => exact ⟨_, by rw [responds, StateT.run_pure]⟩
  | health _ _ responds => exact ⟨_, by rw [responds, StateT.run_pure]⟩
  | healthHead _ _ responds => exact ⟨_, by rw [responds, StateT.run_pure]⟩
  | read _ _ responds => exact ⟨_, responds⟩
  | imported calls => exact absurd calls other

end Responses

/-! ## Imports without settings -/

/-- Settings of which one that is needed is missing or blank. -/
def Lacking (settings : Settings) : Prop :=
  ∃ setting ∈ [settings.host, settings.publicKey, settings.secretKey],
    setting = none ∨ ∃ text, setting = some text ∧ isBlankText text = true

theorem missing_ne_nil_of_lacking
    {settings : Settings}
    (lacking : Lacking settings) :
    settings.missing ≠ [] := by
  rcases lacking with ⟨setting, member, isMissing⟩
  have empty : settingText setting = "" := by
    rcases isMissing with rfl | ⟨text, rfl, blank⟩
    · rfl
    · exact trim_eq_empty_iff.2 blank
  have needed : ∃ name, (name, setting) ∈ settings.needed := by
    simp only [Settings.needed, List.mem_cons, List.not_mem_nil, or_false] at member ⊢
    rcases member with rfl | rfl | rfl
    · exact ⟨_, .inl rfl⟩
    · exact ⟨_, .inr (.inl rfl)⟩
    · exact ⟨_, .inr (.inr rfl)⟩
  rcases needed with ⟨name, isNeeded⟩
  apply List.ne_nil_of_mem
  exact List.mem_map_of_mem (List.mem_filter.2 ⟨isNeeded, by simpa using empty⟩)

/-- Without the settings that it needs, an import ends before it begins. -/
theorem importConfiguredAlone_of_lacking
    {m : Type → Type}
    [Monad m] [MonadExceptOf Overflow m] [MonadFinally m] [MonadStateOf Store m]
    (gate : Gate m)
    {settings : Settings}
    (lacking : Lacking settings)
    (clock : m Instant)
    (link : Link m)
    (pages : Nat) :
    importConfiguredAlone gate settings clock link pages =
      pure (.error (.telemetry (.ofMissing settings.missing))) := by
  have credentials : settings.credentials = .error settings.missing := by
    simp [Settings.credentials, missing_ne_nil_of_lacking lacking]
  simp only [importConfiguredAlone, withClient, Client.ofSettings, credentials]

/-- The response to an import for which some settings are missing. -/
def unavailable (missing : List String) : Response :=
  ⟨503, some (.object
    [("status", .natural 503),
      ("message", .text ("ingest error: telemetry configuration missing: " ++
        ", ".intercalate missing)),
      ("code", .text "telemetry_not_configured")])⟩

/--
Every request is rejected before it reaches a service, checks the health of the
program, or makes one call and is answered with what the service gives back.
No request changes the store but a call of an import, and such a call without
the settings that are needed is answered as unavailable and does nothing.
-/
theorem requests_reach_services
    {n : Type → Type}
    [Monad n] [LawfulMonad n] [MonadExceptOf Overflow n] [MonadFinally n]
    (gate : Gate (StateT Store n))
    (settings : Settings)
    (clock : StateT Store n Instant)
    (link : Link (StateT Store n))
    (pages : Nat)
    (request : Request)
    (store : Store) :
    Served (importConfiguredAlone gate settings clock link pages) request store ∧
      (∀ status, Rejects request status →
        status ∈ [404, 405, 415, 400, 422] ∨
          status = 413 ∧ 2097152 < request.body.length) ∧
      (¬ Calls request "/api/import" .runImport →
        ∃ response,
          (respond (importConfiguredAlone gate settings clock link pages) request).run
              store =
            pure (response, store)) ∧
      (Calls request "/api/import" .runImport → Lacking settings →
        (respond (importConfiguredAlone gate settings clock link pages) request).run
            store =
          pure (unavailable settings.missing, store)) := by
  refine ⟨served _ request store, fun status rejects => rejects.status_cases,
    run_respond_of_not_import _ request store, ?_⟩
  intro calls lacking
  rw [run_respond_of_import _ request store calls.route_eq,
    importConfiguredAlone_of_lacking gate lacking, StateT.run_pure, pure_bind]
  rfl

/-- An empty object is decoded whatever follows it. -/
theorem noParameters_scan (rest : List UInt8) :
    noParameters (Json.scan (123 :: 125 :: rest)).root = .ok () := by
  have fuel : 3 * (rest.length + 1 + 1) + 4 = (3 * rest.length + 8) + 1 + 1 := by omega
  have brackets : (123 :: 125 :: rest).map Json.characterOf =
      '\x7b' :: '\x7d' :: rest.map Json.characterOf := rfl
  have opening : Json.dropSpace ('\x7b' :: '\x7d' :: rest.map Json.characterOf) =
      '\x7b' :: '\x7d' :: rest.map Json.characterOf := rfl
  have closing : Json.dropSpace ('\x7d' :: rest.map Json.characterOf) =
      '\x7d' :: rest.map Json.characterOf := rfl
  simp only [Json.scan, brackets, List.length_cons, List.length_map, fuel, Json.scanValue,
    opening, Json.scanFirstMember, closing]
  rfl

/-- A request to import, with an empty object as its body. -/
def importRequest : Request :=
  ⟨"POST", "/api/import", some "application/json", [123, 125]⟩

theorem calls_importRequest : Calls importRequest "/api/import" .runImport where
  asks := by decide
  method := rfl
  json := ⟨⟨"application/json", rfl, by decide⟩, by decide⟩
  decodes := ⟨Unit, noParameters, _, (), .runImport, noParameters_scan [], rfl⟩

/-- A link to a service that cannot be reached. -/
def deadLink : Link (StateT Store (ExceptT Overflow Id)) where
  send _ := pure (.error (.unreachable "connection refused"))
  pause _ := pure ()
  wording := ⟨id, fun _ _ => "malformed"⟩

/-- A program without settings, whose service is never asked. -/
def unset (request : Request) : StateT Store (ExceptT Overflow Id) Response :=
  respond
    (importConfiguredAlone ⟨pure (), pure ()⟩ Settings.empty (pure (Instant.ofNanos 0)) deadLink
      1)
    request

theorem requests_reach_services_unset :
    Calls importRequest "/api/import" .runImport ∧ Lacking Settings.empty ∧
      (unset importRequest).run Store.empty =
        pure (unavailable ["host", "public_key", "secret_key"], Store.empty) := by
  have lacking : Lacking Settings.empty := ⟨none, List.mem_cons_self, .inl rfl⟩
  exact ⟨calls_importRequest, lacking,
    (requests_reach_services ⟨pure (), pure ()⟩ Settings.empty (pure (Instant.ofNanos 0))
      deadLink 1 importRequest Store.empty).2.2.2 calls_importRequest lacking⟩

/-! ## Bodies that are too large -/

/-- A request for the models, with blanks behind the empty object of its body. -/
def paddedRequest (blanks : Nat) : Request :=
  ⟨"POST", "/api/models", some "application/json", 123 :: 125 :: List.replicate blanks 32⟩

theorem document_paddedRequest (blanks : Nat) :
    noParameters (paddedRequest blanks).document = .ok () :=
  noParameters_scan (List.replicate blanks 32)

theorem route_paddedRequest {blanks : Nat} (large : 2097150 < blanks) :
    route (paddedRequest blanks) = .rejected .tooLarge := by
  have length : (paddedRequest blanks).body.length = blanks + 2 := by
    simp only [paddedRequest, List.length_cons, List.length_replicate]
  have beyond : bodyLimit < (paddedRequest blanks).body.length := by
    rw [length, bodyLimit]
    omega
  have asks : targetPath? (paddedRequest blanks).target = some "/api/models" :=
    show targetPath? "/api/models" = some "/api/models" by decide
  have typed : ((paddedRequest blanks).contentType.map isJsonMediaType).getD false = true :=
    show isJsonMediaType "application/json" = true by decide
  have method : (paddedRequest blanks).method = "POST" := rfl
  have found : member? "/api/models" endpoints = some .models := rfl
  have notHealth : "/api/models" ≠ healthPath := by decide
  simp only [route, asks, routePath, if_neg notHealth, found, if_pos method, readBody, typed,
    Bool.not_true, Bool.false_eq_true, if_false, if_pos beyond]

theorem run_unset_paddedRequest {blanks : Nat} (large : 2097150 < blanks) (store : Store) :
    (unset (paddedRequest blanks)).run store = pure (⟨413, none⟩, store) := by
  rw [unset, respond, route_paddedRequest large]
  rfl

/-- A request whose body decodes is turned away all the same, with a status of its own. -/
theorem large_body_is_rejected :
    Offers "/api/models" Unit noParameters (fun _ => .models) ∧
      noParameters (paddedRequest 2097151).document = .ok () ∧
      (unset (paddedRequest 2097151)).run Store.empty = pure (⟨413, none⟩, Store.empty) ∧
      413 ∉ [404, 405, 415, 400, 422] := by
  have large : 2097150 < 2097151 := by decide
  exact ⟨.models, document_paddedRequest 2097151, run_unset_paddedRequest large Store.empty,
    by decide⟩

end UsageLedger.Http
