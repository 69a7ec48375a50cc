import BundleHost.Proofs.Service.CommonHeaders
import BundleHost.Proofs.Service.Identifier

/-! Where the identifier of a request is found: in its record in the access log, in the line about a
failure, in the header of its response, and in the body of a response with the status of a failure.
All of these have the identifier that was chosen when the request came in. -/

namespace BundleHost

/-- A record of the access log is about the identifier, and has it between brackets; the line about
a failure starts with it. -/
structure Log.Record.Names (id : Text) (r : Record) : Prop where
  access : r.logger = AccessLog.logger → ∃ a, r.access = some a ∧ a.requestId = id ∧
    ∃ before after, r.message = before ++ '[' :: id ++ ']' :: after
  failure : r.logger = FailureLayers.logger → ∃ rest, r.message = '[' :: id ++ ("] " : Text) ++ rest

/-- A response with the status of a failure has the identifier in its body. -/
def Response.ReportsUnder (id : Text) (r : Response) : Prop :=
  r.status = .int 500 → ∃ fields : Fields, r.body = Text.utf8 (Value.record fields).toJson ∧
    fields.get? "request_id" = some (.text id)

/-- The header is sent unless the request ends in a failure that is handed on. -/
structure Reply.Names (id : Text) (reply : Reply) : Prop where
  answered : ∃ r, reply.response = some r
  sent : reply.raised = none →
    ∀ r, reply.response = some r → r.headers.values RequestId.header = [id]
  raised : reply.raised ≠ none →
    ∀ r, reply.response = some r → r.headers.values RequestId.header = []
  body : ∀ r, reply.response = some r → r.ReportsUnder id

variable {id : Text} {request : Request} {inner : Handler} {r r' : Response}

theorem Response.ReportsUnder.of_content (h : r.ReportsUnder id) (hs : r'.status = r.status)
    (hb : r'.body = r.body) : r'.ReportsUnder id := by
  intro h500
  rw [hb]
  exact h (hs ▸ h500)

/-! ### Failures -/

namespace FailureLayers

theorem logger_ne : logger ≠ AccessLog.logger := by decide

theorem reportsUnder_report (code message id : Text) : (report code message id).ReportsUnder id :=
  fun _ => ⟨_, rfl, rfl⟩

theorem names_faultRecord (id : Text) (f : Fault) : (faultRecord id f).Names id where
  access := fun h => absurd h logger_ne
  failure := fun _ => ⟨f.kind.label ++ (": " : Text) ++ f.messageText ++ f.contextText, by
    simp [faultRecord]⟩

theorem names_failureRecord (id : Text) (f : Failure) : (failureRecord id f).Names id where
  access := fun h => absurd h logger_ne
  failure := fun _ => ⟨("Unexpected error: " : Text) ++ f.message, by simp [failureRecord]⟩

theorem names_answerFaults (he : (inner id request).requestId = id)
    (h : ∀ record ∈ (inner id request).records, record.Names id) :
    ∀ record ∈ (answerFaults inner id request).records, record.Names id := by
  rw [answerFaults]
  split
  · next f _ =>
    rw [List.forall_mem_append, List.forall_mem_singleton, he]
    exact ⟨h, names_faultRecord id f⟩
  · exact h

end FailureLayers

/-! ### Inside -/

theorem Endpoints.names_of_handler {pages : Pages} {routes : List Routing.Route}
    {installed : Option Installed} {fault : Option Failure} {uptime : Value} :
    ∀ record ∈ (handler pages routes installed fault uptime id request).records,
      record.Names id := by
  rw [handler]
  split
  · next endpoint _ =>
    have ha : IsAnswer (run pages installed fault uptime request endpoint) :=
      isAnswer_run _ _ _ _ _ _
    exact fun record hm => ⟨fun h => absurd h (ha.isOther record hm).logger,
      fun h => absurd h (ha.not_failure record hm)⟩
  · exact List.forall_mem_nil _
  · exact List.forall_mem_nil _

theorem Routing.status_refusal_ne {decision : Decision} (h : refusal request decision = some r) :
    r.status ≠ .int 500 := by
  cases decision with
  | run endpoint => cases h
  | wrongMethod allowed =>
    cases h
    exact Response.status_ne_failure rfl (by decide)
  | redirect path =>
    cases h
    exact Response.status_ne_failure rfl (by decide)
  | notFound =>
    cases h
    exact Response.status_ne_failure rfl (by decide)

theorem Endpoints.status_of_handler_ne {pages : Pages} {routes : List Routing.Route}
    {installed : Option Installed} {fault : Option Failure} {uptime : Value}
    (h : (handler pages routes installed fault uptime id request).result = .ok r) :
    r.status ≠ .int 500 := by
  rw [handler] at h
  split at h
  · exact (isAnswer_run _ _ _ _ _ _).status_ne h
  · next decision _ _ =>
    cases h
    cases hr : Routing.refusal request decision with
    | none => exact Response.status_ne_failure rfl (by decide)
    | some refused => exact Routing.status_refusal_ne hr
  · cases h

theorem CrossOrigin.status_answer_ne (origins : List Text) (origin method : Text)
    (request : Request) : (answer origins origin method request).status ≠ .int 500 := by
  rw [answer]
  split
  · exact Response.status_ne_failure rfl (by decide)
  · exact Response.status_ne_failure rfl (by decide)

namespace App

variable {app : App} {installed : Option Installed} {fault : Option Failure} {occasion : Occasion}

theorem names_core :
    ∀ record ∈ (app.core installed fault occasion id request).records, record.Names id := by
  rw [core, CrossOrigin.layer]
  split
  · exact List.forall_mem_nil _
  · exact FailureLayers.names_answerFaults (Endpoints.isInner_handler id request).requestId
      Endpoints.names_of_handler

theorem names_inner :
    ∀ record ∈ (app.inner installed fault occasion id request).records, record.Names id := by
  rw [inner, securityLayer]
  split
  · exact names_core
  · exact names_core

/-- Only an answer to a fault has the status of a failure. -/
theorem reportsUnder_of_core_ok
    (h : (app.core installed fault occasion id request).result = .ok r) : r.ReportsUnder id := by
  obtain ⟨origin, method, -, rfl⟩ | ⟨first, hfirst, ha⟩ := CrossOrigin.of_layer_ok h
  · exact fun h500 => absurd h500 (CrossOrigin.status_answer_ne _ _ _ _)
  · refine Response.ReportsUnder.of_content ?_ ha.status ha.body_eq
    obtain hfirst | ⟨f, message, -, -, rfl⟩ := FailureLayers.of_answerFaults_ok hfirst
    · exact fun h500 => absurd h500 (Endpoints.status_of_handler_ne hfirst)
    · rw [(Endpoints.isInner_handler id request).requestId]
      exact FailureLayers.reportsUnder_report _ message id

theorem reportsUnder_of_inner_ok
    (h : (app.inner installed fault occasion id request).result = .ok r) : r.ReportsUnder id := by
  obtain ⟨compressed, hcompressed, rfl⟩ := of_securityLayer_ok h
  obtain ⟨shared, hshared, hc⟩ := Exchange.ok_of_bindResponse hcompressed
  have ha : shared.AgreesBut Compression.changed compressed := Compression.agreesBut_of_respond hc
  exact (reportsUnder_of_core_ok hshared).of_content ha.status ha.body_eq

end App

/-! ### Outside -/

theorem AccessLog.names_of_record_ok {arrival : Arrival} {finished : Number} {uiPrefix : Text}
    {status : Value} {noted : Log.Record}
    (h : record arrival finished uiPrefix id request status = .ok noted) : noted.Names id := by
  obtain ⟨level, whole, -, rfl⟩ := of_record_ok h
  exact ⟨fun _ => ⟨_, rfl, rfl, line_eq _ whole _⟩, fun h => absurd h.symm FailureLayers.logger_ne⟩

namespace App

theorem names_handler (app : App) (installed : Option Installed) (fault : Option Failure)
    (occasion : Occasion) (outer : Text) (request : Request) :
    ∀ record ∈ (app.handler installed fault occasion outer request).records,
      record.Names (RequestId.choose occasion.freshId request) := by
  have hp := AccessLog.passes_layer occasion app.uiPrefix (app.inner installed fault occasion)
    (RequestId.choose occasion.freshId request) request
  exact hp.forall_records names_inner AccessLog.names_of_record_ok

theorem reportsUnder_of_handler_ok {app : App} {installed : Option Installed}
    {fault : Option Failure} {occasion : Occasion} {outer : Text}
    (h : (app.handler installed fault occasion outer request).result = .ok r) :
    r.ReportsUnder (RequestId.choose occasion.freshId request) := by
  rw [handler_eq] at h
  obtain ⟨logged, hlogged, rfl⟩ := RequestId.of_layer_ok h
  have hinner := (AccessLog.of_layer_ok hlogged).1
  exact (reportsUnder_of_inner_ok hinner).of_content rfl rfl

/-- All that is logged for a request, and its reply, have the identifier that is chosen for it. -/
theorem names_respond (app : App) (installed : Option Installed) (fault : Option Failure)
    (occasion : Occasion) (request : Request) :
    (app.respond installed fault occasion request).1.Names
        (RequestId.choose occasion.freshId request) ∧
      ∀ record ∈ (app.respond installed fault occasion request).2,
        record.Names (RequestId.choose occasion.freshId request) := by
  have hlogged := app.names_handler installed fault occasion [] request
  have hshows := app.shows_choose installed fault occasion [] request
  rw [respond, FailureLayers.answerFailures]
  cases hr : (app.handler installed fault occasion [] request).result with
  | ok response =>
    refine ⟨⟨⟨_, rfl⟩, ?_, fun h => absurd rfl h, ?_⟩, hlogged⟩
    · rintro - r ⟨⟩
      exact hshows.header response hr
    · rintro r ⟨⟩
      exact reportsUnder_of_handler_ok hr
  | error f =>
    dsimp only
    rw [List.forall_mem_append, List.forall_mem_singleton, hshows.requestId]
    have hraised : some f ≠ none := Option.some_ne_none f
    refine ⟨⟨⟨_, rfl⟩, fun h => absurd h hraised, ?_, ?_⟩, hlogged,
      FailureLayers.names_failureRecord _ f⟩
    · rintro - r ⟨⟩
      exact (FailureLayers.lacksCommon_failureResponse _ app.isRendered).1
    · rintro r ⟨⟩
      exact FailureLayers.reportsUnder_report _ _ _

end App
end BundleHost
