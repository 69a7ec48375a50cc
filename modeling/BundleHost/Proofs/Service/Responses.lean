import BundleHost.Proofs.Resolution.Answer
import BundleHost.Proofs.Security.Profiles
import BundleHost.Proofs.Service.Layers

/-! What comes from the inside of the service, before the security headers are added and the request
is logged: the endpoints and the refusals of the router, with the answers to faults and to the
questions of browsers. All of these responses have a number for their status and headers of a few
names, and no part in there writes to the access log. -/

namespace BundleHost

/-! ### Responses -/

/-- The names of the headers that are made inside, apart from the one that forbids to guess types.
-/
def Response.plainNames : List Text := [
  "content-length", "content-type", "cache-control", "allow", "location", "vary",
  "access-control-allow-methods", "access-control-max-age", "access-control-allow-credentials",
  "access-control-allow-origin", "access-control-allow-headers"]

/-- A response as it is made inside: a number is its status, and it has the header that forbids to
guess types at most once, before headers of other names. -/
structure Response.IsPlain (r : Response) : Prop where
  status : ∃ n : Nat, r.status = .int n
  headers : ∃ rest, (r.headers = rest ∨ r.headers = Headers.ofList [Outcome.noSniff] ++ rest) ∧
    ∀ field ∈ rest, field.1 ∈ plainNames

namespace Response

theorem mem_plainNames_of_content {fields : List (Text × Text)} {mediaType : Text}
    {body : ByteArray} (h : ∀ field ∈ fields, Text.lower field.1 ∈ plainNames) :
    ∀ field ∈ Headers.ofList fields ++ contentHeaders mediaType body, field.1 ∈ plainNames := by
  rw [List.forall_mem_append, Headers.ofList, List.forall_mem_map]
  refine ⟨h, ?_⟩
  simp only [contentHeaders, List.forall_mem_cons]
  exact ⟨by decide, by decide, fun _ hn => absurd hn List.not_mem_nil⟩

theorem isPlain_ofContent (status : Nat) {fields : List (Text × Text)} (mediaType : Text)
    (body : ByteArray) (h : ∀ field ∈ fields, Text.lower field.1 ∈ plainNames) :
    (ofContent status fields mediaType body).IsPlain :=
  ⟨⟨status, rfl⟩, _, .inl rfl, mem_plainNames_of_content h⟩

theorem isPlain_ofContent_noSniff (status : Nat) {fields : List (Text × Text)} (mediaType : Text)
    (body : ByteArray) (h : ∀ field ∈ fields, Text.lower field.1 ∈ plainNames) :
    (ofContent status (Outcome.noSniff :: fields) mediaType body).IsPlain :=
  ⟨⟨status, rfl⟩, _, .inr rfl, mem_plainNames_of_content h⟩

theorem isPlain_json (status : Nat) (v : Value) : (json status [] v).IsPlain :=
  isPlain_ofContent status jsonType _ nofun

theorem status_ne_failure {r : Response} {n : Nat} (h : r.status = .int n) (hn : n ≠ 500) :
    r.status ≠ .int 500 := by
  rw [h]
  intro he
  exact hn (Int.ofNat.inj (Value.int.inj he))

end Response

theorem Outcome.isPlain_answer (o : Outcome) (policy : Text) : (o.answer policy).IsPlain := by
  have hn : Text.lower "Cache-Control" ∈ Response.plainNames := by decide
  have hnames : ∀ value : Text, ∀ field ∈ [(("Cache-Control" : Text), value)],
      Text.lower field.1 ∈ Response.plainNames := by
    intro value field hm
    rw [List.mem_singleton.mp hm]
    exact hn
  cases o with
  | hit key asset => exact Response.isPlain_ofContent_noSniff 200 _ _ (hnames _)
  | fallback key asset => exact Response.isPlain_ofContent_noSniff 200 _ _ (hnames _)
  | miss key reason => exact Response.isPlain_ofContent_noSniff _ _ _ (hnames _)

theorem Routing.isPlain_refusal {request : Request} {decision : Decision} {r : Response}
    (h : refusal request decision = some r) : r.IsPlain := by
  cases decision with
  | run endpoint => cases h
  | wrongMethod allowed =>
    cases h
    refine Response.isPlain_ofContent 405 _ _ ?_
    simp only [List.forall_mem_cons]
    exact ⟨by decide, nofun⟩
  | redirect path =>
    cases h
    refine ⟨⟨307, rfl⟩, _, .inl rfl, ?_⟩
    simp only [Response.redirect, List.forall_mem_cons]
    exact ⟨by decide, by decide, nofun⟩
  | notFound =>
    cases h
    exact Response.isPlain_json 404 _

theorem CrossOrigin.isPlain_answer (origins : List Text) (origin method : Text)
    (request : Request) : (answer origins origin method request).IsPlain := by
  have hof {name : Text} (hn : Text.lower name ∈ Response.plainNames) (value : Option Text) :
      ∀ field ∈ headerOf name value, Text.lower field.1 ∈ Response.plainNames := by
    intro field hm
    rw [headerOf, List.mem_map] at hm
    obtain ⟨v, -, rfl⟩ := hm
    exact hn
  rw [answer]
  split <;>
  · refine Response.isPlain_ofContent _ _ _ ?_
    rw [List.forall_mem_append, List.forall_mem_append]
    refine ⟨⟨?_, hof (by decide) _⟩, hof (by decide) _⟩
    simp only [List.forall_mem_cons]
    exact ⟨by decide, by decide, by decide, by decide, nofun⟩

/-! ### Records -/

/-- A record of another part of the service than the access log. -/
structure Log.Record.IsOther (r : Log.Record) : Prop where
  logger : r.logger ≠ AccessLog.logger
  access : r.access = none

/-- The request goes under the identifier, and nothing about it is in the access log. -/
structure Exchange.IsInner (id : Text) (e : Exchange) : Prop where
  requestId : e.requestId = id
  records : ∀ r ∈ e.records, r.IsOther

theorem Resolver.isOther_of_mem_records {o : Outcome} : ∀ r ∈ records o, r.IsOther := by
  have hl : logger ≠ AccessLog.logger := by decide
  cases o with
  | hit key asset => nofun
  | fallback key asset =>
    simp only [records, List.forall_mem_cons]
    exact ⟨⟨hl, rfl⟩, nofun⟩
  | miss key reason =>
    simp only [records, List.forall_mem_cons]
    exact ⟨⟨hl, rfl⟩, nofun⟩

/-! ### Endpoints -/

namespace Endpoints

/-- What an endpoint comes to: a failure, a page, a body with one of two statuses, the notice that
the root document is missing, or the answer to an outcome. -/
inductive IsAnswer : Answer → Prop
  | failure (f : Failure) : IsAnswer ([], .error f)
  | page (pages : Pages) (p : Routing.Page) : IsAnswer (Endpoints.page pages p)
  | body {status : Nat} (h : status = 200 ∨ status = 422) (v : Value) :
    IsAnswer ([], .ok (.json status [] v))
  | missing (r : Resolver) (v : Value) : IsAnswer ([missingRecord r], .ok (.json 503 [] v))
  | outcome (o : Outcome) (maxAge : Value) : IsAnswer (Resolver.records o, o.respond maxAge)

theorem isAnswer_bundleHealth (i : Installed) : IsAnswer ((bundleHealth i).map id .ok) := by
  rw [bundleHealth]
  split
  · exact .body (.inl rfl) _
  · exact .missing i.resolver _

/-- One case for each endpoint. -/
theorem isAnswer_answer (pages : Pages) (i : Installed) (uptime : Value) (request : Request)
    (endpoint : Routing.Endpoint) : IsAnswer (answer pages i uptime request endpoint) := by
  cases endpoint with
  | page p => exact .page pages p
  | health =>
    rw [answer, health]
    cases uptime.asElapsed with
    | error f => exact .failure f
    | ok seconds => exact .body (.inl rfl) _
  | bundleHealth => exact isAnswer_bundleHealth i
  | assetList =>
    rw [answer, assetList]
    split
    · split
      · exact .body (.inl rfl) _
      · exact .failure _
    · exact .failure _
  | ui path => exact .outcome _ _
  | uiOfQuery =>
    rw [answer, uiOfQuery]
    split
    · exact .outcome _ _
    · exact .body (.inr rfl) _

theorem isAnswer_run (pages : Pages) (installed : Option Installed) (fault : Option Failure)
    (uptime : Value) (request : Request) (endpoint : Routing.Endpoint) :
    IsAnswer (run pages installed fault uptime request endpoint) := by
  unfold run
  split
  · exact .page pages _
  · split
    · exact isAnswer_answer _ _ _ _ _
    · exact .failure _

namespace IsAnswer

variable {a : Answer} {r : Response}

theorem isOther (h : IsAnswer a) : ∀ record ∈ a.1, record.IsOther := by
  have hl : logger ≠ AccessLog.logger := by decide
  cases h with
  | failure f => nofun
  | page pages p => nofun
  | body h v => nofun
  | missing resolver v => exact List.forall_mem_singleton.mpr ⟨hl, rfl⟩
  | outcome o maxAge => exact Resolver.isOther_of_mem_records

theorem isPlain (h : IsAnswer a) (hr : a.2 = .ok r) : r.IsPlain := by
  cases h with
  | failure f => cases hr
  | page pages p =>
    cases hr
    exact Response.isPlain_ofContent 200 _ _ nofun
  | body h v =>
    cases hr
    exact Response.isPlain_json _ v
  | missing resolver v =>
    cases hr
    exact Response.isPlain_json 503 v
  | outcome o maxAge =>
    obtain ⟨policy, -, rfl⟩ := Outcome.of_respond_ok hr
    exact Outcome.isPlain_answer o policy

theorem not_failure (h : IsAnswer a) : ∀ record ∈ a.1, record.logger ≠ FailureLayers.logger := by
  have hl : logger ≠ FailureLayers.logger := by decide
  have hr : Resolver.logger ≠ FailureLayers.logger := by decide
  cases h with
  | failure f => exact List.forall_mem_nil _
  | page pages p => exact List.forall_mem_nil _
  | body h v => exact List.forall_mem_nil _
  | missing resolver v => exact List.forall_mem_singleton.mpr hl
  | outcome o maxAge =>
    cases o with
    | hit key asset => exact List.forall_mem_nil _
    | fallback key asset => exact List.forall_mem_singleton.mpr hr
    | miss key reason => exact List.forall_mem_singleton.mpr hr

theorem status_ne (h : IsAnswer a) (hr : a.2 = .ok r) : r.status ≠ .int 500 := by
  have hok : 200 ≠ 500 := by decide
  have hmiss : ∀ reason, Outcome.missStatus reason ≠ 500 := by
    intro reason
    cases reason <;> decide
  cases h with
  | failure f => cases hr
  | page pages p =>
    cases hr
    exact Response.status_ne_failure rfl hok
  | body h v =>
    cases hr
    exact Response.status_ne_failure rfl (by omega)
  | missing resolver v =>
    cases hr
    exact Response.status_ne_failure rfl (by decide)
  | outcome o maxAge =>
    obtain ⟨policy, -, rfl⟩ := Outcome.of_respond_ok hr
    refine Response.status_ne_failure (Outcome.status_answer o policy) ?_
    cases o with
    | hit key asset => exact hok
    | fallback key asset => exact hok
    | miss key reason => exact hmiss reason

end IsAnswer

variable {pages : Pages} {routes : List Routing.Route} {installed : Option Installed}
  {fault : Option Failure} {uptime : Value}

theorem isInner_handler (id : Text) (request : Request) :
    (handler pages routes installed fault uptime id request).IsInner id := by
  rw [handler]
  split
  · exact ⟨rfl, (isAnswer_run _ _ _ _ _ _).isOther⟩
  · exact ⟨rfl, nofun⟩
  · exact ⟨rfl, nofun⟩

theorem isPlain_of_handler {id : Text} {request : Request} {r : Response}
    (h : (handler pages routes installed fault uptime id request).result = .ok r) : r.IsPlain := by
  rw [handler] at h
  split at h
  · exact (isAnswer_run _ _ _ _ _ _).isPlain h
  · next decision _ _ =>
    cases h
    cases hr : Routing.refusal request decision with
    | none => exact Response.isPlain_json 404 _
    | some refused => exact Routing.isPlain_refusal hr
  · cases h

end Endpoints

/-! ### All that is inside -/

namespace Exchange.IsInner

variable {id : Text} {e : Exchange}

theorem mapResponse (h : e.IsInner id) (f : Response → Response) :
    (e.mapResponse f).IsInner id := ⟨h.requestId, h.records⟩

theorem bindResponse (h : e.IsInner id) (f : Response → Except Failure Response) :
    (e.bindResponse f).IsInner id := ⟨h.requestId, h.records⟩

end Exchange.IsInner

section layers

variable {inner : Handler} {id : Text} {request : Request}

theorem FailureLayers.isInner_answerFaults (h : (inner id request).IsInner id) :
    (answerFaults inner id request).IsInner id := by
  have hl : logger ≠ AccessLog.logger := by decide
  rw [answerFaults]
  split
  · next f _ =>
    refine ⟨h.requestId, ?_⟩
    rw [List.forall_mem_append, List.forall_mem_singleton]
    exact ⟨h.records, hl, rfl⟩
  · exact h

theorem CrossOrigin.isInner_layer (origins : List Text) (h : (inner id request).IsInner id) :
    (layer origins inner id request).IsInner id := by
  rw [layer]
  split
  · exact ⟨rfl, List.forall_mem_nil _⟩
  · exact h.mapResponse _

theorem App.isInner_securityLayer (app : App) (h : (inner id request).IsInner id) :
    (app.securityLayer inner id request).IsInner id := by
  rw [securityLayer]
  split
  · exact h.bindResponse _
  · exact h

end layers

namespace App

variable {app : App} {installed : Option Installed} {fault : Option Failure} {occasion : Occasion}
  {id : Text} {request : Request} {r : Response}

/-- The endpoints with the answers to faults and to the questions of browsers. -/
def core (app : App) (installed : Option Installed) (fault : Option Failure)
    (occasion : Occasion) : Handler :=
  CrossOrigin.layer app.origins <| FailureLayers.answerFaults <|
    Endpoints.handler app.pages app.routes installed fault occasion.uptime

/-- All that the access log is around. -/
def inner (app : App) (installed : Option Installed) (fault : Option Failure)
    (occasion : Occasion) : Handler :=
  app.securityLayer <|
    Compression.layer app.values.gzipMinimumSize app.values.gzipLevel <|
      app.core installed fault occasion

theorem handler_eq (app : App) (installed : Option Installed) (fault : Option Failure)
    (occasion : Occasion) :
    app.handler installed fault occasion =
      RequestId.layer occasion
        (AccessLog.layer occasion app.uiPrefix (app.inner installed fault occasion)) := rfl

theorem isInner_core (app : App) (installed : Option Installed) (fault : Option Failure)
    (occasion : Occasion) (id : Text) (request : Request) :
    (app.core installed fault occasion id request).IsInner id :=
  CrossOrigin.isInner_layer _
    (FailureLayers.isInner_answerFaults (Endpoints.isInner_handler id request))

theorem isInner_inner (app : App) (installed : Option Installed) (fault : Option Failure)
    (occasion : Occasion) (id : Text) (request : Request) :
    (app.inner installed fault occasion id request).IsInner id :=
  app.isInner_securityLayer ((app.isInner_core installed fault occasion id request).bindResponse _)

theorem of_core_ok (h : (app.core installed fault occasion id request).result = .ok r) :
    ∃ first : Response, first.IsPlain ∧ first.AgreesBut CrossOrigin.changed r := by
  obtain ⟨origin, method, -, rfl⟩ | ⟨first, hfirst, ha⟩ := CrossOrigin.of_layer_ok h
  · exact ⟨_, CrossOrigin.isPlain_answer _ _ _ _, .refl _ _⟩
  · refine ⟨first, ?_, ha⟩
    obtain hfirst | ⟨f, message, -, -, rfl⟩ := FailureLayers.of_answerFaults_ok hfirst
    · exact Endpoints.isPlain_of_handler hfirst
    · exact Response.isPlain_json 500 _

/-- Where a response comes from that reaches the access log. -/
theorem of_inner_ok (h : (app.inner installed fault occasion id request).result = .ok r) :
    ∃ first second : Response, first.IsPlain ∧
      first.AgreesBut (CrossOrigin.changed ++ Compression.changed) second ∧
      r = { second with headers := Security.secure app.rendered second.headers } := by
  obtain ⟨second, hsecond, rfl⟩ := of_securityLayer_ok h
  obtain ⟨shared, hshared, hc⟩ := Exchange.ok_of_bindResponse hsecond
  obtain ⟨first, hp, ha⟩ := of_core_ok hshared
  exact ⟨first, second, hp, ha.trans (Compression.agreesBut_of_respond hc), rfl⟩

/-- A number is the status of every response that reaches the access log. -/
theorem status_of_inner_ok (h : (app.inner installed fault occasion id request).result = .ok r) :
    ∃ n : Nat, r.status = .int n := by
  obtain ⟨first, second, hp, ha, rfl⟩ := of_inner_ok h
  obtain ⟨n, hn⟩ := hp.status
  exact ⟨n, ha.status.trans hn⟩

/-! ### Replies -/

theorem respond_of_ok (h : (app.handler installed fault occasion [] request).result = .ok r) :
    (app.respond installed fault occasion request).1 = { response := some r } := by
  rw [respond, FailureLayers.answerFailures, h]

theorem respond_of_error {f : Failure}
    (h : (app.handler installed fault occasion [] request).result = .error f) :
    (app.respond installed fault occasion request).1 =
      { response := some (FailureLayers.failureResponse (RequestId.choose occasion.freshId request))
        raised := some f } := by
  rw [respond, FailureLayers.answerFailures, h]
  rfl

end App
end BundleHost
