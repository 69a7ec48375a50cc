import BundleHost.Proofs.Service.Responses
import BundleHost.Proofs.Settings.Checked

/-! Responses go through all layers of a service that was made from checked settings, as long as the
clock shows times and the client has an address: none of the layers turns them into a failure, and
none changes the status, the body or the type of the body. -/

namespace BundleHost

/-- A response that delivers contents of a media type. -/
structure Response.Delivers (r : Response) (body : ByteArray) (mediaType : Text) : Prop where
  status : r.status = .int 200
  body_eq : r.body = body
  contentType : r.headers.get? "content-type" = some mediaType

def Exchange.Delivers (e : Exchange) (body : ByteArray) (mediaType : Text) : Prop :=
  ∃ r, e.result = .ok r ∧ r.Delivers body mediaType

theorem Response.Delivers.of_agreesBut {r r' : Response} {names : List Text} {body : ByteArray}
    {mediaType : Text} (hr : r.Delivers body mediaType) (h : r.AgreesBut names r')
    (ha : ∀ name ∈ names, Headers.Apart name "content-type") : r'.Delivers body mediaType where
  status := h.status.trans hr.status
  body_eq := h.body_eq.trans hr.body_eq
  contentType := (Headers.get?_of_values_eq (h.values_eq _ ha)).trans hr.contentType

namespace App

variable {app : App} {pages : Endpoints.Pages} {s : Settings} {g : Option GivenRegistry}
  {installed : Option Installed} {fault : Option Failure} {occasion : Occasion} {id : Text}
  {request : Request} {r : Response}

def changed (app : App) : List Text :=
  CrossOrigin.changed ++
    (Compression.changed ++ app.rendered.map Prod.fst ++ [RequestId.header])

theorem IsMade.profile (h : app.IsMade pages s.values g) :
    Security.Config.ofProfile? s.securityProfile = some app.security :=
  ofProfile?_of_securityOf h.security

theorem apart_contentType (app : App) :
    ∀ name ∈ app.changed, Headers.Apart name "content-type" := by
  have hall : ∀ name ∈ Security.headerNames, Headers.Apart name "content-type" := by
    decide +kernel
  simp only [changed, List.forall_mem_append, List.forall_mem_map]
  have hnames := Security.names_of_headers app.isRendered
  exact ⟨by decide, ⟨by decide, fun field hf => hall _ (hnames.subset (List.mem_map_of_mem hf))⟩,
    by decide⟩

/-! ### Through the layers -/

theorem core_ok (hq : CrossOrigin.askedMethod? request = none)
    (h : (Endpoints.handler app.pages app.routes installed fault occasion.uptime id
      request).result = .ok r) :
    ∃ r', (app.core installed fault occasion id request).result = .ok r' ∧
      r.AgreesBut CrossOrigin.changed r' := by
  obtain ⟨r', hr', ha⟩ := CrossOrigin.layer_ok app.origins (FailureLayers.answerFaults_ok h)
  exact ⟨r', hr', ha hq⟩

theorem IsMade.inner_ok (h : app.IsMade pages s.values g) (hf : s.Fit)
    (hr : (app.core installed fault occasion id request).result = .ok r) :
    ∃ r', (app.inner installed fault occasion id request).result = .ok r' ∧
      r.AgreesBut (Compression.changed ++ app.rendered.map Prod.fst) r' := by
  have hlevel : Compression.levelFailure? (.int s.gzipLevel) = none :=
    Compression.levelFailure?_of_mem hf.gzipLevel.1 hf.gzipLevel.2
  obtain ⟨second, hsecond, ha⟩ := Compression.layer_ok s.gzipMinimumSize hlevel hr
  refine ⟨_, ?_, ha.trans (Security.agreesBut_secure app.rendered second)⟩
  rw [inner, h.values]
  exact securityLayer_ok (Security.isSendable_of_mem_headers h.profile app.isRendered) hsecond

/-- What is answered inside leaves the service, and nothing is handed on to the server. -/
theorem IsMade.respond_core (h : app.IsMade pages s.values g) (hf : s.Fit)
    (hl : AccessLog.IsLoggable occasion request)
    (hr : (app.core installed fault occasion (RequestId.choose occasion.freshId request)
      request).result = .ok r) :
    ∃ r', (app.respond installed fault occasion request).1 = { response := some r' } ∧
      r.AgreesBut (Compression.changed ++ app.rendered.map Prod.fst ++
        [RequestId.header]) r' := by
  obtain ⟨r', hr', ha⟩ := h.inner_ok hf hr
  obtain ⟨n, hn⟩ := status_of_inner_ok hr'
  have hlogged := AccessLog.layer_ok app.uiPrefix hl hr' hn
  have hresult := RequestId.layer_ok occasion [] hlogged
  refine ⟨_, ?_, ha.trans (RequestId.agreesBut_set (RequestId.choose occasion.freshId request) r')⟩
  rw [respond, handler_eq, FailureLayers.answerFailures, hresult]

/-- What an endpoint answers leaves the service, unless the request is a question of a browser. -/
theorem IsMade.respond_endpoint (h : app.IsMade pages s.values g) (hf : s.Fit)
    (ht : occasion.IsTimed) (hc : ∃ host, Address.clientHost request = .ok host)
    (hq : CrossOrigin.askedMethod? request = none)
    (hr : (Endpoints.handler app.pages app.routes installed fault occasion.uptime
      (RequestId.choose occasion.freshId request) request).result = .ok r) :
    ∃ r', (app.respond installed fault occasion request).1 = { response := some r' } ∧
      r.AgreesBut app.changed r' := by
  obtain ⟨first, hfirst, ha⟩ := core_ok hq hr
  obtain ⟨r', hr', ha'⟩ := h.respond_core hf (.inr ⟨ht, hc⟩) hfirst
  exact ⟨r', hr', ha.trans ha'⟩

end App
end BundleHost
