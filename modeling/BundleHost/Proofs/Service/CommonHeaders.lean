import BundleHost.Proofs.Service.Identifier
import BundleHost.Proofs.Service.Installation

/-! The headers that all responses are to have: the identifier of the request and the security
headers of the profile. Every response that is made inside of the layers has each of them exactly
once. The answer to a failure that is handed on to the server is made outside of the layers and has
none. -/

namespace BundleHost

/-! ### Security headers -/

namespace Security

variable {c : Config} {rendered : List (Text × Text)} {field : Text × Text}

theorem mem_headerNames (hr : c.headers = .ok rendered) (hf : field ∈ rendered) :
    field.1 ∈ headerNames :=
  (names_of_headers hr).subset (List.mem_map_of_mem hf)

/-- No layer around the endpoints changes a security header. -/
theorem apart_of_mem_headerNames (hf : field.1 ∈ headerNames) :
    ∀ name ∈ RequestId.header :: (CrossOrigin.changed ++ Compression.changed),
      Headers.Apart name field.1 := by
  have hall : ∀ other ∈ headerNames,
      ∀ name ∈ RequestId.header :: (CrossOrigin.changed ++ Compression.changed),
        Headers.Apart name other := by decide +kernel
  exact hall field.1 hf

theorem values_of_plainNames {hs : Headers} (hn : ∀ other ∈ hs, other.1 ∈ Response.plainNames)
    (hf : field.1 ∈ headerNames) : hs.values field.1 = [] := by
  have hall : ∀ name ∈ headerNames, ∀ other ∈ Response.plainNames,
      Headers.sameName other name = false := by decide +kernel
  exact Headers.values_eq_nil fun other ho => hall field.1 hf other.1 (hn other ho)

/-- The header that forbids to guess types has the value that all configurations give it. -/
theorem values_noSniff (hr : c.headers = .ok rendered) (hf : field ∈ rendered) :
    Headers.values (Headers.ofList [Outcome.noSniff]) field.1 = [] ∨
      Headers.values (Headers.ofList [Outcome.noSniff]) field.1 = [field.2] := by
  have hall : ∀ name ∈ headerNames,
      Headers.values (Headers.ofList [Outcome.noSniff]) name = [] ∨
        Headers.values (Headers.ofList [Outcome.noSniff]) name = ["nosniff"] ∧
          name = "X-Content-Type-Options" := by decide +kernel
  rcases hall field.1 (mem_headerNames hr hf) with hnone | ⟨hv, hn⟩
  · exact .inl hnone
  · rw [hv, eq_nosniff_of_headers hr hf hn]
    exact .inr rfl

theorem admits_of_isPlain {r : Response} (hp : r.IsPlain) (hr : c.headers = .ok rendered) :
    Admits r.headers rendered := by
  obtain ⟨rest, hheaders, hnames⟩ := hp.headers
  intro field hf
  have hrest := values_of_plainNames hnames (mem_headerNames hr hf)
  rcases hheaders with he | he
  · rw [he]
    exact .inl hrest
  · rw [he, Headers.values_append, hrest, List.append_nil]
    exact values_noSniff hr hf

end Security

/-! ### Responses -/

/-- A response with the identifier and all security headers. -/
structure Response.HasCommon (r : Response) (id : Text) (rendered : List (Text × Text)) :
    Prop where
  requestId : r.headers.values RequestId.header = [id]
  security : ∀ field ∈ rendered, r.headers.values field.1 = [field.2]

/-- A response with none of these headers. -/
structure Response.LacksCommon (r : Response) (rendered : List (Text × Text)) : Prop where
  requestId : r.headers.values RequestId.header = []
  security : ∀ field ∈ rendered, r.headers.values field.1 = []

/-- The answer to a failure is made outside of the layers. -/
theorem FailureLayers.lacksCommon_failureResponse (id : Text) {c : Security.Config}
    {rendered : List (Text × Text)} (hr : c.headers = .ok rendered) :
    (failureResponse id).LacksCommon rendered := by
  have hnames : ∀ field ∈ (failureResponse id).headers, field.1 ∈ Response.plainNames :=
    Response.mem_plainNames_of_content nofun
  have hid : ∀ name ∈ Response.plainNames, Headers.sameName name RequestId.header = false := by
    decide
  exact ⟨Headers.values_eq_nil fun field hf => hid _ (hnames field hf),
    fun _ hf => Security.values_of_plainNames hnames (Security.mem_headerNames hr hf)⟩

namespace App

variable {app : App} {pages : Endpoints.Pages} {s : Settings} {installed : Option Installed}
  {fault : Option Failure} {occasion : Occasion} {id : Text} {request : Request} {r : Response}

theorem values_of_inner_ok
    (hr : (app.inner installed fault occasion id request).result = .ok r) :
    ∀ field ∈ app.rendered, r.headers.values field.1 = [field.2] := by
  obtain ⟨first, second, hp, ha, rfl⟩ := of_inner_ok hr
  have hadmits : Security.Admits second.headers app.rendered := by
    intro field hf
    rw [ha.values_eq field.1 fun name hn => Security.apart_of_mem_headerNames
      (Security.mem_headerNames app.isRendered hf) name (List.mem_cons_of_mem _ hn)]
    exact Security.admits_of_isPlain hp app.isRendered field hf
  intro field hf
  exact Security.values_secure
    (Security.areDistinct_of_names (Security.names_of_headers app.isRendered)) hadmits hf

theorem hasCommon {outer : Text}
    (hr : (app.handler installed fault occasion outer request).result = .ok r) :
    r.HasCommon (RequestId.choose occasion.freshId request) app.rendered := by
  obtain ⟨first, hfirst, rfl⟩ := RequestId.of_layer_ok hr
  have hinner := values_of_inner_ok (AccessLog.of_layer_ok hfirst).1
  refine ⟨Headers.values_set_self (by decide) _ _, fun field hf => ?_⟩
  show (first.headers.set RequestId.header _).values field.1 = _
  have hname := Security.mem_headerNames app.isRendered hf
  rw [Headers.values_set (Security.apart_of_mem_headerNames hname _ List.mem_cons_self)]
  exact hinner field hf

/-- At any time of the life of a service that was made from checked settings, a request gets a
reply. If nothing is handed on to the server, the response has the identifier of the request, which
is what the client chose or eight fresh digits, and the security headers of the profile, each of
them once. If a failure is handed on, it has none of them. A failure is handed on exactly if the
request has no answer. -/
theorem common_headers_of_reply {given : Fields} (hs : Settings.check given = .valid s)
    {registry : Option Registry}
    (hmake : make pages s.values (registry.map .ofRegistry) = .ok app) :
    ∃ c rendered, Security.Config.ofProfile? s.securityProfile = some c ∧
    c.headers = .ok rendered ∧
    ∀ events state seen, app.run app.initial events = .ok (state, seen) →
    ∀ occasion request fault bits, occasion.freshId = RequestId.fresh bits →
    ∃ id reply response, RequestId.Names bits request id ∧
      (app.answer state occasion request fault).2.reply = some reply ∧
      reply.response = some response ∧
      (reply.raised = none → response.HasCommon id rendered) ∧
      (∀ f, reply.raised = some f →
        response = FailureLayers.failureResponse id ∧ response.LacksCommon rendered) ∧
      (reply.raised = none ↔ app.HasAnswer state.installed fault occasion request) := by
  have hf : s.Fit := Settings.fit_of_check hs
  have hm : app.IsMade pages s.values (registry.map .ofRegistry) := isMade_of_make hmake
  refine ⟨app.security, app.rendered, hm.profile, app.isRendered, ?_⟩
  intro events state seen hrun occasion request fault bits hfresh
  have hid := RequestId.names_choose bits request
  rw [← hfresh] at hid
  have hbound : IsBound s state.installed := hm.isBound_run hm.isBound_handedOver hrun
  have hraised := hm.raised_eq_none_iff hf hbound occasion request fault
  cases hr : (app.handler state.installed fault occasion [] request).result with
  | ok response =>
    have hreply := respond_of_ok hr
    rw [hreply] at hraised
    exact ⟨_, _, response, hid, congrArg some hreply, rfl, fun _ => hasCommon hr, nofun, hraised⟩
  | error failure =>
    have hreply := respond_of_error hr
    rw [hreply] at hraised
    exact ⟨_, _, _, hid, congrArg some hreply, rfl, nofun, fun f _ =>
      ⟨rfl, FailureLayers.lacksCommon_failureResponse _ app.isRendered⟩, hraised⟩

/-- A request before the start gets a response without these headers. -/
theorem lacks_common_before_start :
    ∃ app, make Endpoints.blankPages ({} : Settings).values none = .ok app ∧
    ∃ rendered reply response,
      Security.Config.headers {} = .ok rendered ∧
      (app.answer app.initial { freshId := "0badc0de" } { path := "/api/embedded/health" }
        none).2.reply = some reply ∧
      reply.response = some response ∧ reply.raised ≠ none ∧ response.LacksCommon rendered := by
  obtain ⟨app, hmake, hnone, hroute⟩ := exists_unstarted Endpoints.blankPages
  obtain ⟨c, rendered, hc, hrendered, hall⟩ := common_headers_of_reply Settings.check_nil
    (show make _ _ ((none : Option Registry).map .ofRegistry) = _ from hmake)
  cases hc
  have hfresh : ({ freshId := "0badc0de" } : Occasion).freshId = RequestId.fresh 0x0badc0de := by
    decide
  obtain ⟨id, reply, response, -, hreply, hresponse, -, hlacks, hraised⟩ := hall [] app.initial []
    rfl { freshId := "0badc0de" } { path := "/api/embedded/health" } none _ hfresh
  have hne : reply.raised ≠ none := by
    rw [Ne, hraised, hnone]
    exact not_hasAnswer_of_uninstalled rfl hroute nofun
  obtain ⟨f, hf⟩ := Option.ne_none_iff_exists'.mp hne
  exact ⟨app, hmake, rendered, reply, response, hrendered, hreply, hresponse, hne,
    (hlacks f hf).2⟩

end App
end BundleHost
