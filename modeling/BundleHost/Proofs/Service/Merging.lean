import BundleHost.Proofs.Resolution.Caching
import BundleHost.Proofs.Service.Installation

/-! How the security headers are added to the headers that a response has already. All of these stay
where they are, and after them come the headers of the configuration whose names are not among them,
in their order, each once; to add them a second time adds nothing. A value that cannot be sent turns
the response into a failure, but only if it is one of those that are to be added. The responses with
files come with the header that forbids to guess types, so that they have it once in every profile.
-/

namespace BundleHost

/-! ### Merging headers -/

namespace Security

variable {rendered : List (Text × Text)} {h : Headers} {field : Text × Text}

/-- The headers after a merge: what was there, and after it what was missing. -/
structure Merged (rendered : List (Text × Text)) (h h' : Headers) : Prop where
  eq_append : h' = h ++ added rendered h
  kept : ∀ name, h.contains name = true → h'.values name = h.values name
  once : ∀ field ∈ rendered, h.contains field.1 = false → h'.values field.1 = [field.2]
  again : secure rendered h' = h'

theorem contains_secure (hd : AreDistinct rendered) (hf : field ∈ rendered) :
    (secure rendered h).contains field.1 = true := by
  cases hc : h.contains field.1 with
  | true => rw [secure_eq_append hd, Headers.contains_append, hc, Bool.true_or]
  | false =>
    rw [Headers.contains_eq_isEmpty_values, values_secure_of_missing hd hf hc]
    rfl

theorem secure_secure (hd : AreDistinct rendered) (h : Headers) :
    secure rendered (secure rendered h) = secure rendered h := by
  have hnone : added rendered (secure rendered h) = [] := by
    rw [List.eq_nil_iff_forall_not_mem]
    intro other hm
    obtain ⟨field, hf, hn, -⟩ := mem_added.mp hm
    rw [contains_secure hd hf] at hn
    cases hn
  rw [secure_eq_append hd (secure rendered h), hnone, List.append_nil]

theorem merged_secure (hd : AreDistinct rendered) (h : Headers) :
    Merged rendered h (secure rendered h) where
  eq_append := secure_eq_append hd h
  kept _ := values_secure_of_contains hd
  once _ := values_secure_of_missing hd
  again := secure_secure hd h

/-! ### The layer -/

theorem of_unsendable? {value : Text} (hv : unsendable? rendered h = some value) :
    ∃ field ∈ rendered, h.contains field.1 = false ∧ HeaderValue.isSendable field.2 = false ∧
      field.2 = value := by
  rw [unsendable?, Option.map_eq_some_iff] at hv
  obtain ⟨field, hfind, rfl⟩ := hv
  have hp := List.find?_some hfind
  rw [Bool.and_eq_true, Bool.not_eq_true', Bool.not_eq_true'] at hp
  exact ⟨field, List.mem_of_find?_eq_some hfind, hp.1, hp.2, rfl⟩

/-- What the layer makes of what comes from inside. -/
structure LayerMerges (rendered : List (Text × Text)) (inner : Handler) (id : Text)
    (request : Request) : Prop where
  passes : ∀ f, (inner id request).result = .error f →
    (layer rendered inner id request).result = .error f
  merges : ∀ r, (inner id request).result = .ok r → CanBeAdded rendered r.headers →
    (layer rendered inner id request).result =
      .ok { r with headers := secure rendered r.headers }
  /-- One of the headers that are missing cannot be sent. -/
  fails : ∀ r, (inner id request).result = .ok r → ¬ CanBeAdded rendered r.headers →
    ∃ field ∈ rendered, r.headers.contains field.1 = false ∧
      HeaderValue.isSendable field.2 = false ∧ (layer rendered inner id request).result =
        .error (.unencodable (HeaderValue.complaint field.2))

theorem layerMerges (rendered : List (Text × Text)) (inner : Handler) (id : Text)
    (request : Request) : LayerMerges rendered inner id request where
  passes f hf := by
    rw [layer, Exchange.bindResponse, hf]
    rfl
  merges _ hr hc := layer_ok hc hr
  fails r hr hc := by
    rw [← unsendable?_eq_none] at hc
    obtain ⟨value, hv⟩ := Option.ne_none_iff_exists'.mp hc
    obtain ⟨field, hf, hn, hs, rfl⟩ := of_unsendable? hv
    refine ⟨field, hf, hn, hs, ?_⟩
    rw [layer, Exchange.result_bindResponse _ hr, hv]

/-- A response that came out of a merge passes another one as it is. -/
theorem layer_layer (hd : AreDistinct rendered) (inner : Handler) :
    layer rendered (layer rendered inner) = layer rendered inner := by
  funext id request
  refine Exchange.bindResponse_bindResponse (fun r r' hr => ?_) (inner id request)
  split at hr
  · cases hr
  · cases hr
    have hnone : unsendable? rendered (secure rendered r.headers) = none := by
      rw [unsendable?_eq_none]
      intro field hf hc
      rw [contains_secure hd hf] at hc
      cases hc
    dsimp only
    rw [hnone, secure_secure hd]

end Security

/-! ### Files -/

theorem Outcome.values_noSniff_answer (o : Outcome) (policy : Text) :
    (o.answer policy).headers.values "X-Content-Type-Options" = ["nosniff"] := by
  cases o with
  | hit key asset => rw [answer, headers_sendAsset, values_noSniff_headersOf]
  | fallback key asset => rw [answer, headers_sendAsset, values_noSniff_headersOf]
  | miss key reason => rw [headers_miss, values_noSniff_headersOf]

/-- Every configuration leaves that header alone, whether it has it too or not. -/
theorem Security.values_noSniff_secure {rendered : List (Text × Text)} {h : Headers}
    (hd : AreDistinct rendered) (hv : h.values "X-Content-Type-Options" = ["nosniff"]) :
    (secure rendered h).values "X-Content-Type-Options" = ["nosniff"] := by
  have hc : h.contains "X-Content-Type-Options" = true := by
    rw [Headers.contains_eq_isEmpty_values, hv]
    rfl
  rw [values_secure_of_contains hd hc, hv]

namespace Endpoints

/-- The request goes to the interface, and asks for a path in it. -/
inductive AsksInterface (routes : List Routing.Route) (request : Request) : Text → Prop
  | below {path : Text}
      (decides : Routing.decide routes request.method request.path = .ok (.run (.ui path))) :
      AsksInterface routes request path
  | ofQuery {path : Text}
      (decides : Routing.decide routes request.method request.path = .ok (.run .uiOfQuery))
      (names : Query.value? request.query Routing.pathName = some path) :
      AsksInterface routes request path

theorem AsksInterface.result_handler {routes : List Routing.Route} {request : Request}
    {path : Text} (h : AsksInterface routes request path) {s : Settings} (hf : s.Fit)
    (pages : Pages) (registry : Registry) (uptime : Value) (id : Text) :
    ∃ policy, (handler pages routes (some (App.installation s registry)) none uptime id
      request).result = .ok (((s.resolver registry).resolveRequest path).answer policy) := by
  have hui : ∃ policy, (ui (App.installation s registry) path).2 =
      .ok (((s.resolver registry).resolveRequest path).answer policy) :=
    ⟨_, Outcome.respond_int _ hf.isShort_cacheMaxAge⟩
  cases h with
  | below decides =>
    rw [handler, decides]
    exact hui
  | ofQuery decides names =>
    rw [handler, decides]
    show ∃ policy, (uiOfQuery (App.installation s registry) request.query).2 = _
    rw [uiOfQuery, names]
    exact hui

end Endpoints

namespace App

variable {app : App} {pages : Endpoints.Pages} {s : Settings} {g : Option GivenRegistry}
  {installed : Option Installed} {occasion : Occasion} {request : Request} {path : Text}

/-- A response with a file passes all layers, and none of them touches that header. -/
theorem IsMade.noSniff_of_interface (h : app.IsMade pages s.values g) (hf : s.Fit)
    (hb : IsBound s installed) (hi : installed ≠ none)
    (hl : AccessLog.IsLoggable occasion request) (hq : CrossOrigin.askedMethod? request = none)
    (hp : Endpoints.AsksInterface app.routes request path) :
    ∃ response, (app.respond installed none occasion request).1 = { response := some response } ∧
      response.headers.values "X-Content-Type-Options" = ["nosniff"] := by
  obtain ⟨i, rfl⟩ := Option.ne_none_iff_exists'.mp hi
  obtain ⟨registry, rfl⟩ := hb i rfl
  have hapart : ∀ name ∈ RequestId.header :: (CrossOrigin.changed ++ Compression.changed),
      Headers.Apart name "X-Content-Type-Options" := by decide +kernel
  simp only [List.forall_mem_cons, List.forall_mem_append] at hapart
  obtain ⟨hid, horigin, hcompression⟩ := hapart
  obtain ⟨policy, hendpoint⟩ := hp.result_handler hf app.pages registry occasion.uptime
    (RequestId.choose occasion.freshId request)
  obtain ⟨first, hfirst, hshared⟩ := core_ok hq hendpoint
  obtain ⟨response, hreply, -⟩ := h.respond_core hf hl hfirst
  refine ⟨response, hreply, ?_⟩
  cases hr : (app.handler (some (installation s registry)) none occasion [] request).result with
  | error f =>
    rw [respond_of_error hr] at hreply
    cases hreply
  | ok r =>
    rw [respond_of_ok hr] at hreply
    cases hreply
    -- back from the outermost layer to the response of the endpoint
    obtain ⟨logged, hlogged, rfl⟩ := RequestId.of_layer_ok hr
    obtain ⟨packed, hpacked, rfl⟩ := of_securityLayer_ok (AccessLog.of_layer_ok hlogged).1
    obtain ⟨second, hsecond, hc⟩ := Exchange.ok_of_bindResponse hpacked
    cases hfirst.symm.trans hsecond
    have hpackedValues : packed.headers.values "X-Content-Type-Options" = ["nosniff"] := by
      rw [(Compression.agreesBut_of_respond hc).values_eq _ hcompression,
        hshared.values_eq _ horigin, Outcome.values_noSniff_answer]
    show (Headers.set _ RequestId.header _).values _ = _
    rw [Headers.values_set hid]
    exact Security.values_noSniff_secure
      (Security.areDistinct_of_names (Security.names_of_headers app.isRendered)) hpackedValues

/-- A configuration has headers unless it is to send an age that cannot be written. They are merged
into the headers of any response from inside. Only a header that is missing and cannot be sent makes
a failure of the response, and no profile has such headers. A second layer around the first one
changes nothing. A response to a resolved request has the header that forbids to guess types once,
whatever the configuration is, and so has the reply of a service that was made from checked
settings. -/
theorem merges_headers (c : Security.Config) :
    ((∃ rendered, c.headers = .ok rendered) ↔
      (c.enabled = true → c.transport.enabled = true → IsShort c.transport.maxAge)) ∧
    (∀ rendered, c.headers = .ok rendered →
      (∀ h : Headers, Security.Merged rendered h (Security.secure rendered h)) ∧
      (∀ inner id request, Security.LayerMerges rendered inner id request) ∧
      (∀ profile, Security.Config.ofProfile? profile = some c →
        ∀ h, Security.CanBeAdded rendered h) ∧
      (∀ inner, Security.layer rendered (Security.layer rendered inner) =
        Security.layer rendered inner) ∧
      ∀ (o : Outcome) (policy : Text),
        (Security.secure rendered (o.answer policy).headers).values "X-Content-Type-Options" =
          ["nosniff"]) ∧
    ∀ (pages : Endpoints.Pages) (given : Fields) (s : Settings) (registry : Option Registry)
        (app : App), Settings.check given = .valid s →
        make pages s.values (registry.map .ofRegistry) = .ok app →
      ∀ events state seen, app.run app.initial events = .ok (state, seen) →
        state.installed ≠ none →
      ∀ occasion request path, AccessLog.IsLoggable occasion request →
        CrossOrigin.askedMethod? request = none →
        Endpoints.AsksInterface app.routes request path →
        ∃ response, (app.answer state occasion request none).2.reply =
            some { response := some response } ∧
          response.headers.values "X-Content-Type-Options" = ["nosniff"] := by
  refine ⟨Security.exists_headers_iff, ?headers, ?service⟩
  case headers =>
    intro rendered hr
    have hd := Security.areDistinct_of_names (Security.names_of_headers hr)
    refine ⟨Security.merged_secure hd, Security.layerMerges rendered, ?_,
      Security.layer_layer hd, ?_⟩
    · intro profile hp h field hf _
      exact Security.isSendable_of_mem_headers hp hr field hf
    · intro o policy
      exact Security.values_noSniff_secure hd (o.values_noSniff_answer policy)
  case service =>
    intro pages given s registry app hs hmake events state seen hrun hi occasion request path hl hq
      hp
    have hm : app.IsMade pages s.values (registry.map .ofRegistry) := isMade_of_make hmake
    have hb : IsBound s state.installed := hm.isBound_run hm.isBound_handedOver hrun
    obtain ⟨response, hreply, hv⟩ :=
      hm.noSniff_of_interface (Settings.fit_of_check hs) hb hi hl hq hp
    refine ⟨response, ?_, hv⟩
    rw [answer, hreply]

/-- Headers in any letter case, one of them twice. -/
def mixedHeaders : Headers :=
  [("X-Part", "1"), ("X-CONTENT-TYPE-OPTIONS", "nosniff"), ("x-part", "2")]

def mixedHandler : Handler := fun id _ =>
  { requestId := id, result := .ok { status := .int 200, headers := mixedHeaders } }

theorem check_disabled : Settings.check [("security_headers_profile", .text "disabled")] =
    .valid { securityProfile := "disabled" } := rfl

def developmentHeaders : List (Text × Text) := Security.Config.development.headersWith []

theorem headers_development : Security.Config.development.headers = .ok developmentHeaders := rfl

/-- The headers of the profile for development come after these, but for the one that is there in
capitals. Without any security headers, a file that is missing is still answered with that one. -/
theorem merges_mixedHeaders :
    (∃ r, (Security.layer developmentHeaders mixedHandler [] {}).result = .ok r ∧
      r.headers.map Prod.fst = mixedHeaders.map Prod.fst ++
        (["x-frame-options", "x-xss-protection", "content-security-policy-report-only",
          "referrer-policy"] : List Text) ∧
      r.headers.values "x-content-type-options" = ["nosniff"]) ∧
    ∃ app, make Endpoints.blankPages ({ securityProfile := "disabled" } : Settings).values
        (some (.ofRegistry .empty)) = .ok app ∧
      ∃ response, (app.answer app.initial { freshId := "0badc0de" } { path := "/admin/app.js" }
          none).2.reply = some { response := some response } ∧
        response.headers.values "X-Content-Type-Options" = ["nosniff"] := by
  obtain ⟨-, hheaders, -⟩ := merges_headers .development
  obtain ⟨hmerged, hlayer, hprofile, -⟩ := hheaders developmentHeaders headers_development
  have hadd := hprofile "development" rfl mixedHeaders
  constructor
  · refine ⟨_, (hlayer mixedHandler [] {}).merges _ rfl hadd, by decide +kernel, ?_⟩
    exact (hmerged mixedHeaders).kept _ (by decide +kernel)
  · obtain ⟨-, -, hservice⟩ := merges_headers .disabled
    have hf : Settings.Fit { securityProfile := "disabled" } := Settings.fit_of_check check_disabled
    obtain ⟨app, hmake⟩ := make_ok Endpoints.blankPages hf rfl (by decide) .empty
    have hm := isMade_of_make hmake
    have hfree : Routing.IsFree ("/admin/app.js" : Text) := by
      unfold Routing.IsFree
      decide
    have hd : Routing.decide app.routes (.text "GET") "/admin/app.js" =
        .ok (.run (.ui "app.js")) :=
      hm.decide_own hf rfl (by decide) (by decide) (by decide) hfree
    have hi : app.initial.installed ≠ none := by
      rw [initial, hm.handedOver_eq]
      exact Option.some_ne_none _
    have ha := asks_get "/admin/app.js"
    exact ⟨app, hmake, hservice _ _ _ (some .empty) app check_disabled hmake [] _ _ rfl hi _ _
      "app.js" (.inr ⟨ha.timed, ha.client⟩) rfl (.below hd)⟩

end App
end BundleHost
