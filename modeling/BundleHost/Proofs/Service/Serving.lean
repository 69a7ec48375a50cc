import BundleHost.Proofs.Resolution.Answer
import BundleHost.Proofs.Security.Profiles
import BundleHost.Proofs.Service.Delivery
import BundleHost.Proofs.Service.Routing
import BundleHost.Proofs.Service.Running
import BundleHost.Proofs.Settings.Checked

/-! A service that was made from checked settings and from a registry that was handed over. It can
be made if there are no braces in the namespace, its routes then send each path below the start of
the interface to the interface, and a request that is sent there with the path of a registered key
gets the file of that key through all layers. -/

namespace BundleHost

/-- The namespace without its slash, after a slash, is the start of the interface. -/
theorem Settings.exists_bare {s : Settings} (h : IsNamespace s.ns) :
    ∃ bare, bare ≠ [] ∧ Text.IsTrimmed Text.isSlash bare ∧ s.ns = bare ++ ['/'] ∧
      s.uiPrefix = '/' :: bare ∧ Routing.uiRoot s.uiPrefix = '/' :: bare := by
  obtain ⟨bare, hns, hne, ht⟩ := h
  have hslash : ∀ c ∈ ['/'], Text.isSlash c = true := by simp [Text.isSlash]
  have he : Text.trimEnd Text.isSlash s.ns = bare := by rw [hns, ht.trimEnd_append hslash]
  have hb : Text.trim Text.isSlash (['/'] ++ bare ++ []) = bare := ht.trim_append hslash (by simp)
  rw [List.append_nil, List.singleton_append] at hb
  have hu : s.uiPrefix = '/' :: bare := by rw [Settings.uiPrefix, he]
  exact ⟨bare, hne, ht, hns, hu, by rw [Routing.uiRoot, hu, hb]⟩

/-- A path below the start of the interface is a slash, the namespace, and the rest of the path. -/
theorem Settings.uiRoot_append {s : Settings} (h : IsNamespace s.ns) (name : Text) :
    Routing.uiRoot s.uiPrefix ++ '/' :: name = '/' :: s.ns ++ name := by
  obtain ⟨bare, -, -, hns, -, hroot⟩ := exists_bare h
  rw [hroot, hns]
  simp

/-- The age that the settings give for files can be written. -/
theorem Settings.Fit.isShort_cacheMaxAge {s : Settings} (hf : s.Fit) :
    IsShort s.cacheMaxAge.natAbs := by
  have hmost : 63072000 < leastOverlong := by decide +kernel
  have hage : s.cacheMaxAge.natAbs ≤ 63072000 := by
    have := hf.cacheMaxAge
    omega
  exact isShort_iff.mpr (Nat.lt_of_le_of_lt hage hmost)

namespace App

variable {app : App} {pages : Endpoints.Pages} {s : Settings} {registry : Registry}

/-- What is installed with a registry. -/
def installation (s : Settings) (registry : Registry) : Installed where
  registry := .ofRegistry registry
  resolver := s.resolver registry
  cacheMaxAge := .int s.cacheMaxAge
  apiOnly := s.apiOnly

theorem IsMade.handedOver_eq (h : app.IsMade pages s.values (some (.ofRegistry registry))) :
    app.handedOver = some (installation s registry) := by
  have hh := h.handedOver
  rw [handOver, Startup.install_values] at hh
  exact (Except.ok.inj hh).symm

theorem IsMade.uiPrefix_eq {g : Option GivenRegistry} (h : app.IsMade pages s.values g) :
    app.uiPrefix = s.uiPrefix := by
  have hu := h.uiPrefix
  rw [Settings.uiPrefix_values] at hu
  exact (Except.ok.inj hu).symm

theorem not_mem_uiRoot (hf : s.Fit) (hb : '\x7b' ∉ s.ns) : '\x7b' ∉ Routing.uiRoot s.uiPrefix := by
  intro hm
  have ha : '\x7b' ∈ '/' :: s.ns ++ [] := by
    rw [← Settings.uiRoot_append hf.ns]
    exact List.mem_append_left _ hm
  simp [hb] at ha

theorem routes_ok (hf : s.Fit) (ho : s.apiOnly = false) (hb : '\x7b' ∉ s.ns) :
    Routing.routes s.values.apiOnly.holds s.uiPrefix =
      .ok (Routing.fixedRoutes ++ Routing.uiRoutesAt (Routing.uiRoot s.uiPrefix)) := by
  have hh : s.values.apiOnly.holds = false := ho
  rw [hh, Routing.routes_ok (not_mem_uiRoot hf hb)]

/-- With routes to the interface the service can be made. -/
theorem make_of_routes (pages : Endpoints.Pages) (hf : s.Fit) {routes : List Routing.Route}
    (hr : Routing.routes s.values.apiOnly.holds s.uiPrefix = .ok routes)
    {g : Option GivenRegistry} {handedOver : Option Installed}
    (hh : handOver s.values g = .ok handedOver) : ∃ app, make pages s.values g = .ok app := by
  obtain ⟨security, hs⟩ := securityOf_of_mem hf.securityProfile
  obtain ⟨rendered, hrendered⟩ :=
    Security.exists_headers_of_profile (ofProfile?_of_securityOf hs)
  refine ⟨⟨s.values, pages, security, rendered, hrendered, s.corsOriginList, s.uiPrefix, routes,
    handedOver⟩, ?_⟩
  rw [make]
  show (securityOf s.securityProfile >>= _) = _
  rw [hs, hh]
  show (Security.proven security.headers >>= _) = _
  rw [Security.proven_of_eq hrendered]
  show (Routing.routes s.values.apiOnly.holds s.uiPrefix >>= _) = _
  rw [hr]
  rfl

theorem make_of_handOver (pages : Endpoints.Pages) (hf : s.Fit) (ho : s.apiOnly = false)
    (hb : '\x7b' ∉ s.ns) {g : Option GivenRegistry} {handedOver : Option Installed}
    (hh : handOver s.values g = .ok handedOver) : ∃ app, make pages s.values g = .ok app :=
  make_of_routes pages hf (routes_ok hf ho hb) hh

theorem make_ok (pages : Endpoints.Pages) (hf : s.Fit) (ho : s.apiOnly = false)
    (hb : '\x7b' ∉ s.ns) (registry : Registry) :
    ∃ app, make pages s.values (some (.ofRegistry registry)) = .ok app := by
  have hh : handOver s.values (some (.ofRegistry registry)) =
      .ok (some (installation s registry)) := rfl
  exact make_of_handOver pages hf ho hb hh

/-- Without braces in the namespace a request for the address of a file goes to the interface. -/
theorem IsMade.decide_own {g : Option GivenRegistry} (h : app.IsMade pages s.values g) (hf : s.Fit)
    (ho : s.apiOnly = false) (hb : '\x7b' ∉ s.ns) {name : Text} (hn : '\n' ∉ name) (hne : name ≠ [])
    (hfree : Routing.IsFree ('/' :: s.ns ++ name)) :
    Routing.decide app.routes (.text "GET") ('/' :: s.ns ++ name) = .ok (.run (.ui name)) := by
  have hr := h.routes
  rw [h.uiPrefix_eq, routes_ok hf ho hb] at hr
  rw [← Except.ok.inj hr, ← Settings.uiRoot_append hf.ns]
  exact Routing.decide_below hn hne (by rwa [Settings.uiRoot_append hf.ns])

/-! ### Requests for registered keys -/

/-- A plain request for a path, from a client with an address, at times that the clock shows. -/
structure Asks (occasion : Occasion) (request : Request) (path : Text) : Prop where
  method : request.method = .text "GET"
  path_eq : request.path = path
  client : ∃ host, Address.clientHost request = .ok host
  timed : occasion.IsTimed

theorem asks_get (path : Text) : Asks { freshId := "0badc0de" } { path } path where
  method := rfl
  path_eq := rfl
  client := ⟨_, rfl⟩
  timed := ⟨⟨_, rfl⟩, ⟨_, rfl⟩⟩

/-- The reply to a request delivers contents, and nothing is handed on to the server. -/
def Delivers (app : App) (state : State) (occasion : Occasion) (request : Request)
    (body : ByteArray) (mediaType : Text) : Prop :=
  ∃ response,
    (app.answer state occasion request none).2.reply = some { response := some response } ∧
      response.Delivers body mediaType

theorem IsMade.delivers {g : Option GivenRegistry} (h : app.IsMade pages s.values g) (hf : s.Fit)
    {state : State} {occasion : Occasion} {request : Request} {path : Text}
    (ha : Asks occasion request path) {body : ByteArray} {mediaType : Text}
    (he : ∀ id, (Endpoints.handler app.pages app.routes state.installed none occasion.uptime id
      request).Delivers body mediaType) :
    app.Delivers state occasion request body mediaType := by
  obtain ⟨r, hr, hd⟩ := he (RequestId.choose occasion.freshId request)
  obtain ⟨r', hreply, hagrees⟩ := h.respond_endpoint hf ha.timed ha.client
    (CrossOrigin.askedMethod?_of_get ha.method) hr
  refine ⟨r', ?_, hd.of_agreesBut hagrees app.apart_contentType⟩
  rw [answer, hreply]

/-- The endpoint of the interface delivers the file of the key that the path stands for. -/
theorem delivers_ui (hf : s.Fit) {routes : List Routing.Route} {request : Request} {name : Text}
    {a : Asset} (hm : request.method = .text "GET")
    (hd : Routing.decide routes (.text "GET") request.path = .ok (.run (.ui name)))
    (hk : registry.find? (Key.ofPath s.ns name) = some a) (uptime : Value) (id : Text) :
    (Endpoints.handler pages routes (some (installation s registry)) none uptime id
      request).Delivers a.data (MimeType.ofPath a.key) := by
  have hr : (s.resolver registry).resolveRequest name =
      .hit (Key.ofPath s.ns name) ((s.resolver registry).served a) :=
    Resolver.resolveRequest_of_find? (r := s.resolver registry) hk
  have hresponse : (Endpoints.handler pages routes (some (installation s registry)) none uptime id
      request).result =
        ((s.resolver registry).resolveRequest name).respond (.int s.cacheMaxAge) := by
    rw [Endpoints.handler, hm, hd]
    rfl
  rw [hr, Outcome.respond_int _ hf.isShort_cacheMaxAge] at hresponse
  exact ⟨_, hresponse, rfl, rfl, Resolver.contentType_served (s.resolver registry) a _⟩

/-- A request that is sent to the interface with the path of a registered key gets that file. -/
theorem IsMade.delivers_registered (h : app.IsMade pages s.values (some (.ofRegistry registry)))
    (hf : s.Fit) {state : State} (hs : app.Holds (installation s registry) state)
    {occasion : Occasion} {request : Request} {path name : Text} {a : Asset}
    (ha : Asks occasion request path)
    (hd : Routing.decide app.routes (.text "GET") path = .ok (.run (.ui name)))
    (hk : registry.find? (Key.ofPath s.ns name) = some a) :
    app.Delivers state occasion request a.data (MimeType.ofPath a.key) := by
  refine h.delivers hf ha fun id => ?_
  rw [hs.2]
  exact delivers_ui hf ha.method (ha.path_eq ▸ hd) hk _ id

end App
end BundleHost
