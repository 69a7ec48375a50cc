import BundleHost.Proofs.Resolution.Decision
import BundleHost.Proofs.Service.Installation

/-! Whether what the service says about the interface agrees with what it serves. Both questions
about its health are answered by whether there is a root document. The addresses of the interface
itself are resolved like any other path, and so they agree with that only if the key of the
namespace is neither excluded by a prefix of the programming interface nor that of another file. -/

namespace BundleHost

/-! ### What responses say -/

namespace Response

def HasStatus (status : Nat) (r : Response) : Prop := r.status = .int status

def Sends (status : Nat) (body : ByteArray) (r : Response) : Prop :=
  r.status = .int status ∧ r.body = body

/-- The answer to a question about the service, with the state of the service and of the interface.
-/
def Reports (status ui : Text) (r : Response) : Prop :=
  r.status = .int 200 ∧ ∃ uptime : Value, r.body = Text.utf8 (Value.toJson (.record [
    ("status", .text status), ("version", .text Endpoints.version), ("admin_ui", .text ui),
    ("uptime_seconds", uptime)]))

/-- What is said about a response by its status and body, and so holds of it after any layer. -/
def IsOfContent (p : Response → Prop) : Prop :=
  ∀ r r' : Response, r'.status = r.status → r'.body = r.body → p r → p r'

theorem isOfContent_hasStatus (status : Nat) : IsOfContent (HasStatus status) :=
  fun _ _ hs _ h => hs.trans h

theorem isOfContent_sends (status : Nat) (body : ByteArray) : IsOfContent (Sends status body) :=
  fun _ _ hs hb h => ⟨hs.trans h.1, hb.trans h.2⟩

theorem isOfContent_reports (status ui : Text) : IsOfContent (Reports status ui) := by
  rintro r r' hs hb ⟨h, uptime, hbody⟩
  exact ⟨hs.trans h, uptime, hb.trans hbody⟩

theorem utf8_inj {a b : Text} (h : Text.utf8 a = Text.utf8 b) : a = b :=
  String.ofList_inj.mp (String.toByteArray_inj.mp h)

theorem not_reports_both {r : Response} (h : Reports "healthy" "available" r) :
    ¬ Reports "degraded" "unavailable" r := by
  rintro ⟨-, uptime', hbody'⟩
  obtain ⟨-, uptime, hbody⟩ := h
  have he := congrArg (List.take 12) (utf8_inj (hbody.symm.trans hbody'))
  -- the twelfth character is the first one of the status
  have hne : ("\x7b\"status\":\"h" : Text) ≠ "\x7b\"status\":\"d" := by decide
  exact hne he

end Response

open Response

/-- The start of the interface asks for the key of the namespace. -/
theorem Resolver.follows_root {r : Resolver} (hns : r.ns.getLast? = some '/') :
    r.Follows r.ns (r.resolveRequest []) := by
  have hne : r.ns ≠ [] := fun e => by simp [e] at hns
  rw [resolveRequest_eq_resolve hns, Key.ofPath_of_slashes hne (by simp)]
  exact follows_resolve r r.ns

theorem Settings.getLast?_ns {s : Settings} (h : IsNamespace s.ns) : s.ns.getLast? = some '/' := by
  obtain ⟨bare, hns, -, -⟩ := h
  rw [hns]
  exact List.getLast?_concat

namespace App

variable {app : App} {pages : Endpoints.Pages} {s : Settings} {registry : Registry}
  {g : Option GivenRegistry} {state : State} {path : Text} {p q : Response → Prop}

/-- Each plain request for the path gets a response of which something is true. -/
def Gets (app : App) (state : State) (path : Text) (p : Response → Prop) : Prop :=
  ∀ occasion request, Asks occasion request path → (∃ x, occasion.uptime.asElapsed = .ok x) →
    ∃ response, (app.answer state occasion request none).2.reply =
      some { response := some response } ∧ p response

theorem Gets.both (hp : app.Gets state path p) (hq : app.Gets state path q) : ∃ r, p r ∧ q r := by
  obtain ⟨r, hr, hpr⟩ := hp _ _ (asks_get path) ⟨_, rfl⟩
  obtain ⟨r', hr', hqr⟩ := hq _ _ (asks_get path) ⟨_, rfl⟩
  rw [hr] at hr'
  cases hr'
  exact ⟨r, hpr, hqr⟩

theorem Gets.mono (hp : app.Gets state path p) (h : ∀ r, p r → q r) : app.Gets state path q := by
  intro occasion request ha hu
  obtain ⟨r, hr, hpr⟩ := hp occasion request ha hu
  exact ⟨r, hr, h r hpr⟩

theorem Gets.status_unique {a b : Nat} (ha : app.Gets state path (HasStatus a))
    (hb : app.Gets state path (HasStatus b)) : a = b := by
  obtain ⟨r, hra, hrb⟩ := ha.both hb
  have he : Value.int a = .int b := hra.symm.trans hrb
  cases he
  rfl

theorem IsMade.gets (h : app.IsMade pages s.values g) (hf : s.Fit)
    (hi : state.installed = some (installation s registry)) {endpoint : Routing.Endpoint}
    (hd : Routing.decide app.routes (.text "GET") path = .ok (.run endpoint))
    (hp : IsOfContent p)
    (he : ∀ uptime request, (∃ x, uptime.asElapsed = .ok x) → ∃ r,
      (Endpoints.answer pages (installation s registry) uptime request endpoint).2 = .ok r ∧ p r) :
    app.Gets state path p := by
  intro occasion request ha hu
  obtain ⟨r, hr, hpr⟩ := he occasion.uptime request hu
  have hhandled : (Endpoints.handler app.pages app.routes state.installed none occasion.uptime
      (RequestId.choose occasion.freshId request) request).result = .ok r := by
    rw [Endpoints.handler, ha.method, ha.path_eq, hd]
    dsimp only
    rw [hi, Endpoints.run_of_installed, h.pages]
    exact hr
  obtain ⟨r', hr', hagrees⟩ := h.respond_endpoint hf ha.timed ha.client
    (CrossOrigin.askedMethod?_of_get ha.method) hhandled
  refine ⟨r', ?_, hp r r' hagrees.status hagrees.body_eq hpr⟩
  rw [answer, hr']

/-! ### The questions about health -/

theorem IsMade.decide_fixed (h : app.IsMade pages s.values g) {route : Routing.Route}
    {endpoint : Routing.Endpoint}
    (ht : Routing.taking Routing.fixedRoutes path = [⟨route, .ok endpoint⟩])
    (hm : route.hasMethod (.text "GET") = true) :
    Routing.decide app.routes (.text "GET") path = .ok (.run endpoint) := by
  obtain ⟨more, hmore⟩ := Routing.exists_of_routes h.routes
  rw [hmore]
  exact Routing.decide_fixed more ht hm

theorem isAvailable_iff :
    (installation s registry).resolver.isAvailable = true ↔ s.rootDocumentKey ∈ registry.keys := by
  show registry.keys.contains s.rootDocumentKey = true ↔ _
  exact List.contains_iff_mem

theorem IsMade.gets_bundleHealth (h : app.IsMade pages s.values g) (hf : s.Fit)
    (hi : state.installed = some (installation s registry)) :
    app.Gets state "/api/embedded/health"
      (HasStatus (if s.rootDocumentKey ∈ registry.keys then 200 else 503)) := by
  have hd : Routing.decide app.routes (.text "GET") "/api/embedded/health" =
      .ok (.run .bundleHealth) := h.decide_fixed rfl rfl
  refine h.gets hf hi hd (isOfContent_hasStatus _) fun uptime request _ => ⟨_, rfl, ?_⟩
  show HasStatus _ (Endpoints.bundleHealth (installation s registry)).2
  rw [Endpoints.bundleHealth]
  by_cases ha : s.rootDocumentKey ∈ registry.keys
  · rw [if_pos ha, if_pos (isAvailable_iff.mpr ha)]
    rfl
  · rw [if_neg ha, if_neg (isAvailable_iff.not.mpr ha)]
    rfl

/-- The state of the service follows from that of the interface. -/
theorem IsMade.gets_health_of_uiState (h : app.IsMade pages s.values g) (hf : s.Fit)
    (hi : state.installed = some (installation s registry)) {status ui : Text}
    (hui : Endpoints.uiState (installation s registry) = ui)
    (hs : (if ui = "unavailable".toList then "degraded" else "healthy" : Text) = status) :
    app.Gets state "/health" (Reports status ui) := by
  have hd : Routing.decide app.routes (.text "GET") "/health" = .ok (.run .health) :=
    h.decide_fixed rfl rfl
  refine h.gets hf hi hd (isOfContent_reports _ _) ?_
  rintro uptime request ⟨seconds, hx⟩
  have hr : (Endpoints.answer pages (installation s registry) uptime request .health).2 =
      .ok (.json 200 [] (Endpoints.healthBody (installation s registry) seconds)) := by
    rw [Endpoints.answer, Endpoints.health, hx]
    rfl
  refine ⟨_, hr, rfl, Endpoints.uptimeField seconds, ?_⟩
  rw [Endpoints.healthBody, hui]
  simp only [hs]
  rfl

theorem IsMade.gets_health (h : app.IsMade pages s.values g) (hf : s.Fit) (ho : s.apiOnly = false)
    (hi : state.installed = some (installation s registry)) :
    app.Gets state "/health" (if s.rootDocumentKey ∈ registry.keys then
      Reports "healthy" "available" else Reports "degraded" "unavailable") := by
  have hapi : (installation s registry).apiOnly = false := ho
  by_cases ha : s.rootDocumentKey ∈ registry.keys
  · have hui : Endpoints.uiState (installation s registry) = "available" := by
      rw [Endpoints.uiState, hapi, if_neg Bool.false_ne_true]
      exact if_pos (isAvailable_iff.mpr ha)
    rw [if_pos ha]
    exact h.gets_health_of_uiState hf hi hui rfl
  · have hui : Endpoints.uiState (installation s registry) = "unavailable" := by
      rw [Endpoints.uiState, hapi, if_neg Bool.false_ne_true]
      exact if_neg (isAvailable_iff.not.mpr ha)
    rw [if_neg ha]
    exact h.gets_health_of_uiState hf hi hui rfl

/-! ### The addresses of the interface -/

/-- Both addresses of the interface go to the interface. -/
def IsRouted (app : App) (s : Settings) : Prop :=
  Routing.decide app.routes (.text "GET") s.uiPrefix = .ok (.run (.ui [])) ∧
    Routing.decide app.routes (.text "GET") (s.uiPrefix ++ ['/']) = .ok (.run (.ui []))

/-- Without braces in the namespace they do, unless one of the fixed routes takes the address
without the slash. -/
theorem IsMade.isRouted_iff (h : app.IsMade pages s.values g) (hf : s.Fit) (ho : s.apiOnly = false)
    (hb : '\x7b' ∉ s.ns) :
    app.IsRouted s ↔ Routing.taking Routing.fixedRoutes s.uiPrefix = [] := by
  obtain ⟨bare, -, -, -, hu, hroot⟩ := Settings.exists_bare hf.ns
  have hroutes := h.routes
  rw [h.uiPrefix_eq, routes_ok hf ho hb, hroot, ← hu] at hroutes
  rw [IsRouted, ← Except.ok.inj hroutes]
  constructor
  · rintro ⟨hbare, -⟩
    by_contra hne
    exact Routing.decide_ne_ui _ hne [] hbare
  · intro hfree
    exact ⟨Routing.decide_bare hfree, Routing.decide_slashed _⟩

/-- Requests for both addresses of the interface get a response of which something is true. -/
def GetsRoots (app : App) (s : Settings) (state : State) (p : Response → Prop) : Prop :=
  app.Gets state s.uiPrefix p ∧ app.Gets state (s.uiPrefix ++ ['/']) p

theorem IsMade.getsRoots (h : app.IsMade pages s.values g) (hf : s.Fit)
    (hi : state.installed = some (installation s registry)) (hr : app.IsRouted s)
    (hp : IsOfContent p)
    (ha : p (((s.resolver registry).resolveRequest []).answer
      (((s.resolver registry).resolveRequest []).policyWith (Text.ofInt s.cacheMaxAge)))) :
    app.GetsRoots s state p := by
  have hanswer : ∀ uptime request, (∃ x, uptime.asElapsed = .ok x) → ∃ r,
      (Endpoints.answer pages (installation s registry) uptime request (.ui [])).2 = .ok r ∧ p r :=
    fun _ _ _ => ⟨_, Outcome.respond_int _ hf.isShort_cacheMaxAge, ha⟩
  exact ⟨h.gets hf hi hr.1 hp hanswer, h.gets hf hi hr.2 hp hanswer⟩

theorem follows_root (hf : s.Fit) (registry : Registry) :
    (s.resolver registry).Follows s.ns ((s.resolver registry).resolveRequest []) :=
  Resolver.follows_root (r := s.resolver registry) (Settings.getLast?_ns hf.ns)

/-- The namespace is a route of the client, if nothing stands in the way. -/
theorem isClientRoute_ns (hf : s.Fit) (hk : s.ns ∉ registry.keys)
    (hx : (s.resolver registry).isApiRoute s.ns = false) :
    (s.resolver registry).IsClientRoute s.ns := by
  refine ⟨hk, hx, ?_⟩
  rw [Key.lastSegment_of_slash (Settings.getLast?_ns hf.ns)]
  exact List.not_mem_nil

section roots

variable (h : app.IsMade pages s.values g) (hf : s.Fit)
  (hi : state.installed = some (installation s registry)) (hr : app.IsRouted s)
include h hf hi hr

theorem IsMade.roots_of_own {data : ByteArray} (hd : (s.ns, data) ∈ registry.entries) :
    app.GetsRoots s state (Sends 200 data) := by
  obtain ⟨asset, ho, rfl⟩ := ((follows_root hf registry).hit data).mpr hd
  refine h.getsRoots hf hi hr (isOfContent_sends _ _) ?_
  rw [ho]
  exact ⟨rfl, rfl⟩

theorem IsMade.roots_of_excluded (hk : s.ns ∉ registry.keys)
    (hx : (s.resolver registry).isApiRoute s.ns = true) :
    app.GetsRoots s state (HasStatus 404) := by
  refine h.getsRoots hf hi hr (isOfContent_hasStatus _) ?_
  rw [(follows_root hf registry).notFound.mpr ⟨hk, .inl hx⟩]
  rfl

theorem IsMade.roots_of_document (hk : s.ns ∉ registry.keys)
    (hx : (s.resolver registry).isApiRoute s.ns = false) {data : ByteArray}
    (hd : (s.rootDocumentKey, data) ∈ registry.entries) :
    app.GetsRoots s state (Sends 200 data) := by
  obtain ⟨asset, ho, rfl⟩ :=
    ((follows_root hf registry).fallback data).mpr ⟨isClientRoute_ns hf hk hx, hd⟩
  refine h.getsRoots hf hi hr (isOfContent_sends _ _) ?_
  rw [ho]
  exact ⟨rfl, rfl⟩

theorem IsMade.roots_of_none (hk : s.ns ∉ registry.keys)
    (hx : (s.resolver registry).isApiRoute s.ns = false)
    (hd : s.rootDocumentKey ∉ registry.keys) : app.GetsRoots s state (HasStatus 503) := by
  refine h.getsRoots hf hi hr (isOfContent_hasStatus _) ?_
  rw [(follows_root hf registry).unavailable.mpr ⟨isClientRoute_ns hf hk hx, hd⟩]
  rfl

end roots

/-! ### Agreement -/

/-- The answers about health agree with each other and with what the addresses of the interface
send, where the interface is there and where it is not. -/
structure ReadinessAgrees (app : App) (s : Settings) (registry : Registry) (state : State) :
    Prop where
  report : app.Gets state "/api/embedded/health" (HasStatus 200) ↔
    app.Gets state "/health" (Reports "healthy" "available")
  roots : app.Gets state "/api/embedded/health" (HasStatus 200) ↔
    ∃ data, (s.rootDocumentKey, data) ∈ registry.entries ∧ app.GetsRoots s state (Sends 200 data)
  otherwise : ¬ app.Gets state "/api/embedded/health" (HasStatus 200) →
    app.Gets state "/api/embedded/health" (HasStatus 503) ∧
    app.Gets state "/health" (Reports "degraded" "unavailable") ∧
    app.GetsRoots s state (HasStatus 503)

/-- Nothing but the root document is sent as the start of the interface. -/
structure LeadsToRoot (s : Settings) (registry : Registry) : Prop where
  own : ∀ data, (s.ns, data) ∈ registry.entries → (s.rootDocumentKey, data) ∈ registry.entries
  notExcluded : s.ns ∉ registry.keys → (s.resolver registry).isApiRoute s.ns = false

theorem IsMade.gets_bundleHealth_iff (h : app.IsMade pages s.values g) (hf : s.Fit)
    (hi : state.installed = some (installation s registry)) :
    app.Gets state "/api/embedded/health" (HasStatus 200) ↔ s.rootDocumentKey ∈ registry.keys := by
  have hg := h.gets_bundleHealth hf hi
  constructor
  · intro h200
    by_contra ha
    rw [if_neg ha] at hg
    exact absurd (h200.status_unique hg) (by decide)
  · intro ha
    rwa [if_pos ha] at hg

theorem IsMade.gets_health_iff (h : app.IsMade pages s.values g) (hf : s.Fit)
    (ho : s.apiOnly = false) (hi : state.installed = some (installation s registry)) :
    app.Gets state "/health" (Reports "healthy" "available") ↔
      s.rootDocumentKey ∈ registry.keys := by
  have hg := h.gets_health hf ho hi
  constructor
  · intro hhealthy
    by_contra ha
    rw [if_neg ha] at hg
    obtain ⟨r, hr, hr'⟩ := hhealthy.both hg
    exact not_reports_both hr hr'
  · intro ha
    rwa [if_pos ha] at hg

/-- Where both addresses go to the interface, the answers agree exactly if nothing but the root
document is sent there. -/
theorem IsMade.readinessAgrees_iff (h : app.IsMade pages s.values g) (hf : s.Fit)
    (ho : s.apiOnly = false) (hi : state.installed = some (installation s registry))
    (hr : app.IsRouted s) :
    app.ReadinessAgrees s registry state ↔ LeadsToRoot s registry := by
  have hhealth := h.gets_bundleHealth_iff hf hi
  constructor
  · intro hagrees
    -- whether there is a root document or not, this is all that the roots can send
    have hroots : (∃ data, (s.rootDocumentKey, data) ∈ registry.entries ∧
        app.GetsRoots s state (Sends 200 data)) ∨ app.GetsRoots s state (HasStatus 503) := by
      by_cases ha : app.Gets state "/api/embedded/health" (HasStatus 200)
      · exact .inl (hagrees.roots.mp ha)
      · exact .inr (hagrees.otherwise ha).2.2
    constructor
    · intro data hd
      obtain ⟨hown, -⟩ := h.roots_of_own hf hi hr hd
      rcases hroots with ⟨data', hd', hsent, -⟩ | ⟨hunavailable, -⟩
      · obtain ⟨r, ⟨-, hb⟩, -, hb'⟩ := hown.both hsent
        rwa [← hb, hb']
      · exact absurd ((hown.mono fun _ hs => hs.1).status_unique hunavailable) (by decide)
    · intro hk
      by_contra hx
      obtain ⟨hmissing, -⟩ := h.roots_of_excluded hf hi hr hk (Bool.not_eq_false _ ▸ hx)
      rcases hroots with ⟨data, -, hsent, -⟩ | ⟨hunavailable, -⟩
      · exact absurd ((hsent.mono fun _ hs => hs.1).status_unique hmissing) (by decide)
      · exact absurd (hunavailable.status_unique hmissing) (by decide)
  · intro hl
    refine ⟨hhealth.trans (h.gets_health_iff hf ho hi).symm, ?_, ?_⟩
    · rw [hhealth]
      constructor
      · intro ha
        by_cases hk : s.ns ∈ registry.keys
        · obtain ⟨data, hd⟩ := Registry.mem_keys.mp hk
          exact ⟨data, hl.own data hd, h.roots_of_own hf hi hr hd⟩
        · obtain ⟨data, hd⟩ := Registry.mem_keys.mp ha
          exact ⟨data, hd, h.roots_of_document hf hi hr hk (hl.notExcluded hk) hd⟩
      · rintro ⟨data, hd, -⟩
        exact Registry.mem_keys.mpr ⟨data, hd⟩
    · intro hnot
      have ha : s.rootDocumentKey ∉ registry.keys := hhealth.not.mp hnot
      have hk : s.ns ∉ registry.keys := by
        intro hk
        obtain ⟨data, hd⟩ := Registry.mem_keys.mp hk
        exact ha (Registry.mem_keys.mpr ⟨data, hl.own data hd⟩)
      have hbundle := h.gets_bundleHealth hf hi
      have hservice := h.gets_health hf ho hi
      rw [if_neg ha] at hbundle hservice
      exact ⟨hbundle, hservice, h.roots_of_none hf hi hr hk (hl.notExcluded hk) ha⟩

/-- With any registry that is installed in a service of checked settings, both questions about
health are answered by whether the root document is registered. The addresses of the interface
agree with that exactly if its namespace does not lead to anything but the root document, provided
that they go to the interface at all, which they do, without braces in the namespace, unless a
fixed route takes one of them. -/
theorem readiness_of_installed {given : Fields} (hs : Settings.check given = .valid s)
    (ho : s.apiOnly = false) (hmake : make pages s.values g = .ok app)
    (hi : state.installed = some (installation s registry)) :
    (app.Gets state "/api/embedded/health" (HasStatus 200) ↔
      s.rootDocumentKey ∈ registry.keys) ∧
    (app.Gets state "/health" (Reports "healthy" "available") ↔
      s.rootDocumentKey ∈ registry.keys) ∧
    (s.rootDocumentKey ∉ registry.keys →
      app.Gets state "/api/embedded/health" (HasStatus 503) ∧
      app.Gets state "/health" (Reports "degraded" "unavailable")) ∧
    ('\x7b' ∉ s.ns →
      (app.IsRouted s ↔ Routing.taking Routing.fixedRoutes s.uiPrefix = [])) ∧
    (app.IsRouted s → (app.ReadinessAgrees s registry state ↔ LeadsToRoot s registry)) := by
  have hf : s.Fit := Settings.fit_of_check hs
  have hm : app.IsMade pages s.values g := isMade_of_make hmake
  refine ⟨hm.gets_bundleHealth_iff hf hi, hm.gets_health_iff hf ho hi, ?_,
    hm.isRouted_iff hf ho, hm.readinessAgrees_iff hf ho hi⟩
  intro ha
  have hbundle := hm.gets_bundleHealth hf hi
  have hservice := hm.gets_health hf ho hi
  rw [if_neg ha] at hbundle hservice
  exact ⟨hbundle, hservice⟩

/-! ### A bundle of a root document only -/

def rootOnly : Registry where
  assets := [⟨"admin/index.html", ⟨#[120]⟩⟩]
  nodup_keys := by simp

theorem readiness_of_rootOnly : ∃ app,
    make Endpoints.blankPages ({} : Settings).values (some (.ofRegistry rootOnly)) = .ok app ∧
      app.ReadinessAgrees {} rootOnly app.initial := by
  have hf : Settings.Fit {} := Settings.fit_of_check Settings.check_nil
  obtain ⟨app, hmake⟩ := make_ok Endpoints.blankPages hf rfl (by decide) rootOnly
  have hi : app.initial.installed = some (installation {} rootOnly) :=
    (isMade_of_make hmake).handedOver_eq
  obtain ⟨-, -, -, hrouted, hagrees⟩ := readiness_of_installed Settings.check_nil rfl hmake hi
  refine ⟨app, hmake, (hagrees ((hrouted (by decide)).mpr rfl)).mpr ⟨?_, fun _ => by decide⟩⟩
  intro data hd
  exact absurd (Registry.mem_keys.mpr ⟨data, hd⟩) (by decide)

/-- The answers need not agree if a prefix of the programming interface covers the namespace. -/
theorem not_readiness_of_installed :
    ¬ ∀ (given : Fields) (s : Settings) (registry : Registry) (app : App) (state : State),
      Settings.check given = .valid s → s.apiOnly = false →
      make Endpoints.blankPages s.values (some (.ofRegistry registry)) = .ok app →
      state.installed = some (installation s registry) →
        app.ReadinessAgrees s registry state := by
  intro hall
  have hs : Settings.check [("api_prefixes", .text "admin")] = .valid { apiPrefixes := "admin" } :=
    rfl
  have hf := Settings.fit_of_check hs
  obtain ⟨app, hmake⟩ := make_ok Endpoints.blankPages hf rfl (by decide) rootOnly
  have hm := isMade_of_make hmake
  have hrouted := (hm.isRouted_iff hf rfl (by decide)).mpr rfl
  have hagrees := hall _ _ rootOnly app app.initial hs rfl hmake hm.handedOver_eq
  have hleads := (hm.readinessAgrees_iff hf rfl hm.handedOver_eq hrouted).mp hagrees
  have hexcluded := hleads.notExcluded (by decide)
  revert hexcluded
  decide

end App
end BundleHost
