import BundleHost.Proofs.Service.Serving

/-! What is installed in a service that was made from checked settings, and which requests it
answers. A bundle that is installed at any time is a registry that was bound to the settings. With
it every endpoint has an answer, unless getting at the bundle fails in an unforeseen way. A request
without an answer ends in a failure that is handed on to the server, and no other request does. -/

namespace BundleHost

variable {app : App} {pages : Endpoints.Pages} {s : Settings} {registry : Option Registry}

/-! ### What is installed -/

namespace App

/-- If anything is installed, it is a registry bound to the settings. -/
def IsBound (s : Settings) (installed : Option Installed) : Prop :=
  ∀ i, installed = some i → ∃ r, i = installation s r

theorem IsMade.isBound_handedOver (h : app.IsMade pages s.values (registry.map .ofRegistry)) :
    IsBound s app.handedOver := by
  rintro i hi
  cases registry with
  | none =>
    have hnone : app.handedOver = none := (Except.ok.inj h.handedOver).symm
    rw [hnone] at hi
    cases hi
  | some r =>
    rw [h.handedOver_eq] at hi
    exact ⟨r, (Option.some.inj hi).symm⟩

theorem isBound_of_installOnce {handedOver : Option Installed} {fs : Bundle.FileSystem}
    {i : Installed} {records : List Log.Record} (hb : IsBound s handedOver)
    (h : Startup.installOnce s.values handedOver fs = .ok (i, records)) :
    IsBound s (some i) := by
  rintro _ ⟨⟩
  cases handedOver with
  | some first =>
    cases h
    exact hb _ rfl
  | none =>
    obtain ⟨⟨loaded, found⟩, -, h⟩ := of_bind_eq_ok h
    obtain ⟨bound, hbound, h⟩ := of_bind_eq_ok h
    rw [Startup.install_values] at hbound
    cases hbound
    cases h
    exact ⟨loaded, rfl⟩

theorem IsMade.isBound_step (h : app.IsMade pages s.values (registry.map .ofRegistry))
    {state next : State} {event : Event} {seen : Observation} (hb : IsBound s state.installed)
    (hstep : app.step state event = .ok (next, seen)) : IsBound s next.installed := by
  cases event with
  | start fs =>
    obtain ⟨setup, -, hstep⟩ := of_bind_eq_ok hstep
    obtain ⟨⟨i, all⟩, hstart, hstep⟩ := of_bind_eq_ok hstep
    obtain ⟨⟨i', found⟩, honce, hstart⟩ := of_bind_eq_ok hstart
    obtain ⟨more, -, hstart⟩ := of_bind_eq_ok hstart
    cases hstart
    cases hstep
    rw [h.values] at honce
    exact isBound_of_installOnce h.isBound_handedOver honce
  | stop =>
    cases hstep
    exact hb
  | request occasion request fault =>
    cases hstep
    exact hb

/-- At no time of its life a service has anything else installed. -/
theorem IsMade.isBound_run (h : app.IsMade pages s.values (registry.map .ofRegistry))
    {state last : State} {events : List Event} {seen : List Observation}
    (hb : IsBound s state.installed) (hrun : app.run state events = .ok (last, seen)) :
    IsBound s last.installed :=
  run_induction (P := fun state => IsBound s state.installed) (fun _ _ _ _ => h.isBound_step) hb
    hrun

end App

/-! ### Answers to faults -/

namespace FailureLayers

/-- A response, or a fault with a message that can be sent. -/
def IsAnswered (result : Except Failure Response) : Prop :=
  (∃ r, result = .ok r) ∨ ∃ f message, result = .error (.fault f) ∧ f.message = .text message

theorem IsAnswered.of_error {f : Failure} (h : IsAnswered (.error f)) :
    ∃ g message, f = .fault g ∧ g.message = .text message := by
  obtain ⟨_, hr⟩ | ⟨g, message, hg, hm⟩ := h
  · cases hr
  · exact ⟨g, message, Except.error.inj hg, hm⟩

theorem answerFaults_ok_iff {inner : Handler} {id : Text} {request : Request} :
    (∃ r, (answerFaults inner id request).result = .ok r) ↔
      IsAnswered (inner id request).result := by
  constructor
  · rintro ⟨r, hr⟩
    obtain hok | ⟨f, message, hf, hm, -⟩ := of_answerFaults_ok hr
    · exact .inl ⟨r, hok⟩
    · exact .inr ⟨f, message, hf, hm⟩
  · rintro (⟨r, hr⟩ | ⟨f, message, hf, hm⟩)
    · exact ⟨r, answerFaults_ok hr⟩
    · exact answerFaults_of_fault hf hm

end FailureLayers

theorem Value.ne_fault_of_asElapsed {v : Value} {f : Failure} (h : v.asElapsed = .error f)
    (g : Fault) : f ≠ .fault g := by
  have hnearest : ∀ n, nearest n = .error f → f ≠ .fault g := by
    intro n hn
    rw [nearest] at hn
    split at hn
    · cases hn
    · cases hn
      nofun
  cases v with
  | int n => exact hnearest n h
  | bool b => exact hnearest _ h
  | real x => cases h
  | null | text t | list items | record fields =>
    cases h
    nofun

/-! ### Answers of the endpoints -/

theorem Validation.itemLines_texts (place : Nat) (ts : List Text) :
    itemLines place (ts.map .text) = [] := by
  induction ts generalizing place with
  | nil => rfl
  | cons t rest ih => exact ih (place + 1)

namespace Endpoints

open App (installation)
open FailureLayers (IsAnswered)

variable {r : Registry} {i : Installed} {installed : Option Installed} {fault : Option Failure}
  {uptime : Value} {request : Request} {endpoint : Routing.Endpoint}

/-- The endpoint gets at the bundle by the way that may fail. -/
structure AsksBundle (endpoint : Routing.Endpoint) : Prop where
  ne_health : endpoint ≠ .health
  ne_page : ∀ p, endpoint ≠ .page p

/-- When an endpoint has an answer, possibly the answer to a fault: it is a page, or there is a
bundle, and it is got at, or getting at it fails by a fault with a message that can be sent. The
endpoint about the service gets at the bundle by a way of its own, and looks at the clock. -/
inductive HasAnswer (installed : Option Installed) (fault : Option Failure) (uptime : Value) :
    Routing.Endpoint → Prop
  | page (p : Routing.Page) : HasAnswer installed fault uptime (.page p)
  | health {x : Number} (present : installed ≠ none) (elapsed : uptime.asElapsed = .ok x) :
      HasAnswer installed fault uptime .health
  | bundle {endpoint : Routing.Endpoint} (asks : AsksBundle endpoint) (present : installed ≠ none)
      (reached : fault = none) : HasAnswer installed fault uptime endpoint
  | fault {endpoint : Routing.Endpoint} {f : Fault} {message : Text} (asks : AsksBundle endpoint)
      (fails : fault = some (.fault f)) (text : f.message = .text message) :
      HasAnswer installed fault uptime endpoint

theorem assetList_installation (s : Settings) (r : Registry) :
    assetList (installation s r) = .ok (.json 200 [] (.list (r.sortedKeys.map .text))) := by
  have hk : (installation s r).registry.sortedKeys = .ok (r.sortedKeys.map .text) :=
    GivenRegistry.sortedKeys_ofRegistry r
  rw [assetList, hk]
  dsimp only
  rw [Validation.itemLines_texts]
  rfl

/-- One case for each endpoint. Only the one about the service looks at the clock. -/
theorem answer_ok (hf : s.Fit) (uptime : Value) (request : Request) (hne : endpoint ≠ .health) :
    ∃ response, (answer pages (installation s r) uptime request endpoint).2 = .ok response := by
  have hui : ∀ path, ∃ response, (ui (installation s r) path).2 = .ok response :=
    fun path => ⟨_, Outcome.respond_int _ hf.isShort_cacheMaxAge⟩
  cases endpoint with
  | page p => exact ⟨_, rfl⟩
  | health => exact absurd rfl hne
  | bundleHealth => exact ⟨_, rfl⟩
  | assetList => exact ⟨_, assetList_installation s r⟩
  | ui path => exact hui path
  | uiOfQuery =>
    rw [answer, uiOfQuery]
    split
    · exact hui _
    · exact ⟨_, rfl⟩

theorem not_isAnswered_notInstalled : ¬ IsAnswered (.error .notInstalled) := by
  intro h
  obtain ⟨g, message, hg, -⟩ := h.of_error
  cases hg

theorem isAnswered_health_iff :
    IsAnswered (health i uptime) ↔ ∃ x, uptime.asElapsed = .ok x := by
  rw [health]
  cases he : uptime.asElapsed with
  | ok x => exact ⟨fun _ => ⟨x, rfl⟩, fun _ => .inl ⟨_, rfl⟩⟩
  | error f =>
    constructor
    · intro h
      obtain ⟨g, message, hg, -⟩ := IsAnswered.of_error (f := f) h
      exact absurd hg (Value.ne_fault_of_asElapsed he g)
    · rintro ⟨x, ⟨⟩⟩

theorem hasAnswer_health_iff :
    HasAnswer installed fault uptime .health ↔
      installed ≠ none ∧ ∃ x, uptime.asElapsed = .ok x := by
  constructor
  · intro h
    cases h with
    | health present elapsed => exact ⟨present, _, elapsed⟩
    | bundle asks present reached => exact absurd rfl asks.ne_health
    | fault asks fails text => exact absurd rfl asks.ne_health
  · rintro ⟨hi, x, hx⟩
    exact .health hi hx

theorem isAnswered_run_health :
    IsAnswered (run pages installed fault uptime request .health).2 ↔
      HasAnswer installed fault uptime .health := by
  rw [hasAnswer_health_iff]
  cases installed with
  | none => exact ⟨fun h => absurd h not_isAnswered_notInstalled, fun h => absurd rfl h.1⟩
  | some i =>
    show IsAnswered (health i uptime) ↔ _
    rw [isAnswered_health_iff]
    exact ⟨fun hx => ⟨Option.some_ne_none i, hx⟩, And.right⟩

/-- The endpoints that get at the bundle all do it in the same way. -/
theorem run_of_asksBundle (ha : AsksBundle endpoint) :
    run pages installed fault uptime request endpoint =
      match installed? installed fault with
      | .ok i => answer pages i uptime request endpoint
      | .error f => ([], .error f) := by
  have hother : isDirect endpoint = false := by rw [isDirect, decide_eq_false ha.ne_health]
  unfold run
  split
  · next p => exact absurd rfl (ha.ne_page p)
  · rw [hother]
    rfl

theorem run_of_installed (i : Installed) (uptime : Value) (request : Request)
    (endpoint : Routing.Endpoint) :
    run pages (some i) none uptime request endpoint = answer pages i uptime request endpoint := by
  cases endpoint <;> rfl

theorem isAnswered_run_of_asksBundle (hf : s.Fit) (hb : App.IsBound s installed)
    (ha : AsksBundle endpoint) :
    IsAnswered (run pages installed fault uptime request endpoint).2 ↔
      HasAnswer installed fault uptime endpoint := by
  rw [run_of_asksBundle ha]
  cases fault with
  | some f =>
    constructor
    · intro h
      obtain ⟨g, message, rfl, hm⟩ := IsAnswered.of_error (f := f) h
      exact .fault ha rfl hm
    · intro h
      cases h with
      | page p => exact absurd rfl (ha.ne_page p)
      | health present elapsed => exact absurd rfl ha.ne_health
      | bundle asks present reached => cases reached
      | fault asks fails text =>
        obtain rfl := Option.some.inj fails
        exact .inr ⟨_, _, rfl, text⟩
  | none =>
    cases installed with
    | none =>
      refine ⟨fun h => absurd h not_isAnswered_notInstalled, fun h => ?_⟩
      cases h with
      | page p => exact absurd rfl (ha.ne_page p)
      | health present elapsed => exact absurd rfl present
      | bundle asks present reached => exact absurd rfl present
      | fault asks fails text => cases fails
    | some i =>
      obtain ⟨r, rfl⟩ := hb i rfl
      exact ⟨fun _ => .bundle ha (Option.some_ne_none _) rfl,
        fun _ => .inl (answer_ok hf uptime request ha.ne_health)⟩

theorem isAnswered_run_iff (hf : s.Fit) (hb : App.IsBound s installed) :
    IsAnswered (run pages installed fault uptime request endpoint).2 ↔
      HasAnswer installed fault uptime endpoint := by
  cases endpoint with
  | page p => exact ⟨fun _ => .page p, fun _ => .inl ⟨_, rfl⟩⟩
  | health => exact isAnswered_run_health
  | bundleHealth | assetList | ui | uiOfQuery =>
    exact isAnswered_run_of_asksBundle hf hb ⟨nofun, nofun⟩

/-- Where a request leads, there is an answer: the routes can read its path, and the endpoint has an
answer, if they lead to one. -/
def LeadsToAnswer (routes : List Routing.Route) (installed : Option Installed)
    (fault : Option Failure) (uptime : Value) (request : Request) : Prop :=
  ∃ decision, Routing.decide routes request.method request.path = .ok decision ∧
    ∀ endpoint, decision = .run endpoint → HasAnswer installed fault uptime endpoint

theorem leadsToAnswer_iff {routes : List Routing.Route} {decision : Routing.Decision}
    (hd : Routing.decide routes request.method request.path = .ok decision) :
    LeadsToAnswer routes installed fault uptime request ↔
      ∀ endpoint, decision = .run endpoint → HasAnswer installed fault uptime endpoint := by
  constructor
  · rintro ⟨_, hd', h⟩
    cases hd.symm.trans hd'
    exact h
  · exact fun h => ⟨decision, hd, h⟩

theorem isAnswered_handler_iff {routes : List Routing.Route} {id : Text} (hf : s.Fit)
    (hb : App.IsBound s installed) :
    IsAnswered (handler pages routes installed fault uptime id request).result ↔
      LeadsToAnswer routes installed fault uptime request := by
  rw [handler]
  cases hd : Routing.decide routes request.method request.path with
  | error f =>
    constructor
    · intro h
      obtain ⟨g, message, hg, -⟩ := IsAnswered.of_error (f := f) h
      exact absurd hg (Routing.ne_fault_of_decide hd g)
    · rintro ⟨_, hd', -⟩
      cases hd.symm.trans hd'
  | ok decision =>
    rw [leadsToAnswer_iff hd]
    cases decision with
    | run endpoint =>
      have hr : IsAnswered (run pages installed fault uptime request endpoint).2 ↔ _ :=
        isAnswered_run_iff hf hb
      exact hr.trans ⟨fun h _ he => Routing.Decision.run.inj he ▸ h, fun h => h endpoint rfl⟩
    | wrongMethod | redirect | notFound =>
      refine ⟨fun _ endpoint he => ?_, fun _ => .inl ⟨_, rfl⟩⟩
      cases he

end Endpoints

/-! ### Answers of the service -/

namespace App

variable {g : Option GivenRegistry} {installed : Option Installed} {fault : Option Failure}
  {occasion : Occasion} {request : Request} {id : Text} {r : Response}

/-- When a request has an answer: it can be logged, and there is an answer where it leads, unless it
is a question of a browser, which leads nowhere. -/
structure HasAnswer (app : App) (installed : Option Installed) (fault : Option Failure)
    (occasion : Occasion) (request : Request) : Prop where
  loggable : AccessLog.IsLoggable occasion request
  leads : CrossOrigin.askedMethod? request = none →
    Endpoints.LeadsToAnswer app.routes installed fault occasion.uptime request

theorem core_ok_iff (hf : s.Fit) (hb : IsBound s installed) :
    (∃ r, (app.core installed fault occasion id request).result = .ok r) ↔
      (CrossOrigin.askedMethod? request = none →
        Endpoints.LeadsToAnswer app.routes installed fault occasion.uptime request) := by
  constructor
  · rintro ⟨r, hr⟩ hq
    obtain ⟨origin, method, hm, -⟩ | ⟨first, hfirst, -⟩ := CrossOrigin.of_layer_ok hr
    · cases hq.symm.trans hm
    · exact (Endpoints.isAnswered_handler_iff hf hb).mp
        (FailureLayers.answerFaults_ok_iff.mp ⟨first, hfirst⟩)
  · intro h
    cases hq : CrossOrigin.askedMethod? request with
    | some method =>
      rw [core, CrossOrigin.layer, hq]
      exact ⟨_, rfl⟩
    | none =>
      obtain ⟨first, hfirst⟩ := FailureLayers.answerFaults_ok_iff.mpr
        ((Endpoints.isAnswered_handler_iff hf hb).mpr (h hq))
      obtain ⟨r, hr, -⟩ := CrossOrigin.layer_ok app.origins hfirst
      exact ⟨r, hr⟩

/-- A failure is handed on to the server exactly if the request has no answer. -/
theorem IsMade.raised_eq_none_iff (h : app.IsMade pages s.values g) (hf : s.Fit)
    (hb : IsBound s installed) (occasion : Occasion) (request : Request)
    (fault : Option Failure) :
    (app.respond installed fault occasion request).1.raised = none ↔
      app.HasAnswer installed fault occasion request := by
  constructor
  · intro hnone
    cases hr : (app.handler installed fault occasion [] request).result with
    | error f =>
      rw [respond_of_error hr] at hnone
      cases hnone
    | ok r =>
      obtain ⟨first, hfirst, -⟩ := RequestId.of_layer_ok hr
      obtain ⟨hinner, hl⟩ := AccessLog.of_layer_ok hfirst
      obtain ⟨second, hsecond, -⟩ := of_securityLayer_ok hinner
      obtain ⟨third, hthird, -⟩ := Exchange.ok_of_bindResponse hsecond
      exact ⟨hl, (core_ok_iff hf hb).mp ⟨third, hthird⟩⟩
  · intro ha
    obtain ⟨r, hr⟩ := (core_ok_iff hf hb).mpr ha.leads
    obtain ⟨r', hr', -⟩ := h.respond_core hf ha.loggable hr
    rw [hr']

/-- Before anything is installed, no endpoint has an answer but the pages. -/
theorem not_hasAnswer_of_uninstalled {endpoint : Routing.Endpoint}
    (hq : CrossOrigin.askedMethod? request = none)
    (hd : Routing.decide app.routes request.method request.path = .ok (.run endpoint))
    (hp : ∀ p, endpoint ≠ .page p) :
    ¬ app.HasAnswer none none occasion request := by
  intro h
  obtain ⟨decision, hd', hall⟩ := h.leads hq
  cases hd.symm.trans hd'
  cases hall endpoint rfl with
  | page p => exact hp p rfl
  | health present elapsed => exact present rfl
  | bundle asks present reached => exact present rfl
  | fault asks fails text => cases fails

/-- There is a service that has not been started, and with nothing installed in it. -/
theorem exists_unstarted (pages : Endpoints.Pages) : ∃ app,
    make pages ({} : Settings).values none = .ok app ∧
    app.initial.installed = none ∧
    Routing.decide app.routes (.text "GET") "/api/embedded/health" = .ok (.run .bundleHealth) := by
  have hf : Settings.Fit {} := Settings.fit_of_check Settings.check_nil
  have hh : handOver ({} : Settings).values none = .ok none := rfl
  obtain ⟨app, hmake⟩ := make_of_handOver pages hf rfl (by decide) hh
  have hm := isMade_of_make hmake
  have hroutes := hm.routes
  rw [hm.uiPrefix_eq, routes_ok hf rfl (by decide)] at hroutes
  refine ⟨app, hmake, (Except.ok.inj hm.handedOver).symm, ?_⟩
  rw [← Except.ok.inj hroutes]
  rfl

end App
end BundleHost
