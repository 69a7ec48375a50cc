import BundleHost.Proofs.Service.Installation
import BundleHost.Proofs.Service.Starting

/-! What clients get to know of failures. Why a bundle came out empty is written to the log and
nowhere else: two services that differ in the place of the bundle, and in what went wrong there,
give the same answers. Of a failure while a request is handled a client gets to know the message,
if it is one of the faults of this service, and nothing at all otherwise. -/

namespace BundleHost

/-- What may be shown of a failure: the message of a fault. -/
def Failure.shown? : Failure → Option Text
  | .fault f =>
    match f.message with
    | .text message => some message
    | _ => none
  | _ => none

theorem Failure.exists_of_shown? {f : Failure} {message : Text} (h : f.shown? = some message) :
    ∃ g : Fault, f = .fault g ∧ g.message = .text message := by
  cases f with
  | fault g =>
    rw [shown?] at h
    split at h
    · next text hm => exact ⟨g, rfl, hm.trans (congrArg _ (Option.some.inj h))⟩
    · cases h
  | _ => cases h

/-- What is answered, according to what may be shown. -/
def FailureLayers.told (id : Text) : Option Text → Response
  | some message => faultResponse id message
  | none => failureResponse id

/-- Two requests come at moments that cannot be told apart by the answers to them: they are given
the same identifier, and the service has been running for the same time. -/
structure Occasion.Alike (o o' : Occasion) : Prop where
  timed : o.IsTimed
  timed' : o'.IsTimed
  freshId : o.freshId = o'.freshId
  uptime : o.uptime = o'.uptime

namespace App

variable {app app' : App} {pages : Endpoints.Pages} {s : Settings} {place : Text}
  {registry : Option GivenRegistry} {installed : Option Installed} {fault : Option Failure}
  {occasion occasion' : Occasion} {request : Request} {f : Failure}

/-! ### Bundles that came out empty -/

theorem respond_of_alike (app : App) (installed : Option Installed) (fault : Option Failure)
    (request : Request) (h : occasion.Alike occasion') :
    (app.respond installed fault occasion request).1 =
      (app.respond installed fault occasion' request).1 := by
  have hinner : app.inner installed fault occasion = app.inner installed fault occasion' := by
    rw [inner, inner, core, core, h.uptime]
  have hid : RequestId.choose occasion.freshId request =
      RequestId.choose occasion'.freshId request := by rw [h.freshId]
  have hresult : (app.handler installed fault occasion [] request).result =
      (app.handler installed fault occasion' [] request).result := by
    rw [handler_eq, handler_eq, RequestId.layer, RequestId.layer]
    dsimp only
    rw [hid, Exchange.mapHeaders, Exchange.mapHeaders, Exchange.mapResponse, Exchange.mapResponse]
    dsimp only
    rw [AccessLog.result_layer app.uiPrefix h.timed fun _ => status_of_inner_ok,
      AccessLog.result_layer app.uiPrefix h.timed' fun _ => status_of_inner_ok, hinner]
  cases hr : (app.handler installed fault occasion [] request).result with
  | ok r => rw [respond_of_ok hr, respond_of_ok (hresult.symm.trans hr)]
  | error f => rw [respond_of_error hr, respond_of_error (hresult.symm.trans hr), hid]

/-- No answer depends on the place of the bundle. -/
theorem IsMade.respond_of_place (h : app.IsMade pages s.values none)
    (h' : app'.IsMade pages ({ s with assetDir := place } : Settings).values none) :
    app.respond = app'.respond := by
  have hm : App.IsMade { app' with values := s.values } pages s.values none :=
    ⟨rfl, h'.pages, h'.security, h'.handedOver, h'.origins, h'.uiPrefix, h'.routes⟩
  rw [h.respond_eq hm]
  funext installed fault occasion request
  simp only [respond, handler, h'.values]
  rfl

/-- The service was made from settings, and the bundle in use came out empty when it was loaded. -/
structure ServesNothing (app : App) (pages : Endpoints.Pages) (s : Settings)
    (disk : Bundle.FileSystem) (history : List Happening) : Prop where
  made : make pages s.values none = .ok app
  inUse : ∃ registry : Registry, registry.size = 0 ∧
    InUse s.values none disk history (some (.ofRegistry registry))

theorem ServesNothing.installed_eq {disk : Bundle.FileSystem} {history : List Happening}
    (h : app.ServesNothing pages s disk history) :
    (app.after ⟨disk, app.initial⟩ history).state.installed = some (installation s .empty) := by
  obtain ⟨registry, hsize, hu⟩ := h.inUse
  rw [(isMade_of_make h.made).installed_after hu, Registry.eq_empty_of_size hsize]
  rfl

/-- A start that finds nothing to serve, for whatever reason, leads to such a service. -/
theorem ServesNothing.of_start {disk : Bundle.FileSystem}
    (hmake : make pages s.values none = .ok app) (hf : s.Fit) (hdisk : disk.WellFormed)
    (hfree : ∀ f, ¬ Startup.Obstructed s disk f) (hn : Startup.FindsNothing s disk) :
    app.ServesNothing pages s disk [.start] where
  made := hmake
  inUse := by
    obtain ⟨level, hl⟩ := hf.logLevel
    obtain ⟨registry, found, hload, hfinds, -⟩ := Startup.loadRegistry_ok hdisk hfree
    have hsize : registry.size = 0 := by
      have he := congrArg List.length (hfinds.empty_iff.mpr hn)
      rwa [Registry.entries, List.length_map] at he
    have htakes : Startup.Takes s.values disk registry := ⟨⟨_, setup_values hl⟩, ⟨_, hload⟩, rfl⟩
    have hu : InUse s.values none disk ([] ++ .start :: []) (some (.ofRegistry registry)) :=
      .taken rfl htakes trivial
    exact ⟨registry, hsize, hu⟩

/-- Why there is nothing to serve does not show in any answer. -/
theorem ServesNothing.replyAfter_eq {disk disk' : Bundle.FileSystem}
    {history history' : List Happening} (h : app.ServesNothing pages s disk history)
    (h' : app'.ServesNothing pages { s with assetDir := place } disk' history')
    (ho : occasion.Alike occasion') (request : Request) (fault : Option Failure) :
    app.replyAfter disk history occasion request fault =
      app'.replyAfter disk' history' occasion' request fault := by
  have hsame : installation { s with assetDir := place } .empty = installation s .empty := rfl
  rw [replyAfter, replyAfter, answer, answer, h.installed_eq, h'.installed_eq, hsame,
    (isMade_of_make h.made).respond_of_place (isMade_of_make h'.made)]
  exact congrArg some (app'.respond_of_alike _ fault request ho)

/-! ### Failures of a request -/

/-- A request gets to an endpoint, which fails. -/
structure Fails (app : App) (installed : Option Installed) (fault : Option Failure)
    (occasion : Occasion) (request : Request) (f : Failure) : Prop where
  asked : CrossOrigin.askedMethod? request = none
  loggable : AccessLog.IsLoggable occasion request
  fails : (Endpoints.handler app.pages app.routes installed fault occasion.uptime
    (RequestId.choose occasion.freshId request) request).result = .error f

theorem response_of_raised (h : (app.respond installed fault occasion request).1.raised = some f) :
    (app.respond installed fault occasion request).1.response =
      some (FailureLayers.failureResponse (RequestId.choose occasion.freshId request)) := by
  cases hr : (app.handler installed fault occasion [] request).result with
  | ok r =>
    rw [respond_of_ok hr] at h
    cases h
  | error g => rw [respond_of_error hr]

theorem response_of_core_error (h : (app.core installed fault occasion
      (RequestId.choose occasion.freshId request) request).result = .error f) :
    (app.respond installed fault occasion request).1.response =
      some (FailureLayers.failureResponse (RequestId.choose occasion.freshId request)) := by
  cases hr : (app.handler installed fault occasion [] request).result with
  | error g => rw [respond_of_error hr]
  | ok r =>
    rw [handler_eq] at hr
    obtain ⟨logged, hlogged, -⟩ := RequestId.of_layer_ok hr
    obtain ⟨hinner, -⟩ := AccessLog.of_layer_ok hlogged
    obtain ⟨secured, hsecured, -⟩ := of_securityLayer_ok hinner
    obtain ⟨first, hfirst, -⟩ := Exchange.ok_of_bindResponse hsecured
    rw [h] at hfirst
    cases hfirst

theorem Fails.of_core_ok {r : Response} (h : app.Fails installed fault occasion request f)
    (hr : (app.core installed fault occasion (RequestId.choose occasion.freshId request)
      request).result = .ok r) :
    ∃ message, f.shown? = some message ∧
      (FailureLayers.faultResponse (RequestId.choose occasion.freshId request) message).AgreesBut
        CrossOrigin.changed r := by
  obtain ⟨origin, method, hasked, -⟩ | ⟨first, hfirst, ha⟩ := CrossOrigin.of_layer_ok hr
  · rw [h.asked] at hasked
    cases hasked
  · obtain hok | ⟨g, message, hg, hm, rfl⟩ := FailureLayers.of_answerFaults_ok hfirst
    · rw [h.fails] at hok
      cases hok
    · rw [h.fails] at hg
      obtain rfl : f = .fault g := Except.error.inj hg
      rw [(Endpoints.isInner_handler _ request).requestId] at ha
      exact ⟨message, by rw [Failure.shown?, hm], ha⟩

theorem Fails.shown?_eq_none {g : Failure} (h : app.Fails installed fault occasion request f)
    (hg : (app.core installed fault occasion (RequestId.choose occasion.freshId request)
      request).result = .error g) : f.shown? = none := by
  cases hshown : f.shown? with
  | none => rfl
  | some message =>
    obtain ⟨fault', rfl, hm⟩ := Failure.exists_of_shown? hshown
    obtain ⟨first, hfirst⟩ := FailureLayers.answerFaults_of_fault h.fails hm
    obtain ⟨r, hr, -⟩ := CrossOrigin.layer_ok app.origins hfirst
    rw [core, hr] at hg
    cases hg

/-- What a client gets to know of a failing endpoint is what may be shown of the failure. -/
theorem IsMade.response_of_fails (h : app.IsMade pages s.values registry) (hf : s.Fit)
    (hfails : app.Fails installed fault occasion request f) :
    ∃ response, (app.respond installed fault occasion request).1.response = some response ∧
      response.status = .int 500 ∧ response.body = (FailureLayers.told
        (RequestId.choose occasion.freshId request) f.shown?).body := by
  cases hr : (app.core installed fault occasion (RequestId.choose occasion.freshId request)
      request).result with
  | ok r =>
    obtain ⟨message, hm, ha⟩ := hfails.of_core_ok hr
    obtain ⟨r', hr', ha'⟩ := h.respond_core hf hfails.loggable hr
    have hagrees := ha.trans ha'
    rw [hm]
    exact ⟨r', by rw [hr'], hagrees.status, hagrees.body_eq⟩
  | error g =>
    rw [hfails.shown?_eq_none hr]
    exact ⟨_, response_of_core_error hr, rfl, rfl⟩

/-- Two services of the same settings but for the place of the bundle, with bundles that came out
empty for whatever reason, answer every request alike. Of a failing endpoint a client gets to know
what may be shown of the failure, and of a failure that is handed on to the server nothing. -/
theorem shows_no_cause (pages : Endpoints.Pages) {given : Fields}
    (hs : Settings.check given = .valid s) :
    (∀ (place : Text) (app app' : App) (disk disk' : Bundle.FileSystem)
        (history history' : List Happening), app.ServesNothing pages s disk history →
      app'.ServesNothing pages { s with assetDir := place } disk' history' →
      ∀ (occasion occasion' : Occasion), occasion.Alike occasion' →
      ∀ (request : Request) (fault : Option Failure),
        app.replyAfter disk history occasion request fault =
          app'.replyAfter disk' history' occasion' request fault) ∧
    ∀ (registry : Option GivenRegistry) (app : App), make pages s.values registry = .ok app →
      ∀ (installed : Option Installed) (fault : Option Failure) (occasion : Occasion)
        (request : Request) (f : Failure),
        (app.Fails installed fault occasion request f →
          ∃ response, (app.respond installed fault occasion request).1.response = some response ∧
            response.status = .int 500 ∧ response.body = (FailureLayers.told
              (RequestId.choose occasion.freshId request) f.shown?).body) ∧
        ((app.respond installed fault occasion request).1.raised = some f →
          (app.respond installed fault occasion request).1.response =
            some (FailureLayers.failureResponse (RequestId.choose occasion.freshId request))) := by
  refine ⟨?_, ?_⟩
  · intro place app app' disk disk' history history' h h' occasion occasion' ho request fault
    exact h.replyAfter_eq h' ho request fault
  · intro registry app hmake installed fault occasion request f
    have hm : app.IsMade pages s.values registry := isMade_of_make hmake
    exact ⟨hm.response_of_fails (Settings.fit_of_check hs), response_of_raised⟩

/-! ### A missing bundle and one that cannot be read -/

/-- Nothing is at the usual place of the bundle. -/
def vacant : Bundle.FileSystem where
  top := .directory {} [("srv", .directory {} [])]
  here := ["srv"]
  walkRoom := 900
  linkRoom := 900

/-- A root document at the usual place that the service may not read. -/
def locked : Bundle.FileSystem :=
  { Bundle.site [("index.html", .file outerFile)] with
    unreadable := [(["srv", "admin-ui", "dist", "index.html"], "Permission denied")] }

def lockedDirectory : Bundle.Directory := ⟨locked, ["srv", "admin-ui", "dist"]⟩

/-- A fault with more to it than its message. -/
def talkative : Fault :=
  Fault.raise .bundleLoad (some (.text "no bundle")) (.text "/srv/locked/index.html")
    [("os_error", .text "Permission denied")]

theorem servesNothing_vacant (hmake : make pages ({} : Settings).values none = .ok app) :
    app.ServesNothing pages {} vacant [.start] := by
  have hplace : ({} : Settings).assetDir = Bundle.usualPlace := rfl
  have hopened : vacant.opened Bundle.usualPlace =
      .ok (⟨vacant, ["srv", "admin-ui", "dist"]⟩, false) := rfl
  rw [← hplace] at hopened
  have hwell : vacant.WellFormed := by
    refine ⟨?_, List.forall_mem_singleton.mpr (by decide)⟩
    exact ⟨⟨by decide, by decide⟩, nofun, trivial, trivial⟩
  have hfree : ∀ f, ¬ Startup.Obstructed {} vacant f := by
    rintro f (⟨-, hfails⟩ | ⟨-, hpresent, -⟩)
    · cases hfails.symm.trans hopened
    · cases hpresent.symm.trans hopened
  exact .of_start hmake (Settings.fit_of_check Settings.check_nil) hwell hfree (.absent hopened)

theorem check_locked : Settings.check [("asset_dir", .text "/srv/admin-ui/dist")] =
    .valid { assetDir := "/srv/admin-ui/dist" } := rfl

theorem servesNothing_locked
    (hmake : make pages ({ assetDir := "/srv/admin-ui/dist" } : Settings).values none = .ok app) :
    app.ServesNothing pages { assetDir := "/srv/admin-ui/dist" } locked [.start] := by
  have hopened : locked.opened "/srv/admin-ui/dist" = .ok (lockedDirectory, true) := rfl
  have hwell : locked.WellFormed := by
    have hsite : (Bundle.site [("index.html", .file outerFile)]).WellFormed :=
      Bundle.wellFormed_site ⟨⟨by decide, by decide⟩, nofun, trivial, trivial⟩
    exact ⟨hsite.top, hsite.here⟩
  have hf : lockedDirectory.failure? = none :=
    Bundle.Directory.failure?_eq_none.mpr ⟨by decide +kernel, by decide +kernel⟩
  have hs : ({ assetDir := "/srv/admin-ui/dist" } : Settings).selection = .default := by
    decide +kernel
  have hm : [("index.html" : Text)] ∈ lockedDirectory.discover .default :=
    Bundle.Directory.mem_discover.mpr ⟨by decide, by decide +kernel, by decide +kernel⟩
  have hr : ¬ lockedDirectory.IsReadable ["index.html"] := by
    unfold Bundle.Directory.IsReadable
    decide
  have hfree : ∀ f, ¬ Startup.Obstructed { assetDir := "/srv/admin-ui/dist" } locked f :=
    fun _ => Startup.not_obstructed hopened hf
  exact .of_start hmake (Settings.fit_of_check check_locked) hwell hfree
    (.unreadable hopened (hs.symm ▸ hm) hr)

/-- A missing directory and a file that may not be read show in no answer, and of a fault the
message does. -/
theorem shows_no_cause_of_locked : ∃ app app' : App,
    app.ServesNothing Endpoints.blankPages {} vacant [.start] ∧
    app'.ServesNothing Endpoints.blankPages { assetDir := "/srv/admin-ui/dist" } locked [.start] ∧
    (∀ request, app.replyAfter vacant [.start] { freshId := "0badc0de" } request none =
      app'.replyAfter locked [.start] { freshId := "0badc0de" } request none) ∧
    ∃ response, (app.respond (some (installation {} .empty)) (some (.fault talkative))
        { freshId := "0badc0de" } { path := "/api/embedded/health" }).1.response = some response ∧
      response.status = .int 500 ∧
      response.body = (FailureLayers.faultResponse "0badc0de" "no bundle").body := by
  obtain ⟨app, hmake, -, hroute⟩ := exists_unstarted Endpoints.blankPages
  obtain ⟨app', hmake'⟩ := make_of_handOver (g := none) Endpoints.blankPages
    (Settings.fit_of_check check_locked) rfl (by decide) rfl
  have hvacant := servesNothing_vacant hmake
  have hlocked := servesNothing_locked hmake'
  have hall := shows_no_cause Endpoints.blankPages Settings.check_nil
  have halike : Occasion.Alike { freshId := "0badc0de" } { freshId := "0badc0de" } :=
    ⟨(asks_get []).timed, (asks_get []).timed, rfl, rfl⟩
  have hfails : app.Fails (some (installation {} .empty)) (some (.fault talkative))
      { freshId := "0badc0de" } { path := "/api/embedded/health" } (.fault talkative) := by
    refine ⟨rfl, .inr ⟨halike.timed, _, rfl⟩, ?_⟩
    rw [Endpoints.handler, hroute]
    rfl
  refine ⟨app, app', hvacant, hlocked, ?_, ?_⟩
  · intro request
    exact hall.1 _ app app' _ _ _ _ hvacant hlocked _ _ halike request none
  · exact (hall.2 none app hmake _ _ _ _ _).1 hfails

end App
end BundleHost
