import BundleHost.Proofs.Service.Installation

/-! What the access log says about requests. A request for the path of the question if the service
is alive is not logged. Of all others, each that gets a response from inside of the layers is
logged by one record, which has its method, its path as it stands in an address, the status of the
response that is sent, and a level that goes by the status and by whether the path is one of the
interface. A request that ends in a failure is not logged there, even though a response with the
status 500 is sent. -/

namespace BundleHost

/-! ### Paths -/

namespace Address

/-- A path that stands in an address as it is: it starts with a slash, and no character in it would
end it, be read as a slash, or get lost. -/
structure IsPlain (path : Text) : Prop where
  rooted : path.head? = some '/'
  chars : ∀ c ∈ path, Text.endsPath c = false ∧ isDropped c = false

theorem escapePath_of_plain {path : Text} (h : ∀ c ∈ path, Text.endsPath c = false) :
    Text.escapePath path = path := by
  induction path with
  | nil => rfl
  | cons c rest ih =>
    obtain ⟨hc, hrest⟩ := List.forall_mem_cons.mp h
    rw [Text.escapePath] at ih ⊢
    rw [List.flatMap_cons, hc, ih hrest]
    rfl

theorem path_of_plain {request : Request} (h : IsPlain request.path) :
    path request = request.path := by
  have he : rooted request.path = request.path := by
    rw [rooted, escapePath_of_plain fun c hc => (h.chars c hc).1]
    obtain ⟨rest, hr⟩ := List.head?_eq_some_iff.mp h.rooted
    rw [hr]
    rfl
  rw [path, he, List.filter_eq_self]
  intro c hc
  rw [(h.chars c hc).2]
  rfl

end Address

namespace AccessLog

/-! ### Levels -/

/-- The path of the interface, or one that continues it with a slash. -/
def IsBelow (uiPrefix path : Text) : Prop := path = uiPrefix ∨ uiPrefix ++ ['/'] <+: path

theorem isUiPath_iff {uiPrefix path : Text} :
    isUiPath uiPrefix path = true ↔ IsBelow uiPrefix path := by
  rw [isUiPath, Bool.or_eq_true, beq_iff_eq, List.isPrefixOf_iff_prefix, IsBelow]

/-- The level of a record, by the status of the response. -/
structure IsGraded (uiPrefix path : Text) (status : Nat) (level : Log.Level) : Prop where
  error : level = .error ↔ 500 ≤ status
  info : level = .info ↔ status < 400 ∨ status = 404 ∧ IsBelow uiPrefix path
  warning : level = .warning ↔
    (400 ≤ status ∧ status < 500) ∧ ¬ (status = 404 ∧ IsBelow uiPrefix path)

theorem isGraded_level {uiPrefix : Text} (hu : Text.trimEnd Text.isSlash uiPrefix = uiPrefix)
    (path : Text) (status : Nat) : IsGraded uiPrefix path status (level uiPrefix path status) := by
  have hmissing : (decide (status = 404) && isUiPath uiPrefix path) = true ↔
      status = 404 ∧ IsBelow uiPrefix path := by
    rw [Bool.and_eq_true, decide_eq_true_eq, isUiPath_iff]
  rw [level, hu, grade]
  split
  · next h => constructor <;> grind
  · split
    · next h => constructor <;> grind
    · split
      · constructor <;> grind
      · constructor <;> grind

/-! ### Records -/

def records (all : List Log.Record) : List Log.Record := all.filter fun r => r.logger = logger

theorem records_append (a b : List Log.Record) : records (a ++ b) = records a ++ records b :=
  List.filter_append a b

theorem records_of_other {all : List Log.Record} (h : ∀ r ∈ all, r.logger ≠ logger) :
    records all = [] := by
  rw [records, List.filter_eq_nil_iff]
  intro r hr
  simpa using h r hr

/-- The record about a request that was answered with a status. -/
structure IsRecord (uiPrefix id : Text) (request : Request) (status : Nat)
    (record : Log.Record) : Prop where
  access : ∃ a, record.access = some a ∧ a.requestId = id ∧ a.method = request.method ∧
    a.path = Address.path request ∧ a.status = .int status
  graded : IsGraded uiPrefix (Address.path request) status record.level

theorem isRecord_of_record_ok {uiPrefix id : Text} {request : Request} {arrival : Arrival}
    {finished : Number} {status : Nat} {noted : Log.Record}
    (hu : Text.trimEnd Text.isSlash uiPrefix = uiPrefix)
    (h : record arrival finished uiPrefix id request (.int status) = .ok noted) :
    records [noted] = [noted] ∧ IsRecord uiPrefix id request status noted := by
  obtain ⟨found, whole, hlevel, rfl⟩ := of_record_ok h
  rw [levelOfValues_int] at hlevel
  cases hlevel
  exact ⟨rfl, ⟨_, rfl, rfl, rfl, rfl, rfl⟩, isGraded_level hu _ status⟩

/-- What the layer of the access log leaves in it. -/
structure Leaves (uiPrefix id : Text) (request : Request) (e : Exchange) : Prop where
  skipped : isSkipped request = true → records e.records = []
  failed : ∀ f, e.result = .error f → records e.records = []
  answered : isSkipped request = false → ∀ r, e.result = .ok r →
    ∃ (status : Nat) (noted : Log.Record),
      r.status = .int status ∧ records e.records = [noted] ∧
        IsRecord uiPrefix id request status noted

theorem leaves_of_passes {occasion : Occasion} {uiPrefix id : Text} {request : Request}
    {e e' : Exchange} (hp : Passes occasion uiPrefix id request e e') (he : e.IsInner id)
    (hs : ∀ r, e.result = .ok r → ∃ n : Nat, r.status = .int n)
    (hu : Text.trimEnd Text.isSlash uiPrefix = uiPrefix) : Leaves uiPrefix id request e' := by
  have hinner : records e.records = [] := records_of_other fun r hr => (he.records r hr).logger
  cases hp with
  | skipped skips =>
    refine ⟨fun _ => hinner, fun _ _ => hinner, fun asks => ?_⟩
    rw [skips] at asks
    cases asks
  | failed asks all result =>
    have hnone : records e'.records = [] :=
      records_of_other fun r hr => (he.records r (all.subset hr)).logger
    refine ⟨fun _ => hnone, fun _ _ => hnone, fun _ r hr => ?_⟩
    rw [result] at hr
    cases hr
  | @noted response arrival finished noted asks result arrives finishes record_eq =>
    obtain ⟨status, hstatus⟩ := hs response result
    rw [hstatus] at record_eq
    obtain ⟨hown, hrecord⟩ := isRecord_of_record_ok hu record_eq
    refine ⟨fun skips => ?_, fun f hf => ?_, fun _ r hr => ?_⟩
    · rw [asks] at skips
      cases skips
    · cases result.symm.trans hf
    · cases result.symm.trans hr
      refine ⟨status, noted, hstatus, ?_, hrecord⟩
      rw [records_append, hinner, hown]
      rfl

theorem Leaves.mapHeaders {uiPrefix id : Text} {request : Request} {e : Exchange}
    (h : Leaves uiPrefix id request e) (f : Headers → Headers) :
    Leaves uiPrefix id request (e.mapHeaders f) where
  skipped := h.skipped
  failed failure hf := h.failed failure (Exchange.error_of_mapResponse hf)
  answered asks r hr := by
    obtain ⟨first, hfirst, rfl⟩ := Exchange.ok_of_mapResponse hr
    exact h.answered asks first hfirst

end AccessLog

theorem Settings.trimEnd_uiPrefix {s : Settings} (h : IsNamespace s.ns) :
    Text.trimEnd Text.isSlash s.uiPrefix = s.uiPrefix := by
  obtain ⟨bare, hne, ht, -, hu, -⟩ := exists_bare h
  rw [hu, Text.trimEnd_eq_rdropWhile, List.rdropWhile_eq_self_iff]
  intro _
  rw [List.getLast_cons hne, ht.last _ (List.getLast?_eq_some_getLast hne)]
  exact Bool.false_ne_true

namespace App

variable {app : App} {pages : Endpoints.Pages} {s : Settings} {g : Option GivenRegistry}
  {installed : Option Installed} {fault : Option Failure} {occasion : Occasion} {request : Request}
  {r : Response}

/-- All that is logged at a request, whether the level of the log keeps it or not. -/
def written (app : App) (state : State) (occasion : Occasion) (request : Request)
    (fault : Option Failure) : List Log.Record :=
  (if state.layersMade then [] else app.layerRecords) ++
    (app.respond state.installed fault occasion request).2

theorem records_answer (app : App) (state : State) (occasion : Occasion) (request : Request)
    (fault : Option Failure) :
    (app.answer state occasion request fault).2.records =
      Log.kept state.threshold (app.written state occasion request fault) := rfl

theorem records_layerRecords (app : App) : AccessLog.records app.layerRecords = [] := by
  have hl : Security.logger ≠ AccessLog.logger := by decide
  refine AccessLog.records_of_other ?_
  rw [layerRecords]
  split
  · rw [List.forall_mem_singleton]
    exact hl
  · nofun

theorem records_written (app : App) (state : State) (occasion : Occasion) (request : Request)
    (fault : Option Failure) :
    AccessLog.records (app.written state occasion request fault) =
      AccessLog.records (app.handler state.installed fault occasion [] request).records := by
  have hfailure (id : Text) (f : Failure) :
      AccessLog.records [FailureLayers.failureRecord id f] = [] := by
    have hl : FailureLayers.logger ≠ AccessLog.logger := by decide
    refine AccessLog.records_of_other ?_
    rw [List.forall_mem_singleton]
    exact hl
  have hfirst : AccessLog.records (if state.layersMade then [] else app.layerRecords) = [] := by
    split
    · rfl
    · exact app.records_layerRecords
  rw [written, AccessLog.records_append, hfirst, List.nil_append, respond,
    FailureLayers.answerFailures]
  split
  · rfl
  · rw [AccessLog.records_append, hfailure, List.append_nil]

theorem isSkipped_iff : AccessLog.isSkipped request = true ↔ Address.path request = "/health" := by
  rw [AccessLog.isSkipped, AccessLog.skippedPaths, List.contains_iff_mem, List.mem_singleton]

theorem IsMade.leaves_handler (h : app.IsMade pages s.values g) (hf : s.Fit) :
    AccessLog.Leaves s.uiPrefix (RequestId.choose occasion.freshId request) request
      (app.handler installed fault occasion [] request) := by
  have hpasses := AccessLog.passes_layer occasion app.uiPrefix
    (app.inner installed fault occasion) (RequestId.choose occasion.freshId request) request
  have hu := Settings.trimEnd_uiPrefix hf.ns
  rw [← h.uiPrefix_eq] at hu ⊢
  have hlayer := AccessLog.leaves_of_passes hpasses (app.isInner_inner _ _ _ _ _)
    (fun _ => status_of_inner_ok) hu
  obtain ⟨skipped, failed, answered⟩ := hlayer.mapHeaders fun headers =>
    headers.set RequestId.header (RequestId.choose occasion.freshId request)
  exact ⟨skipped, failed, answered⟩

/-- At any time of the life of a service that was made from checked settings, this is what a
request adds to the access log, before the level of the log decides what is kept: nothing, if the
path in its address is that of the question if the service is alive, or if a failure is handed on
to the server; and one record otherwise, which is true of the request and of the response that is
sent. A failure is handed on exactly if the request has no answer. -/
theorem access_records_of_request {given : Fields} (hs : Settings.check given = .valid s)
    {registry : Option Registry}
    (hmake : make pages s.values (registry.map .ofRegistry) = .ok app)
    {events : List Event} {state : State} {seen : List Observation}
    (hrun : app.run app.initial events = .ok (state, seen))
    (occasion : Occasion) (request : Request) (fault : Option Failure) :
    ∃ reply response,
      (app.answer state occasion request fault).2.reply = some reply ∧
      reply.response = some response ∧
      (app.answer state occasion request fault).2.records =
        Log.kept state.threshold (app.written state occasion request fault) ∧
      (Address.path request = "/health" →
        AccessLog.records (app.written state occasion request fault) = []) ∧
      (Address.path request ≠ "/health" → reply.raised = none →
        ∃ (status : Nat) (noted : Log.Record), response.status = .int status ∧
          AccessLog.records (app.written state occasion request fault) = [noted] ∧
          AccessLog.IsRecord s.uiPrefix (RequestId.choose occasion.freshId request) request status
            noted) ∧
      (∀ f, reply.raised = some f →
        AccessLog.records (app.written state occasion request fault) = []) ∧
      (Address.IsPlain request.path → Address.path request = request.path) ∧
      (reply.raised = none ↔ app.HasAnswer state.installed fault occasion request) := by
  have hf : s.Fit := Settings.fit_of_check hs
  have hm : app.IsMade pages s.values (registry.map .ofRegistry) := isMade_of_make hmake
  have hbound : IsBound s state.installed := hm.isBound_run hm.isBound_handedOver hrun
  have hraised := hm.raised_eq_none_iff hf hbound occasion request fault
  have hleaves : AccessLog.Leaves s.uiPrefix (RequestId.choose occasion.freshId request) request
      (app.handler state.installed fault occasion [] request) := hm.leaves_handler hf
  rw [app.records_written]
  have hskipped := fun he => hleaves.skipped (isSkipped_iff.mpr he)
  cases hr : (app.handler state.installed fault occasion [] request).result with
  | ok response =>
    have hreply := respond_of_ok hr
    rw [hreply] at hraised
    refine ⟨_, response, congrArg some hreply, rfl,
      app.records_answer state occasion request fault, hskipped, fun hne _ => ?_, nofun,
      Address.path_of_plain, hraised⟩
    have hasks : AccessLog.isSkipped request = false := by
      rw [Bool.eq_false_iff]
      exact fun h => hne (isSkipped_iff.mp h)
    exact hleaves.answered hasks response hr
  | error failure =>
    have hreply := respond_of_error hr
    rw [hreply] at hraised
    exact ⟨_, _, congrArg some hreply, rfl, app.records_answer state occasion request fault,
      hskipped, nofun, fun _ _ => hleaves.failed failure hr, Address.path_of_plain, hraised⟩

/-- A request before the start gets a response, and it is not in the access log. -/
theorem not_logged_before_start :
    ∃ app, make Endpoints.blankPages ({} : Settings).values none = .ok app ∧
    ∃ reply response,
      (app.answer app.initial { freshId := "0badc0de" } { path := "/api/embedded/health" }
        none).2.reply = some reply ∧
      reply.response = some response ∧ reply.raised ≠ none ∧
      AccessLog.records (app.written app.initial { freshId := "0badc0de" }
        { path := "/api/embedded/health" } none) = [] := by
  obtain ⟨app, hmake, hnone, hroute⟩ := exists_unstarted Endpoints.blankPages
  obtain ⟨reply, response, hreply, hresponse, -, -, -, hfailed, -, hraised⟩ :=
    access_records_of_request Settings.check_nil
      (show make _ _ ((none : Option Registry).map .ofRegistry) = _ from hmake)
      (show app.run app.initial [] = _ from rfl) { freshId := "0badc0de" }
      { path := "/api/embedded/health" } none
  have hne : reply.raised ≠ none := by
    rw [Ne, hraised, hnone]
    exact not_hasAnswer_of_uninstalled rfl hroute nofun
  obtain ⟨f, hf⟩ := Option.ne_none_iff_exists'.mp hne
  exact ⟨app, hmake, reply, response, hreply, hresponse, hne, hfailed f hf⟩

end App
end BundleHost
