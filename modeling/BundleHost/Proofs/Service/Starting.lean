import BundleHost.Proofs.Service.Snapshots

/-! How a service starts that was made from checked settings. The profile, the level of the log, the
port and the root document are all of a kind that a start can work with, so that only the file
system is left to stop it. A bundle that is not there or that cannot be read does not: the service
then starts without files and says so. A question about the place of the bundle or about one of its
entries that has no answer does, and so do directories that are too deep to be listed. -/

namespace BundleHost

namespace Startup

variable {s : Settings} {fs : Bundle.FileSystem} {d : Bundle.Directory} {registry : Registry}
  {f : Failure}

/-! ### What stops a start, and what leaves it without files -/

/-- The bundle is wanted, and its place cannot be found or its files cannot be told. -/
inductive Obstructed (s : Settings) (fs : Bundle.FileSystem) : Failure → Prop
  | opening {e : FileError} (wanted : s.apiOnly = false)
      (fails : fs.opened s.assetDir = .error e) : Obstructed s fs (.fileSystem e)
  | telling {d : Bundle.Directory} {e : FileError} (wanted : s.apiOnly = false)
      (opened : fs.opened s.assetDir = .ok (d, true)) (fails : d.failure? = some e) :
      Obstructed s fs (.fileSystem e)

/-- There is nothing to serve. -/
inductive FindsNothing (s : Settings) (fs : Bundle.FileSystem) : Prop
  | unwanted (h : s.apiOnly = true)
  | absent {d : Bundle.Directory} (opened : fs.opened s.assetDir = .ok (d, false))
  | unselected {d : Bundle.Directory} (opened : fs.opened s.assetDir = .ok (d, true))
      (none : d.discover s.selection = [])
  | unreadable {d : Bundle.Directory} {path : Bundle.Path}
      (opened : fs.opened s.assetDir = .ok (d, true)) (selected : path ∈ d.discover s.selection)
      (fails : ¬ d.IsReadable path)

/-- What a start finds at the place of the bundle: all selected files, or nothing. -/
structure Finds (s : Settings) (fs : Bundle.FileSystem) (registry : Registry) : Prop where
  entries : (∃ d, fs.opened s.assetDir = .ok (d, true) ∧
      registry.entries = (d.discover s.selection).map (Bundle.entryOf d s.ns)) ∨
    registry.entries = []
  empty_iff : registry.entries = [] ↔ FindsNothing s fs

theorem Obstructed.cause (h : Obstructed s fs f) (hfs : fs.WellFormed) :
    ∃ e, f = .fileSystem e ∧ fs.Hindered s.assetDir e := by
  cases h with
  | opening wanted fails =>
    exact ⟨_, rfl, Bundle.FileSystem.hindered_of_opened hfs.here fails⟩
  | telling wanted opened fails =>
    exact ⟨_, rfl, Bundle.FileSystem.hindered_of_failure? opened fails⟩

/-- Nothing stops a start if the place can be found and the files there can be told. -/
theorem not_obstructed (ho : fs.opened s.assetDir = .ok (d, true)) (hf : d.failure? = none) :
    ¬ Obstructed s fs f := by
  rintro (⟨-, hfails⟩ | ⟨-, hopened, hfails⟩)
  · cases hfails.symm.trans ho
  · cases hopened.symm.trans ho
    cases hf.symm.trans hfails

theorem loadRegistry_of_obstructed (h : Obstructed s fs f) :
    loadRegistry s.values fs = .error f := by
  cases h with
  | opening wanted fails =>
    rw [loadRegistry_values wanted, settle, Bundle.load_of_unopened fails]
    rfl
  | telling wanted opened fails =>
    rw [loadRegistry_values wanted, settle, Bundle.result_of_hindered opened fails]
    rfl

/-! ### Warnings -/

def warnings (records : List Log.Record) : List Log.Record :=
  records.filter fun r => r.level = .warning && r.logger = logger

theorem warnings_append (a b : List Log.Record) :
    warnings (a ++ b) = warnings a ++ warnings b := List.filter_append a b

/-- What is said about a registry with files but no root document. -/
def rootWarnings (s : Settings) (registry : Registry) : List Log.Record :=
  if registry.size ≠ 0 ∧ (s.resolver registry).isAvailable = false then
    [noRootRecord s.values s.rootDocumentKey registry]
  else []

/-- What is said about a bundle that cannot be served. -/
def uiWarnings (s : Settings) (i : Installed) : List Log.Record :=
  if s.apiOnly = false ∧ i.resolver.isAvailable = false then [notServedRecord i.resolver] else []

theorem warnings_rootWarnings (s : Settings) (registry : Registry) :
    warnings (rootWarnings s registry) = rootWarnings s registry := by
  rw [rootWarnings]
  split <;> rfl

/-- The key that is looked for after loading is the one that the resolver looks for. -/
theorem rootRecords_values (s : Settings) (registry : Registry) :
    rootRecords s.values registry = .ok (rootWarnings s registry) := by
  have hkey : (s.resolver registry).isAvailable = registry.contains s.rootDocumentKey := rfl
  rw [rootRecords, rootWarnings, Settings.rootDocumentKey_values, hkey]
  by_cases hz : registry.size = 0
  · rw [if_pos hz, if_neg (by simp [hz])]
  · rw [if_neg hz]
    cases hc : registry.contains s.rootDocumentKey with
    | true => simp [Except.map, hc]
    | false => simp [Except.map, hc, hz]

theorem logger_of_mem_gather {ns : Text} {gathered : List (Text × ByteArray)}
    {paths : List Bundle.Path} :
    ∀ r ∈ (Bundle.gather d ns gathered paths).records, r.logger = Bundle.logger := by
  induction paths generalizing gathered with
  | nil =>
    rw [Bundle.gather, Bundle.finish]
    split
    · intro r hr
      rw [List.mem_singleton.mp hr]
      rfl
    · exact List.forall_mem_nil _
  | cons path rest ih =>
    rw [Bundle.gather]
    split
    · exact ih
    · intro r hr
      rw [List.mem_singleton.mp hr]
      rfl

/-- The loader writes under a name of its own. -/
theorem warnings_load (fs : Bundle.FileSystem) (t ns : Text) (selection : Bundle.Selection) :
    warnings (Bundle.load fs t ns selection).records = [] := by
  have hlogger : ∀ r ∈ (Bundle.load fs t ns selection).records, r.logger = Bundle.logger := by
    rw [Bundle.load, Bundle.readAt]
    split
    · rw [Bundle.readInTurn]
      split
      · exact logger_of_mem_gather
      · exact List.forall_mem_nil _
    · intro r hr
      rw [List.mem_singleton.mp hr]
      rfl
    · exact List.forall_mem_nil _
  have hne : Bundle.logger ≠ logger := by decide
  rw [warnings, List.filter_eq_nil_iff]
  intro r hr
  simp [hlogger r hr, hne]

/-! ### Loading -/

theorem settle_of_ok {loaded : Bundle.Loaded} (h : loaded.result = .ok registry) :
    settle s.values loaded = .ok (registry, loaded.records ++ rootWarnings s registry) := by
  rw [settle, h]
  dsimp only
  rw [rootRecords_values]
  rfl

theorem settle_of_fault {loaded : Bundle.Loaded} {e : Bundle.LoadError} {fault : Fault}
    (h : loaded.result = .error e) (he : e.failure = .fault fault) :
    settle s.values loaded = .ok (.empty, loaded.records ++ [notLoadedRecord fault]) := by
  rw [settle, h]
  dsimp only
  rw [he]

theorem finds_empty (h : FindsNothing s fs) : Finds s fs .empty where
  entries := .inr rfl
  empty_iff := ⟨fun _ => h, fun _ => rfl⟩

theorem rootWarnings_empty (s : Settings) : rootWarnings s .empty = [] := by
  rw [rootWarnings, if_neg]
  exact fun h => h.1 rfl

/-- If all selected files can be read, the registry is empty only for want of such files. -/
theorem finds_of_readable (ho : s.apiOnly = false) (hopened : fs.opened s.assetDir = .ok (d, true))
    (hr : ∀ path ∈ d.discover s.selection, d.IsReadable path)
    (he : registry.entries = (d.discover s.selection).map (Bundle.entryOf d s.ns)) :
    Finds s fs registry where
  entries := .inl ⟨d, hopened, he⟩
  empty_iff := by
    rw [he, List.map_eq_nil_iff]
    refine ⟨.unselected hopened, fun hn => ?_⟩
    cases hn with
    | unwanted hw => cases ho.symm.trans hw
    | absent ha => cases hopened.symm.trans ha
    | unselected hd hn =>
      cases hopened.symm.trans hd
      exact hn
    | unreadable hd hm hu =>
      cases hopened.symm.trans hd
      exact absurd (hr _ hm) hu

theorem warnings_settled (fs : Bundle.FileSystem) (t ns : Text) (selection : Bundle.Selection)
    (s : Settings) (registry : Registry) :
    warnings ((Bundle.load fs t ns selection).records ++ rootWarnings s registry) =
      rootWarnings s registry := by
  rw [warnings_append, warnings_load, warnings_rootWarnings, List.nil_append]

/-- Without an obstruction there is a registry: that of all selected files, or the empty one. -/
theorem loadRegistry_ok (hfs : fs.WellFormed) (h : ∀ f, ¬ Obstructed s fs f) :
    ∃ registry found, loadRegistry s.values fs = .ok (registry, found) ∧ Finds s fs registry ∧
      warnings found = rootWarnings s registry := by
  cases ho : s.apiOnly with
  | true =>
    have hui : s.values.apiOnly.holds = true := ho
    refine ⟨.empty, _, by rw [loadRegistry, if_pos hui], finds_empty (.unwanted ho), ?_⟩
    rw [rootWarnings_empty]
    rfl
  | false =>
    rw [loadRegistry_values ho]
    cases hopened : fs.opened s.assetDir with
    | error e => exact absurd (.opening ho hopened) (h _)
    | ok found =>
      obtain ⟨d, isPresent⟩ := found
      cases isPresent with
      | false =>
        have hl : (Bundle.load fs s.assetDir s.ns s.selection).result = .ok .empty := by
          rw [Bundle.load_of_absent hopened]
        exact ⟨.empty, _, settle_of_ok hl, finds_empty (.absent hopened),
          warnings_settled fs _ _ _ s .empty⟩
      | true =>
        have hf : d.failure? = none := by
          cases hf : d.failure? with
          | none => rfl
          | some e => exact absurd (.telling ho hopened hf) (h _)
        rcases Bundle.all_readable_or_first d (d.discover s.selection) with
          hr | ⟨before, path, after, reason, hs, hb, hr⟩
        · obtain ⟨registry, hl, he⟩ := Bundle.result_of_readable s.ns hfs hopened hf hr
          exact ⟨registry, _, settle_of_ok hl, finds_of_readable ho hopened hr he,
            warnings_settled fs _ _ _ s registry⟩
        · have hl : (Bundle.load fs s.assetDir s.ns s.selection).result = _ :=
            Bundle.result_of_unreadable hopened hf hs hb hr
          have hm : path ∈ d.discover s.selection := by simp [hs]
          have hu : ¬ d.IsReadable path := by simp [Bundle.Directory.IsReadable, hr]
          refine ⟨.empty, _, settle_of_fault hl rfl, finds_empty (.unreadable hopened hm hu), ?_⟩
          rw [warnings_append, warnings_load, rootWarnings_empty]
          rfl

/-! ### Starting -/

theorem uiRecords_ok (s : Settings) (threshold : Nat) (i : Installed) :
    ∃ more, uiRecords s.values threshold i = .ok more ∧ warnings more = uiWarnings s i := by
  have hui : s.values.apiOnly.holds = s.apiOnly := rfl
  have hport : s.values.port.asWhole = .ok s.port := rfl
  rw [uiRecords, uiWarnings, hui]
  cases s.apiOnly with
  | true => exact ⟨[], rfl, rfl⟩
  | false =>
    cases i.resolver.isAvailable with
    | false => exact ⟨_, rfl, rfl⟩
    | true =>
      by_cases hl : Log.Level.info.number < threshold
      · exact ⟨[], by simp [hl], rfl⟩
      · refine ⟨[servedRecord s.values i.registry s.port], ?_, rfl⟩
        simp [hl, hport, Except.map]

/-- What is installed is all that the rest of a start depends on. -/
theorem start_of_installOnce (threshold : Nat) {handedOver : Option Installed} {i : Installed}
    {found : List Log.Record} (h : installOnce s.values handedOver fs = .ok (i, found)) :
    ∃ records, start s.values threshold handedOver fs = .ok (i, records) ∧
      warnings records = warnings found ++ uiWarnings s i := by
  obtain ⟨more, hm, hw⟩ := uiRecords_ok s threshold i
  refine ⟨[ruler, startingRecord] ++ found ++ more ++ [ruler], ?_, ?_⟩
  · rw [start, h]
    show (uiRecords s.values threshold i >>= _) = _
    rw [hm]
    rfl
  · have hframe : warnings [ruler, startingRecord] = [] ∧ warnings [ruler] = [] := ⟨rfl, rfl⟩
    simp only [warnings_append, hframe, hw, List.nil_append, List.append_nil]

end Startup

namespace App

open Startup

variable {app : App} {pages : Endpoints.Pages} {s : Settings} {fs : Bundle.FileSystem}
  {level : Log.Level} {i : Installed} {found : List Log.Record}

/-- In every state a start succeeds, with so much installed and the log at a level. The warnings are
those about what was found and the one about a bundle that cannot be served. -/
def Starts (app : App) (s : Settings) (fs : Bundle.FileSystem) (level : Log.Level) (i : Installed)
    (found : List Log.Record) : Prop :=
  ∀ state, ∃ records, app.start state fs = .ok
      ({ state with installed := some i, threshold := level.number },
        { records := Log.kept level.number records }) ∧
    warnings records = warnings found ++ uiWarnings s i

/-- Only the braces of a namespace can stand in the way of a service, and only where the interface
has addresses. -/
theorem make_of_apiOnly_or (pages : Endpoints.Pages) (hf : s.Fit)
    (h : s.apiOnly = true ∨ '\x7b' ∉ s.ns) : ∃ app, make pages s.values none = .ok app := by
  cases ho : s.apiOnly with
  | true =>
    have hr : Routing.routes s.values.apiOnly.holds s.uiPrefix = .ok Routing.fixedRoutes := by
      have hui : s.values.apiOnly.holds = true := ho
      rw [Routing.routes, if_pos hui]
    exact make_of_routes pages hf hr rfl
  | false => exact make_of_handOver pages hf ho (h.resolve_left (by simp [ho])) rfl

theorem setup_values (h : s.logLevel = level.name) :
    Log.setup s.values.logLevel = .ok (.ofNumber level.number) := by
  rw [← Log.setupNamed_level, ← h]
  rfl

theorem IsMade.starts {registry : Option GivenRegistry} (h : app.IsMade pages s.values registry)
    (hl : s.logLevel = level.name)
    (ho : installOnce s.values app.handedOver fs = .ok (i, found)) :
    app.Starts s fs level i found := by
  intro state
  obtain ⟨records, hr, hw⟩ := start_of_installOnce level.number ho
  refine ⟨records, ?_, hw⟩
  rw [start, h.values, setup_values hl]
  show (Startup.start s.values level.number app.handedOver fs >>= _) = _
  rw [hr]
  rfl

theorem IsMade.start_of_obstructed {f : Failure} (h : app.IsMade pages s.values none)
    (hl : s.logLevel = level.name) (ho : Obstructed s fs f) (state : State) :
    app.start state fs = .error f := by
  rw [start, h.values, setup_values hl, h.handedOver_eq_none]
  show (Startup.start s.values level.number none fs >>= _) = _
  rw [Startup.start, installOnce, loadRegistry_of_obstructed ho]
  rfl

/-- Of checked settings nothing stops a start but an obstruction in the file system. Without one the
service starts with all selected files, or with none if there is nothing to serve, and it warns
about a bundle without a root document, and about an interface that cannot be served. -/
theorem starts_unless_obstructed (pages : Endpoints.Pages) {given : Fields}
    (hs : Settings.check given = .valid s) (hfs : fs.WellFormed) :
    (∃ c, Security.Config.ofProfile s.securityProfile = .ok c ∧ c.problem? = none) ∧
    (s.apiOnly = true ∨ '\x7b' ∉ s.ns → ∃ app, make pages s.values none = .ok app) ∧
    (∀ f, Obstructed s fs f → ∃ e, f = .fileSystem e ∧ fs.Hindered s.assetDir e) ∧
    ∃ level : Log.Level, s.logLevel = level.name ∧
      Log.setup s.values.logLevel = .ok (.ofNumber level.number) ∧
      (∀ f, Obstructed s fs f → loadRegistry s.values fs = .error f ∧
        ∀ app, make pages s.values none = .ok app → ∀ state, app.start state fs = .error f) ∧
      ((∀ f, ¬ Obstructed s fs f) → ∃ registry found,
        loadRegistry s.values fs = .ok (registry, found) ∧ Finds s fs registry ∧
          warnings found = rootWarnings s registry ∧
          ∀ app, make pages s.values none = .ok app →
            app.Starts s fs level (installation s registry) found) ∧
      ∀ registry app, make pages s.values (some registry) = .ok app →
        ∃ i, install s.values registry = .ok i ∧ app.Starts s fs level i [] := by
  have hf : s.Fit := Settings.fit_of_check hs
  obtain ⟨level, hl⟩ := hf.logLevel
  refine ⟨?profile, ?made, fun f ho => ho.cause hfs, level, hl, setup_values hl, ?obstructed, ?free,
    ?handedOver⟩
  case profile =>
    obtain ⟨c, hc⟩ := securityOf_of_mem hf.securityProfile
    have hp := ofProfile?_of_securityOf hc
    exact ⟨c, by rw [Security.Config.ofProfile, hp], Security.Config.problem?_of_ofProfile? hp⟩
  case made => exact make_of_apiOnly_or pages hf
  case obstructed =>
    intro f ho
    refine ⟨loadRegistry_of_obstructed ho, ?_⟩
    intro app hmake state
    exact (isMade_of_make hmake).start_of_obstructed hl ho state
  case free =>
    intro hnone
    obtain ⟨registry, found, hload, hfinds, hw⟩ := loadRegistry_ok hfs hnone
    refine ⟨registry, found, hload, hfinds, hw, ?_⟩
    intro app hmake
    have hm : app.IsMade pages s.values none := isMade_of_make hmake
    refine hm.starts hl ?_
    rw [hm.handedOver_eq_none, installOnce, hload]
    rfl
  case handedOver =>
    intro registry app hmake
    have hm : app.IsMade pages s.values (some registry) := isMade_of_make hmake
    obtain ⟨he, hsome⟩ := hm.handedOver_eq_binding
    obtain ⟨i, hi⟩ := Option.isSome_iff_exists.mp hsome
    refine ⟨i, binding_eq_some.mp (he.symm.trans hi), hm.starts hl ?_⟩
    rw [hi]
    rfl

/-- A service with the default settings starts with two files, of which neither is the root
document, and does not start where there is a link to a name that is too long. -/
theorem starts_nested : ∃ app, make Endpoints.blankPages ({} : Settings).values none = .ok app ∧
    (∃ level registry found, Finds {} (Bundle.site nested) registry ∧
      app.Starts {} (Bundle.site nested) level (installation {} registry) found) ∧
    ∀ state, app.start state (Bundle.site Bundle.strayLink) =
      .error (.fileSystem .nameTooLong) := by
  have hfree : ∀ f, ¬ Obstructed {} (Bundle.site nested) f :=
    fun _ => not_obstructed (Bundle.opened_site nested) failure?_nested
  have hstray : Obstructed {} (Bundle.site Bundle.strayLink) (.fileSystem .nameTooLong) :=
    .telling rfl (Bundle.opened_site Bundle.strayLink) Bundle.failure?_strayLink
  obtain ⟨-, hmake, -, level, -, -, -, hstarts, -⟩ :=
    starts_unless_obstructed Endpoints.blankPages Settings.check_nil wellFormed_nested
  obtain ⟨-, -, -, -, -, -, hstops, -⟩ :=
    starts_unless_obstructed Endpoints.blankPages Settings.check_nil Bundle.wellFormed_strayLink
  obtain ⟨app, ha⟩ := hmake (.inr (by decide))
  obtain ⟨registry, found, -, hfinds, -, hstart⟩ := hstarts hfree
  exact ⟨app, ha, ⟨level, registry, found, hfinds, hstart app ha⟩, (hstops _ hstray).2 app ha⟩

end App
end BundleHost
