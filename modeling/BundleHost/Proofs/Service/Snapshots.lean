import BundleHost.Proofs.Service.OwnAddress

/-! Which bundle is served as time goes by. Four kinds of things happen around a service, in any
order: the disk changes, it is started, it is stopped, and it gets requests. A start takes a
snapshot of its bundle as it is on the disk at that moment, unless a registry was handed over when
the service was made, and a start that fails on the way takes none. The last snapshot is all that an
answer depends on, apart from the request and the settings: a change of the disk shows with the
next start and not before it, and no request, however it ends, leaves a trace. -/

namespace BundleHost

namespace Startup

/-- What is installed with a registry, if it can be bound to the settings. -/
def binding (v : Settings.Values) (registry : GivenRegistry) : Option Installed :=
  (install v registry).toOption

/-- A start gets as far as installing the registry that it loads from a disk. -/
structure Takes (v : Settings.Values) (disk : Bundle.FileSystem) (registry : Registry) :
    Prop where
  logs : ∃ setup, Log.setup v.logLevel = .ok setup
  loads : ∃ records, loadRegistry v disk = .ok (registry, records)
  binds : (binding v (.ofRegistry registry)).isSome

theorem binding_eq_some {v : Settings.Values} {registry : GivenRegistry} {i : Installed} :
    binding v registry = some i ↔ install v registry = .ok i := by
  rw [binding]
  cases install v registry <;> simp [Except.toOption]

/-- What a start installs that is not given anything is what it takes from the disk. -/
theorem installOnce_ok {v : Settings.Values} {disk : Bundle.FileSystem} {i : Installed}
    {records : List Log.Record} (h : installOnce v none disk = .ok (i, records)) :
    ∃ registry, loadRegistry v disk = .ok (registry, records) ∧
      binding v (.ofRegistry registry) = some i := by
  rw [installOnce] at h
  obtain ⟨⟨registry, found⟩, hload, h⟩ := of_bind_eq_ok h
  obtain ⟨bound, hbound, h⟩ := of_bind_eq_ok h
  cases h
  exact ⟨registry, hload, binding_eq_some.mpr hbound⟩

theorem installOnce_of_takes {v : Settings.Values} {disk : Bundle.FileSystem}
    {registry : Registry} (h : Takes v disk registry) :
    ∃ i records, installOnce v none disk = .ok (i, records) ∧
      binding v (.ofRegistry registry) = some i := by
  obtain ⟨records, hload⟩ := h.loads
  obtain ⟨i, hi⟩ := Option.isSome_iff_exists.mp h.binds
  refine ⟨i, records, ?_, hi⟩
  rw [installOnce, hload]
  show (install v (.ofRegistry registry) >>= _) = _
  rw [binding_eq_some.mp hi]
  rfl

variable {s : Settings}

theorem rootRecords_ok (s : Settings) (registry : Registry) :
    ∃ records, rootRecords s.values registry = .ok records := by
  rw [rootRecords, Settings.rootDocumentKey_values]
  split
  · exact ⟨_, rfl⟩
  · exact ⟨_, rfl⟩

theorem settle_ok (s : Settings) {loaded : Bundle.Loaded} {registry : Registry}
    (h : loaded.result = .ok registry) :
    ∃ records, settle s.values loaded = .ok (registry, records) := by
  obtain ⟨records, hr⟩ := rootRecords_ok s registry
  refine ⟨loaded.records ++ records, ?_⟩
  rw [settle, h]
  dsimp only
  rw [hr]
  rfl

theorem loadRegistry_values (hui : s.apiOnly = false) (fs : Bundle.FileSystem) :
    loadRegistry s.values fs = settle s.values (Bundle.load fs s.assetDir s.ns s.selection) := by
  have hholds : s.values.apiOnly.holds = false := hui
  rw [loadRegistry, hholds, Settings.selection_values]
  rfl

/-- With checked settings a bundle that can be loaded is taken. -/
theorem takes_of_load {disk : Bundle.FileSystem} {registry : Registry} (hf : s.Fit)
    (ho : s.apiOnly = false)
    (hl : (Bundle.load disk s.assetDir s.ns s.selection).result = .ok registry) :
    Takes s.values disk registry where
  logs := by
    obtain ⟨level, hlevel⟩ := hf.logLevel
    exact ⟨_, (congrArg Log.setupNamed hlevel).trans (Log.setupNamed_level level)⟩
  loads := by
    obtain ⟨records, hr⟩ := settle_ok s hl
    exact ⟨records, by rw [loadRegistry_values ho, hr]⟩
  binds := rfl

end Startup

namespace App

open Startup (binding Takes)

/-! ### Histories -/

/-- What happens to a service or to the disk that its bundle is on. -/
inductive Happening
  | change (disk : Bundle.FileSystem)
  | start
  | stop
  | request (occasion : Occasion) (request : Request) (fault : Option Failure)

structure World where
  disk : Bundle.FileSystem
  state : State

/-- The state that a start leaves, also if it fails: the log is set up first, then the bundle is
installed, and nothing of what was done is taken back. -/
def afterStart (app : App) (state : State) (disk : Bundle.FileSystem) : State :=
  match Log.setup app.values.logLevel with
  | .error _ => state
  | .ok setup =>
    match Startup.installOnce app.values app.handedOver disk with
    | .error _ => { state with threshold := setup.threshold }
    | .ok (i, _) => { state with installed := some i, threshold := setup.threshold }

def next (app : App) (w : World) : Happening → World
  | .change disk => { w with disk }
  | .start => { w with state := app.afterStart w.state w.disk }
  | .stop => w
  | .request occasion request fault =>
    { w with state := (app.answer w.state occasion request fault).1 }

/-- What a history leads to. -/
def after (app : App) (w : World) (history : List Happening) : World := history.foldl app.next w

variable {app app' : App} {v : Settings.Values} {registry registry' : Option GivenRegistry}
  {disk : Bundle.FileSystem} {history : List Happening} {w : World} {pages : Endpoints.Pages}

@[simp] theorem after_nil : app.after w [] = w := rfl

@[simp] theorem after_cons (x : Happening) (rest : List Happening) :
    app.after w (x :: rest) = app.after (app.next w x) rest := rfl

theorem after_append (before rest : List Happening) :
    app.after w (before ++ rest) = app.after (app.after w before) rest := List.foldl_append

theorem afterStart_of_start {state last : State} {seen : Observation}
    (h : app.start state disk = .ok (last, seen)) : app.afterStart state disk = last := by
  rw [start] at h
  obtain ⟨setup, hsetup, h⟩ := of_bind_eq_ok h
  obtain ⟨⟨i, all⟩, hstart, h⟩ := of_bind_eq_ok h
  obtain ⟨⟨i', found⟩, honce, hstart⟩ := of_bind_eq_ok hstart
  obtain ⟨more, -, hstart⟩ := of_bind_eq_ok hstart
  cases hstart
  cases h
  simp only [afterStart, hsetup, honce]

def Happening.leaves (disk : Bundle.FileSystem) : Happening → Bundle.FileSystem
  | .change changed => changed
  | .start | .stop | .request .. => disk

/-- The disk as a history leaves it. -/
def diskAfter (disk : Bundle.FileSystem) (history : List Happening) : Bundle.FileSystem :=
  history.foldl Happening.leaves disk

theorem disk_next (app : App) (w : World) (x : Happening) :
    (app.next w x).disk = x.leaves w.disk := by
  cases x <;> rfl

theorem disk_after (app : App) (w : World) (history : List Happening) :
    (app.after w history).disk = diskAfter w.disk history := by
  induction history generalizing w with
  | nil => rfl
  | cons x rest ih =>
    rw [after_cons, ih, disk_next]
    rfl

/-- The events of a history, each start with the disk that it finds. -/
def events (disk : Bundle.FileSystem) : List Happening → List Event
  | [] => []
  | .change changed :: rest => events changed rest
  | .start :: rest => .start disk :: events disk rest
  | .stop :: rest => .stop :: events disk rest
  | .request occasion request fault :: rest =>
    .request occasion request fault :: events disk rest

/-- A history in which no start fails is a run of the service. -/
theorem state_after_of_run {last : State} {seen : List Observation}
    (h : app.run w.state (events w.disk history) = .ok (last, seen)) :
    (app.after w history).state = last := by
  induction history generalizing w seen with
  | nil =>
    cases h
    rfl
  | cons x rest ih =>
    rw [after_cons]
    cases x with
    | change changed => exact ih h
    | start =>
      obtain ⟨started, first, more, hstart, hrest, -⟩ := of_run_cons h
      have hs : app.afterStart w.state w.disk = started := afterStart_of_start hstart
      rw [next, hs]
      exact ih hrest
    | stop =>
      obtain ⟨stopped, first, more, hstop, hrest, -⟩ := of_run_cons h
      cases hstop
      exact ih hrest
    | request occasion request fault =>
      obtain ⟨answered, first, more, hanswer, hrest, -⟩ := of_run_cons h
      cases hanswer
      exact ih hrest

/-! ### Snapshots -/

/-- No start of a history takes a snapshot. -/
def Quiet (v : Settings.Values) (disk : Bundle.FileSystem) : List Happening → Prop
  | [] => True
  | x :: rest =>
    (x = .start → ∀ taken, ¬ Takes v disk taken) ∧ Quiet v (x.leaves disk) rest

/-- The registry that is in use after a history: the one that was handed over, or else the one that
was taken from the disk at the last start that took one. -/
inductive InUse (v : Settings.Values) (registry : Option GivenRegistry)
    (disk : Bundle.FileSystem) : List Happening → Option GivenRegistry → Prop
  | handedOver {history : List Happening} {given : GivenRegistry} (h : registry = some given) :
    InUse v registry disk history (some given)
  | unstarted {history : List Happening} (h : registry = none) (quiet : Quiet v disk history) :
    InUse v registry disk history none
  | taken {before rest : List Happening} {snapshot : Registry} (h : registry = none)
    (takes : Takes v (diskAfter disk before) snapshot)
    (quiet : Quiet v (diskAfter disk before) rest) :
    InUse v registry disk (before ++ .start :: rest) (some (.ofRegistry snapshot))

theorem quiet_or_taken (v : Settings.Values) (disk : Bundle.FileSystem)
    (history : List Happening) :
    Quiet v disk history ∨ ∃ before rest snapshot, history = before ++ .start :: rest ∧
      Takes v (diskAfter disk before) snapshot ∧
      Quiet v (diskAfter disk before) rest := by
  induction history generalizing disk with
  | nil => exact .inl trivial
  | cons x rest ih =>
    obtain hrest | ⟨before, rest', snapshot, rfl, htakes, hquiet⟩ := ih (x.leaves disk)
    · by_cases hx : x = .start → ∀ taken, ¬ Takes v disk taken
      · exact .inl ⟨hx, hrest⟩
      · push Not at hx
        obtain ⟨rfl, taken, htaken⟩ := hx
        exact .inr ⟨[], rest, taken, rfl, htaken, hrest⟩
    · exact .inr ⟨x :: before, rest', snapshot, rfl, htakes, hquiet⟩

/-- After any history it is clear what is in use. -/
theorem exists_inUse (v : Settings.Values) (registry : Option GivenRegistry)
    (disk : Bundle.FileSystem) (history : List Happening) :
    ∃ snapshot, InUse v registry disk history snapshot := by
  cases registry with
  | some given => exact ⟨_, .handedOver rfl⟩
  | none =>
    obtain hquiet | ⟨before, rest, snapshot, rfl, htakes, hquiet⟩ :=
      quiet_or_taken v disk history
    · exact ⟨none, .unstarted rfl hquiet⟩
    · exact ⟨_, .taken rfl htakes hquiet⟩

/-! ### What is installed -/

theorem IsMade.handedOver_eq_binding {given : GivenRegistry} (h : app.IsMade pages v (some given)) :
    app.handedOver = binding v given ∧ app.handedOver.isSome := by
  have hh := h.handedOver
  rw [handOver] at hh
  obtain ⟨i, hi, hsome⟩ := of_map_eq_ok hh
  rw [← hsome, Startup.binding_eq_some.mpr hi]
  exact ⟨rfl, rfl⟩

theorem IsMade.handedOver_eq_none (h : app.IsMade pages v none) : app.handedOver = none :=
  (Except.ok.inj h.handedOver).symm

theorem installed_afterStart_of_some {i : Installed} {state : State}
    (h : app.handedOver = some i) (hs : state.installed = some i) :
    (app.afterStart state disk).installed = some i := by
  rw [afterStart, h, Startup.installOnce]
  cases Log.setup app.values.logLevel with
  | error f => exact hs
  | ok setup => rfl

/-- A start that takes a snapshot installs it. -/
theorem IsMade.installed_afterStart_of_takes (h : app.IsMade pages v none) {taken : Registry}
    (ht : Takes v disk taken) (state : State) :
    (app.afterStart state disk).installed = binding v (.ofRegistry taken) := by
  obtain ⟨setup, hsetup⟩ := ht.logs
  obtain ⟨i, records, honce, hi⟩ := Startup.installOnce_of_takes ht
  simp only [afterStart, h.values, h.handedOver_eq_none, hsetup, honce, hi]

/-- A start that takes no snapshot leaves the one from before. -/
theorem IsMade.installed_afterStart_of_not_takes (h : app.IsMade pages v none)
    (ht : ∀ taken, ¬ Takes v disk taken) (state : State) :
    (app.afterStart state disk).installed = state.installed := by
  rw [afterStart, h.values, h.handedOver_eq_none]
  cases hsetup : Log.setup v.logLevel with
  | error f => rfl
  | ok setup =>
    cases honce : Startup.installOnce v none disk with
    | error f => rfl
    | ok started =>
      obtain ⟨taken, hload, hi⟩ := Startup.installOnce_ok honce
      exact absurd ⟨⟨setup, hsetup⟩, ⟨_, hload⟩, by rw [hi]; rfl⟩ (ht taken)

theorem installed_after_of_some {i : Installed} (h : app.handedOver = some i)
    (hs : w.state.installed = some i) : (app.after w history).state.installed = some i := by
  induction history generalizing w with
  | nil => exact hs
  | cons x rest ih =>
    refine ih ?_
    cases x with
    | change changed => exact hs
    | start => exact installed_afterStart_of_some h hs
    | stop => exact hs
    | request occasion request fault => exact hs

theorem IsMade.installed_after_of_quiet (h : app.IsMade pages v none)
    (hq : Quiet v w.disk history) :
    (app.after w history).state.installed = w.state.installed := by
  induction history generalizing w with
  | nil => rfl
  | cons x rest ih =>
    obtain ⟨hx, hrest⟩ := hq
    rw [← disk_next app] at hrest
    rw [after_cons, ih hrest]
    cases x with
    | change changed => rfl
    | start => exact h.installed_afterStart_of_not_takes (hx rfl) w.state
    | stop => rfl
    | request occasion request fault => rfl

/-- What is installed after a history is what is in use, bound to the settings. -/
theorem IsMade.installed_after (h : app.IsMade pages v registry) {snapshot : Option GivenRegistry}
    (hu : InUse v registry disk history snapshot) :
    (app.after ⟨disk, app.initial⟩ history).state.installed = snapshot.bind (binding v) := by
  cases hu with
  | handedOver hg =>
    subst hg
    obtain ⟨he, hsome⟩ := h.handedOver_eq_binding
    obtain ⟨i, hi⟩ := Option.isSome_iff_exists.mp hsome
    rw [Option.bind_some, ← he, hi]
    exact installed_after_of_some hi hi
  | unstarted hn hquiet =>
    subst hn
    rw [h.installed_after_of_quiet hquiet]
    exact h.handedOver_eq_none
  | taken hn htakes hquiet =>
    subst hn
    -- the start finds the disk that the history before it has left
    rw [← disk_after app ⟨disk, app.initial⟩] at htakes hquiet
    rw [after_append, after_cons, h.installed_after_of_quiet (by rwa [disk_next])]
    exact h.installed_afterStart_of_takes htakes _

/-! ### Answers -/

def replyAfter (app : App) (disk : Bundle.FileSystem) (history : List Happening)
    (occasion : Occasion) (request : Request) (fault : Option Failure) : Option Reply :=
  (app.answer (app.after ⟨disk, app.initial⟩ history).state occasion request fault).2.reply

/-- How requests are answered does not depend on what was handed over. -/
theorem IsMade.respond_eq (h : app.IsMade pages v registry) (h' : app'.IsMade pages v registry') :
    app.respond = app'.respond := by
  have hvalues : app.values = app'.values := h.values.trans h'.values.symm
  have hsecurity : app.security = app'.security :=
    Except.ok.inj (h.security.symm.trans h'.security)
  have hpages : app.pages = app'.pages := h.pages.trans h'.pages.symm
  have hrendered : app.rendered = app'.rendered := by
    have hr := app.isRendered
    rw [hsecurity] at hr
    exact Except.ok.inj (hr.symm.trans app'.isRendered)
  have horigins : app.origins = app'.origins := Except.ok.inj (h.origins.symm.trans h'.origins)
  have huiPrefix : app.uiPrefix = app'.uiPrefix :=
    Except.ok.inj (h.uiPrefix.symm.trans h'.uiPrefix)
  have hroutes : app.routes = app'.routes := by
    have hr := h.routes
    rw [huiPrefix] at hr
    exact Except.ok.inj (hr.symm.trans h'.routes)
  funext installed fault occasion request
  simp only [respond, handler, securityLayer, hvalues, hpages, hsecurity, hrendered, horigins,
    huiPrefix, hroutes]

/-- A history in which no start fails is a run of the service. No request changes what is installed,
and after any history an answer depends on the settings, the request with its occasion, and the
snapshot in use: a service of the same settings with the same snapshot in use, whatever came before,
gives the same answer. -/
theorem answers_from_snapshot (hmake : make pages v registry = .ok app) (disk : Bundle.FileSystem)
    (history : List Happening) :
    (∀ last seen, app.run app.initial (events disk history) = .ok (last, seen) →
      (app.after ⟨disk, app.initial⟩ history).state = last) ∧
    (∀ occasion request fault,
      (app.after ⟨disk, app.initial⟩
          (history ++ [.request occasion request fault])).state.installed =
        (app.after ⟨disk, app.initial⟩ history).state.installed) ∧
    (∃ snapshot, InUse v registry disk history snapshot) ∧
    ∀ snapshot, InUse v registry disk history snapshot →
      (app.after ⟨disk, app.initial⟩ history).state.installed = snapshot.bind (binding v) ∧
      ∀ (registry' : Option GivenRegistry) (app' : App) (disk' : Bundle.FileSystem)
        (history' : List Happening), make pages v registry' = .ok app' →
        InUse v registry' disk' history' snapshot →
        ∀ occasion request fault, app.replyAfter disk history occasion request fault =
          app'.replyAfter disk' history' occasion request fault := by
  have hm : app.IsMade pages v registry := isMade_of_make hmake
  refine ⟨?_, ?_, exists_inUse v registry disk history, ?_⟩
  · intro last seen hrun
    exact state_after_of_run (w := ⟨disk, app.initial⟩) hrun
  · intro occasion request fault
    rw [after_append]
    rfl
  · intro snapshot hu
    refine ⟨hm.installed_after hu, ?_⟩
    intro registry' app' disk' history' hmake' hu' occasion request fault
    have hm' : app'.IsMade pages v registry' := isMade_of_make hmake'
    rw [replyAfter, replyAfter, answer, answer, hm.installed_after hu, hm'.installed_after hu',
      hm.respond_eq hm']

/-- The bundle goes away from the disk, a request and a stop follow, and the answers are those of a
service that has just been started. -/
theorem answers_of_nested : ∃ app snapshot,
    make Endpoints.blankPages ({} : Settings).values none = .ok app ∧
      Takes ({} : Settings).values (Bundle.site nested) snapshot ∧
      ∀ gone occasion request fault,
        app.replyAfter (Bundle.site nested)
            [.start, .change gone, .request occasion request fault, .stop] occasion request fault =
          app.replyAfter (Bundle.site nested) [.start] occasion request fault := by
  obtain ⟨snapshot, -, hl, -⟩ := exists_nested
  have hf : Settings.Fit {} := Settings.fit_of_check Settings.check_nil
  obtain ⟨app, hmake⟩ :=
    make_of_handOver (g := none) Endpoints.blankPages hf rfl (by decide) rfl
  have hplace : ({} : Settings).assetDir = Bundle.usualPlace := rfl
  have hselection : ({} : Settings).selection = .default := by decide +kernel
  have htakes : Takes ({} : Settings).values (Bundle.site nested) snapshot := by
    refine Startup.takes_of_load hf rfl ?_
    rw [hplace, hselection]
    exact hl
  refine ⟨app, snapshot, hmake, htakes, ?_⟩
  intro gone occasion request fault
  have hquiet : Quiet ({} : Settings).values (Bundle.site nested)
      [.change gone, .request occasion request fault, .stop] := ⟨nofun, nofun, nofun, trivial⟩
  have hu : InUse ({} : Settings).values none (Bundle.site nested)
      ([] ++ .start :: [.change gone, .request occasion request fault, .stop])
      (some (.ofRegistry snapshot)) := .taken rfl htakes hquiet
  have hu' : InUse ({} : Settings).values none (Bundle.site nested) ([] ++ .start :: [])
      (some (.ofRegistry snapshot)) := .taken rfl htakes trivial
  have h := (answers_from_snapshot hmake (Bundle.site nested) _).2.2.2 _ hu
  exact h.2 none app (Bundle.site nested) _ hmake hu' occasion request fault

end App
end BundleHost
