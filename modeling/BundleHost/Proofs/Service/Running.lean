import BundleHost.Service.App

/-! What a service is made of, and what stays through its life. A bundle that is handed over when
the service is made is installed from the first moment on, and no event replaces it: not a start,
whatever the directory holds by then, not a stop and not a request. -/

namespace BundleHost

/-- Pages with nothing on them. -/
def Endpoints.blankPages : Endpoints.Pages := fun _ => .empty

namespace App

variable {app : App} {pages : Endpoints.Pages} {v : Settings.Values}
  {registry : Option GivenRegistry} {i : Installed} {s s' : State}

/-- The parts of a service that was made. -/
structure IsMade (app : App) (pages : Endpoints.Pages) (v : Settings.Values)
    (registry : Option GivenRegistry) : Prop where
  values : app.values = v
  pages : app.pages = pages
  security : securityOf v.securityProfile.plain = .ok app.security
  handedOver : handOver v registry = .ok app.handedOver
  origins : v.corsOrigins.asItems = .ok app.origins
  uiPrefix : v.uiPrefix = .ok app.uiPrefix
  routes : Routing.routes v.apiOnly.holds app.uiPrefix = .ok app.routes

theorem isMade_of_make (h : make pages v registry = .ok app) : app.IsMade pages v registry := by
  rw [make] at h
  obtain ⟨security, hsecurity, h⟩ := of_bind_eq_ok h
  obtain ⟨rendered, -, h⟩ := of_bind_eq_ok h
  obtain ⟨handedOver, hhandedOver, h⟩ := of_bind_eq_ok h
  obtain ⟨origins, horigins, h⟩ := of_bind_eq_ok h
  obtain ⟨uiPrefix, huiPrefix, h⟩ := of_bind_eq_ok h
  obtain ⟨routes, hroutes, h⟩ := of_bind_eq_ok h
  cases h
  exact ⟨rfl, rfl, hsecurity, hhandedOver, horigins, huiPrefix, hroutes⟩

/-! ### Events -/

/-- What is installed is the bundle that was handed over. -/
def Holds (app : App) (i : Installed) (s : State) : Prop :=
  app.handedOver = some i ∧ s.installed = some i

theorem holds_initial (h : app.handedOver = some i) : app.Holds i app.initial := ⟨h, h⟩

theorem holds_start {fs : Bundle.FileSystem} {seen : Observation} (hs : app.Holds i s)
    (h : app.start s fs = .ok (s', seen)) : app.Holds i s' := by
  obtain ⟨hi, -⟩ := hs
  rw [start] at h
  obtain ⟨setup, -, h⟩ := of_bind_eq_ok h
  obtain ⟨started, hstart, h⟩ := of_bind_eq_ok h
  have hinstall : Startup.installOnce app.values (some i) fs = .ok (i, []) := rfl
  rw [Startup.start, hi, hinstall] at hstart
  obtain ⟨found, hfound, hstart⟩ := of_bind_eq_ok hstart
  cases hfound
  obtain ⟨more, -, hstart⟩ := of_bind_eq_ok hstart
  cases hstart
  cases h
  exact ⟨hi, rfl⟩

theorem holds_step {event : Event} {seen : Observation} (hs : app.Holds i s)
    (h : app.step s event = .ok (s', seen)) : app.Holds i s' := by
  cases event with
  | start fs => exact holds_start hs h
  | stop =>
    cases h
    exact hs
  | request occasion request fault =>
    cases h
    exact ⟨hs.1, (installed_answer app s occasion request fault).trans hs.2⟩

theorem of_run_cons {event : Event} {rest : List Event} {last : State} {seen : List Observation}
    (h : app.run s (event :: rest) = .ok (last, seen)) :
    ∃ next first more, app.step s event = .ok (next, first) ∧
      app.run next rest = .ok (last, more) ∧ seen = first :: more := by
  rw [run] at h
  obtain ⟨⟨next, first⟩, hfirst, h⟩ := of_bind_eq_ok h
  obtain ⟨⟨last', more⟩, hrest, h⟩ := of_bind_eq_ok h
  cases h
  exact ⟨next, first, more, hfirst, hrest, rfl⟩

/-- What every event preserves holds at the end of a run. -/
theorem run_induction {P : State → Prop}
    (hstep : ∀ s event s' seen, P s → app.step s event = .ok (s', seen) → P s')
    {events : List Event} {seen : List Observation} (hs : P s)
    (h : app.run s events = .ok (s', seen)) : P s' := by
  induction events generalizing s seen with
  | nil =>
    cases h
    exact hs
  | cons event rest ih =>
    obtain ⟨next, first, more, hfirst, hrest, -⟩ := of_run_cons h
    exact ih (hstep _ _ _ _ hs hfirst) hrest

/-- No run replaces the bundle that was handed over. -/
theorem holds_run {events : List Event} {seen : List Observation} (hs : app.Holds i s)
    (h : app.run s events = .ok (s', seen)) : app.Holds i s' :=
  run_induction (fun _ _ _ _ => holds_step) hs h

end App
end BundleHost
