import BundleHost.Proofs.Http.PathTemplate
import BundleHost.Service.Routing

/-! The routes of an interface whose namespace has no braces. There are always such routes, and a
request for a path below the start of the interface goes to the file that the rest of the path
names, unless one of the fixed routes has just that path. -/

namespace BundleHost.Routing

open PathTemplate

/-! ### Single routes -/

/-- A route without parameters takes its own path, and that path with a line break after it. -/
theorem endpoint?_literal {methods : List Text} {t path : Text} {target : Target}
    (h : path ≠ t) (hb : path ≠ t ++ ['\n']) :
    Route.endpoint? ⟨methods, .literal t, target⟩ path = none := by
  rw [Route.endpoint?, find?_eq_captures?, captures?_literal, if_neg (by simp [h, hb])]
  rfl

theorem endpoint?_literal_self (methods : List Text) (t : Text) (endpoint : Endpoint) :
    Route.endpoint? ⟨methods, .literal t, .fixed endpoint⟩ t = some (.ok endpoint) := by
  rw [Route.endpoint?, find?_eq_captures?, captures?_literal, if_pos (by simp)]
  rfl

/-- The template of the paths below a start. -/
def belowTemplate (root : Text) : PathTemplate :=
  literal (root ++ ['/']) ++ [.parameter pathName .path]

theorem ofText_below {root : Text} (h : '\x7b' ∉ root) :
    PathTemplate.ofText (root ++ belowRoot) = .ok (belowTemplate root) := by
  have hs : '\x7b' ∉ root ++ ['/'] := by simp [h]
  have ht : root ++ belowRoot = (root ++ ['/']) ++ "\x7bpath:path\x7d".toList := by
    rw [List.append_assoc]
    rfl
  have hp : readAfter 0 "\x7bpath:path\x7d".toList = .ok [.parameter pathName .path] := rfl
  have hr : readAfter 0 (root ++ belowRoot) = .ok (belowTemplate root) := by
    rw [ht, readAfter_append hs, hp]
    rfl
  have hn : repeated? (names (belowTemplate root)) = none := by
    rw [belowTemplate, names_literal_append]
    rfl
  rw [PathTemplate.ofText, hr]
  dsimp only
  rw [hn]

theorem isNamed_belowTemplate {root : Text} (h : '\x7b' ∉ root) :
    (belowTemplate root).isNamed pathName = true := by
  rw [belowTemplate, isNamed_literal_append (by simp [h])]
  decide

/-- The rest of a path is what the parameter stands for. -/
theorem endpoint?_below {methods : List Text} {root name : Text} (h : '\n' ∉ name) :
    Route.endpoint? ⟨methods, belowTemplate root, .below⟩ (root ++ '/' :: name) =
      some (.ok (.ui name)) := by
  have hp : root ++ '/' :: name = (root ++ ['/']) ++ name := by simp
  rw [Route.endpoint?, find?_eq_captures?, belowTemplate, hp, captures?_literal_append,
    captures?_path _ h]
  rfl

/-! ### All routes -/

def uiRoutesAt (root : Text) : List Route := [
  ⟨getOrHead, .literal (root ++ ['/']), .fixed (.ui [])⟩,
  ⟨getOrHead, .literal root, .fixed (.ui [])⟩,
  ⟨getOrHead, belowTemplate root, .below⟩]

theorem uiRoutes_ok {root : Text} (h : '\x7b' ∉ root) : uiRoutes root = .ok (uiRoutesAt root) := by
  have hs : '\x7b' ∉ root ++ ['/'] := by simp [h]
  rw [uiRoutes, ofText_of_not_mem hs, ofText_of_not_mem h, ofText_below h]
  show Except.ok [_, _, (⟨getOrHead, belowTemplate root, belowTarget (belowTemplate root)⟩ : Route)]
    = _
  rw [belowTarget, if_pos (isNamed_belowTemplate h)]
  rfl

theorem routes_ok {uiPrefix : Text} (h : '\x7b' ∉ uiRoot uiPrefix) :
    routes false uiPrefix = .ok (fixedRoutes ++ uiRoutesAt (uiRoot uiPrefix)) := by
  rw [routes, if_neg (by simp), uiRoutes_ok h]
  rfl

/-- No fixed route has the path. -/
def IsFree (path : Text) : Prop := ∀ route ∈ fixedRoutes, route.template ≠ .literal path

/-- No fixed route has parameters, or a slash at the end of its path. -/
theorem exists_literal : ∀ route ∈ fixedRoutes,
    ∃ t, route.template = .literal t ∧ t.getLast? ≠ some '/' := by
  have hpage : ∀ page ∈ Page.all, page.path.getLast? ≠ some '/' := by decide
  intro route hr
  rcases List.mem_append.mp hr with hr | hr
  · obtain ⟨page, hp, rfl⟩ := List.mem_map.mp hr
    exact ⟨_, rfl, hpage page hp⟩
  · simp only [List.mem_cons, List.not_mem_nil, or_false] at hr
    rcases hr with rfl | rfl | rfl
    · exact ⟨_, rfl, by decide⟩
    · exact ⟨_, rfl, by decide⟩
    · exact ⟨_, rfl, by decide⟩

theorem taking_fixedRoutes_of_ne {path : Text}
    (h : ∀ route ∈ fixedRoutes, ∃ t, route.template = .literal t ∧ path ≠ t ∧ path ≠ t ++ ['\n']) :
    taking fixedRoutes path = [] := by
  rw [taking, List.filterMap_eq_nil_iff]
  intro route hr
  obtain ⟨t, ht, hne, hnb⟩ := h route hr
  obtain ⟨methods, template, target⟩ := route
  cases ht
  have hn : Route.endpoint? ⟨methods, .literal t, target⟩ path = none := endpoint?_literal hne hnb
  exact congrArg (Option.map _) hn

theorem taking_fixedRoutes {path : Text} (h : IsFree path) (hb : path.getLast? ≠ some '\n') :
    taking fixedRoutes path = [] := by
  refine taking_fixedRoutes_of_ne fun route hr => ?_
  obtain ⟨t, ht, -⟩ := exists_literal route hr
  refine ⟨t, ht, ?_, ?_⟩
  · rintro rfl
    exact h route hr ht
  · rintro rfl
    simp at hb

/-- No fixed route takes a path with a slash at its end. -/
theorem taking_fixedRoutes_slash (root : Text) : taking fixedRoutes (root ++ ['/']) = [] := by
  refine taking_fixedRoutes_of_ne fun route hr => ?_
  obtain ⟨t, ht, hl⟩ := exists_literal route hr
  refine ⟨t, ht, ?_, ?_⟩
  · rintro rfl
    simp at hl
  · intro e
    have hlast := congrArg List.getLast? e
    simp at hlast

/-- The last route is the only one that takes a path below the start of the interface. -/
theorem taking_below {uiPrefix name : Text} (hn : '\n' ∉ name) (hne : name ≠ [])
    (hf : IsFree (uiRoot uiPrefix ++ '/' :: name)) :
    taking (fixedRoutes ++ uiRoutesAt (uiRoot uiPrefix)) (uiRoot uiPrefix ++ '/' :: name) =
      [⟨⟨getOrHead, belowTemplate (uiRoot uiPrefix), .below⟩, .ok (.ui name)⟩] := by
  have hl : (uiRoot uiPrefix ++ '/' :: name).getLast? ≠ some '\n' := by
    rw [List.getLast?_append, List.getLast?_cons, List.getLast?_eq_some_getLast hne]
    intro e
    refine hn ?_
    rw [← Option.some.inj e]
    exact List.getLast_mem hne
  have hs : uiRoot uiPrefix ++ '/' :: name ≠ uiRoot uiPrefix ++ ['/'] := by simpa using hne
  have hr : uiRoot uiPrefix ++ '/' :: name ≠ uiRoot uiPrefix := by simp
  have hbreak : ∀ t : Text, uiRoot uiPrefix ++ '/' :: name ≠ t ++ ['\n'] := by
    intro t e
    rw [e] at hl
    simp at hl
  have hfixed := taking_fixedRoutes hf hl
  rw [taking] at hfixed ⊢
  rw [List.filterMap_append, hfixed, List.nil_append, uiRoutesAt, List.filterMap_cons,
    endpoint?_literal hs (hbreak _), List.filterMap_cons, endpoint?_literal hr (hbreak _),
    List.filterMap_cons, endpoint?_below hn]
  rfl

/-- A request for a path below the start of the interface asks for the file that is named there. -/
theorem decide_below {uiPrefix name : Text} (hn : '\n' ∉ name) (hne : name ≠ [])
    (hf : IsFree (uiRoot uiPrefix ++ '/' :: name)) :
    Routing.decide (fixedRoutes ++ uiRoutesAt (uiRoot uiPrefix)) (.text "GET")
      (uiRoot uiPrefix ++ '/' :: name) = .ok (.run (.ui name)) := by
  rw [decide_text, choose, taking_below hn hne hf]
  rfl

/-! ### The start of the interface -/

theorem taking_append (a b : List Route) (path : Text) :
    taking (a ++ b) path = taking a path ++ taking b path := List.filterMap_append

/-- The first route that takes a path decides, if it has the method. -/
theorem decide_of_taking {routes : List Route} {path : Text} {route : Route} {endpoint : Endpoint}
    {rest : List Taking} (h : taking routes path = ⟨route, .ok endpoint⟩ :: rest)
    (hm : route.hasMethod (.text "GET") = true) :
    Routing.decide routes (.text "GET") path = .ok (.run endpoint) := by
  have hs : Taking.settles ⟨route, .ok endpoint⟩ (.text "GET") = true := by
    rw [Taking.settles, hm]
    rfl
  rw [decide_text, choose, h, List.find?_cons, hs]
  rfl

theorem decide_fixed {path : Text} {route : Route} {endpoint : Endpoint} (more : List Route)
    (h : taking fixedRoutes path = [⟨route, .ok endpoint⟩])
    (hm : route.hasMethod (.text "GET") = true) :
    Routing.decide (fixedRoutes ++ more) (.text "GET") path = .ok (.run endpoint) := by
  have htaking : taking (fixedRoutes ++ more) path = ⟨route, .ok endpoint⟩ :: taking more path := by
    rw [taking_append, h]
    rfl
  exact decide_of_taking htaking hm

/-- With a slash at its end, the start of the interface goes to the interface. -/
theorem decide_slashed (root : Text) :
    Routing.decide (fixedRoutes ++ uiRoutesAt root) (.text "GET") (root ++ ['/']) =
      .ok (.run (.ui [])) := by
  have htaking : ∃ rest, taking (fixedRoutes ++ uiRoutesAt root) (root ++ ['/']) =
      ⟨⟨getOrHead, .literal (root ++ ['/']), .fixed (.ui [])⟩, .ok (.ui [])⟩ :: rest := by
    rw [taking_append, taking_fixedRoutes_slash, List.nil_append, taking, uiRoutesAt,
      List.filterMap_cons, endpoint?_literal_self]
    exact ⟨_, rfl⟩
  obtain ⟨rest, hrest⟩ := htaking
  exact decide_of_taking hrest rfl

/-- Without the slash it does so too, unless one of the fixed routes takes it. -/
theorem decide_bare {root : Text} (hf : taking fixedRoutes root = []) :
    Routing.decide (fixedRoutes ++ uiRoutesAt root) (.text "GET") root = .ok (.run (.ui [])) := by
  have htaking : ∃ rest, taking (fixedRoutes ++ uiRoutesAt root) root =
      ⟨⟨getOrHead, .literal root, .fixed (.ui [])⟩, .ok (.ui [])⟩ :: rest := by
    rw [taking_append, hf, List.nil_append, taking, uiRoutesAt, List.filterMap_cons,
      endpoint?_literal (by simp) (by simp), List.filterMap_cons, endpoint?_literal_self]
    exact ⟨_, rfl⟩
  obtain ⟨rest, hrest⟩ := htaking
  exact decide_of_taking hrest rfl

theorem eq_of_endpoint?_literal {methods : List Text} {t path : Text} {endpoint : Endpoint}
    {found : Except Failure Endpoint}
    (h : Route.endpoint? ⟨methods, .literal t, .fixed endpoint⟩ path = some found) :
    found = .ok endpoint := by
  rw [Route.endpoint?, find?_eq_captures?, captures?_literal] at h
  split at h
  · exact (Option.some.inj h).symm
  · cases h

/-- A path that a fixed route takes does not go to the interface. -/
theorem decide_ne_ui {path : Text} (more : List Route) (h : taking fixedRoutes path ≠ [])
    (name : Text) :
    Routing.decide (fixedRoutes ++ more) (.text "GET") path ≠ .ok (.run (.ui name)) := by
  have hall : ∀ t ∈ taking fixedRoutes path, ∃ endpoint, t.endpoint = .ok endpoint ∧
      t.route.hasMethod (.text "GET") = true ∧ ∀ name, endpoint ≠ .ui name := by
    simp only [taking, List.mem_filterMap, Option.map_eq_some_iff]
    rintro _ ⟨route, hr, found, hfound, rfl⟩
    rcases List.mem_append.mp hr with hr | hr
    · obtain ⟨page, -, rfl⟩ := List.mem_map.mp hr
      exact ⟨_, eq_of_endpoint?_literal hfound, rfl, nofun⟩
    · simp only [List.mem_cons, List.not_mem_nil, or_false] at hr
      rcases hr with rfl | rfl | rfl <;>
        exact ⟨_, eq_of_endpoint?_literal hfound, rfl, nofun⟩
  obtain ⟨t, rest, ht⟩ := List.exists_cons_of_ne_nil h
  obtain ⟨endpoint, he, hm, hne⟩ := hall t (by simp [ht])
  obtain ⟨route, found⟩ := t
  cases he
  have htaking : taking (fixedRoutes ++ more) path =
      ⟨route, .ok endpoint⟩ :: (rest ++ taking more path) := by
    rw [taking_append, ht]
    rfl
  rw [decide_of_taking htaking hm]
  intro e
  cases e
  exact hne name rfl

/-- All services have the fixed routes, before any other ones. -/
theorem exists_of_routes {apiOnly : Bool} {uiPrefix : Text} {all : List Route}
    (h : routes apiOnly uiPrefix = .ok all) : ∃ more, all = fixedRoutes ++ more := by
  rw [routes] at h
  split at h
  · cases h
    exact ⟨[], (List.append_nil _).symm⟩
  · cases hu : uiRoutes (uiRoot uiPrefix) with
    | error e =>
      rw [hu] at h
      cases h
    | ok more =>
      rw [hu] at h
      exact ⟨more, (Except.ok.inj h).symm⟩

/-! ### Paths that cannot be read -/

/-- If the path cannot be read, that is not a fault of the service. -/
def Taking.FailsWithoutFault (t : Taking) : Prop :=
  ∀ f, t.endpoint = .error f → ∀ g, f ≠ .fault g

theorem failsWithoutFault_of_taking {routes : List Route} {path : Text} :
    ∀ t ∈ taking routes path, t.FailsWithoutFault := by
  simp only [taking, List.mem_filterMap, Option.map_eq_some_iff, Route.endpoint?]
  rintro _ ⟨route, -, _, ⟨captures, -, rfl⟩, rfl⟩ f hf g
  dsimp only at hf
  rw [Target.read] at hf
  split at hf
  · cases hf
    nofun
  · cases hf

theorem failsWithoutFault_of_takingOther {routes : List Route} {path : Text} :
    ∀ t ∈ takingOther routes path, t.FailsWithoutFault := by
  rw [takingOther]
  split
  · nofun
  · exact failsWithoutFault_of_taking

theorem Taking.FailsWithoutFault.map {t : Taking} (ht : t.FailsWithoutFault) {f : Failure}
    {next : Endpoint → Decision} (h : t.endpoint.map next = .error f) (g : Fault) :
    f ≠ .fault g :=
  ht f (of_map_eq_error h) g

/-- No decision fails by a fault of the service. -/
theorem ne_fault_of_decide {routes : List Route} {method : Value} {path : Text} {f : Failure}
    (h : Routing.decide routes method path = .error f) (g : Fault) : f ≠ .fault g := by
  rw [Routing.decide] at h
  split at h
  · rw [choose] at h
    split at h
    · next t ht =>
      exact (failsWithoutFault_of_taking t (List.mem_of_find?_eq_some ht)).map h g
    · split at h
      · cases h
      · split at h
        · next t rest ht =>
          exact (failsWithoutFault_of_takingOther t (ht ▸ List.mem_cons_self)).map h g
        · cases h
  · split at h
    · next t rest ht =>
      have hm : t ∈ taking routes path ++ takingOther routes path := ht ▸ List.mem_cons_self
      have hw : t.FailsWithoutFault := (List.mem_append.mp hm).elim
        (failsWithoutFault_of_taking t) (failsWithoutFault_of_takingOther t)
      rcases of_bind_eq_error h with he | ⟨_, -, h⟩
      · exact hw f he g
      · cases h
        nofun
    · cases h

end BundleHost.Routing
