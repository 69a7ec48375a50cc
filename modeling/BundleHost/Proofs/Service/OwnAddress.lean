import BundleHost.Proofs.Asset.Entries
import BundleHost.Proofs.Bundle.Loading
import BundleHost.Proofs.Resolution.Decision
import BundleHost.Proofs.Service.Serving

/-! Each file of a bundle is served at its own address, which is a slash, the namespace, and the
path of the file in the bundle. There is one exception, which comes from the rule that a path which
starts with the namespace is a key already: a file below a directory of the name of the namespace
has a key that no request asks for, and its address is that of the file with the namespace taken
off once. -/

namespace BundleHost

variable {fs : Bundle.FileSystem} {d : Bundle.Directory} {t : Text} {isPresent : Bool}
  {pages : Endpoints.Pages} {s : Settings} {selection : Bundle.Selection} {registry : Registry}

def Settings.address (s : Settings) (path : Bundle.Path) : Text := '/' :: s.ns ++ path.relative

/-! ### Keys -/

namespace Bundle

/-- A selected file is registered under its key. -/
theorem find?_of_mem_discover {ns : Text} (hfs : fs.WellFormed)
    (hopened : fs.opened t = .ok (d, isPresent))
    (hl : (load fs t ns selection).result = .ok registry) {path : Path}
    (hp : path ∈ d.discover selection) :
    ∃ data, d.fileAt path = .ok (some data) ∧
      registry.find? (keyOf ns path) = some ⟨keyOf ns path, data⟩ := by
  obtain ⟨hm, hfile, -⟩ := Directory.mem_discover.mp hp
  have he := entries_of_result hfs (opened_of_mem_paths hopened hm) hl
  rw [Directory.isFile, Directory.fileAt?] at hfile
  cases hf : d.fileAt path with
  | error e => rw [hf] at hfile; cases hfile
  | ok found =>
    cases found with
    | none => rw [hf] at hfile; cases hfile
    | some data =>
      refine ⟨data, rfl, Registry.find?_eq_some.mpr ?_⟩
      rw [he, List.mem_map]
      refine ⟨path, hp, ?_⟩
      rw [entryOf, Directory.fileAt?, hf]
      rfl

/-- The keys of a bundle are those of its selected files. -/
theorem contains_iff {ns : Text} (hfs : fs.WellFormed) (hopened : fs.opened t = .ok (d, true))
    (hl : (load fs t ns selection).result = .ok registry) {key : Text} :
    registry.contains key = true ↔ ∃ path ∈ d.discover selection, key = keyOf ns path := by
  rw [Registry.contains, List.contains_iff_mem, Registry.keys_eq, entries_of_result hfs hopened hl,
    List.map_map, List.mem_map]
  constructor
  · rintro ⟨path, hm, rfl⟩
    exact ⟨path, hm, rfl⟩
  · rintro ⟨path, hm, rfl⟩
    exact ⟨path, hm, rfl⟩

/-- The type of a file is that of its path in the bundle. -/
theorem ofPath_keyOf {ns : Text} (h : Settings.IsNamespace ns) (path : Path) :
    MimeType.ofPath (keyOf ns path) = MimeType.ofPath path.relative := by
  obtain ⟨bare, rfl, -, -⟩ := h
  rw [keyOf, List.append_assoc, List.singleton_append]
  exact MimeType.ofPath_append_slash bare path.relative

end Bundle

/-! ### Serving -/

namespace App

/-- A request that is sent to the interface with a path that leads to the key of a selected file
gets that file. -/
theorem IsMade.delivers_file {app : App}
    (hm : app.IsMade pages s.values (some (.ofRegistry registry))) (hf : s.Fit)
    (hfs : fs.WellFormed) (hopened : fs.opened t = .ok (d, isPresent))
    (hl : (Bundle.load fs t s.ns selection).result = .ok registry)
    {state : State} (hs : app.Holds (installation s registry) state) {occasion : Occasion}
    {request : Request} {path name : Text} (ha : Asks occasion request path)
    (hroute : Routing.decide app.routes (.text "GET") path = .ok (.run (.ui name)))
    {file : Bundle.Path} (hp : file ∈ d.discover selection)
    (hk : Key.ofPath s.ns name = Bundle.keyOf s.ns file) :
    ∃ data, d.fileAt file = .ok (some data) ∧
      app.Delivers state occasion request data (MimeType.ofPath file.relative) := by
  obtain ⟨data, hdata, hfind⟩ := Bundle.find?_of_mem_discover hfs hopened hl hp
  rw [← hk] at hfind
  refine ⟨data, hdata, ?_⟩
  rw [← Bundle.ofPath_keyOf hf.ns file, ← hk]
  exact hm.delivers_registered hf hs ha hroute hfind

/-- At any time of its life, a service that was made from checked settings and the bundle of a
directory delivers each selected file at its own address, unless the path of the file starts with
the namespace. It then delivers the file with the rest of that path, if there is one; if there is
none, no file is found. A namespace with braces in it is taken for parameters, so that the way of
the request to the interface has to be supposed. -/
theorem delivers_own_address {given : Fields} (hs : Settings.check given = .valid s)
    (ho : s.apiOnly = false) (hfs : fs.WellFormed) (hopened : fs.opened t = .ok (d, isPresent))
    (hl : (Bundle.load fs t s.ns selection).result = .ok registry) :
    ('\x7b' ∉ s.ns → ∃ app, make pages s.values (some (.ofRegistry registry)) = .ok app) ∧
    ∀ app, make pages s.values (some (.ofRegistry registry)) = .ok app →
    ∀ events state seen, app.run app.initial events = .ok (state, seen) →
    ∀ path ∈ d.discover selection, '\n' ∉ path.relative → Routing.IsFree (s.address path) →
    ('\x7b' ∈ s.ns → Routing.decide app.routes (.text "GET") (s.address path) =
      .ok (.run (.ui path.relative))) →
    ∀ occasion request, Asks occasion request (s.address path) →
      (¬ s.ns <+: path.relative → ∃ data, d.fileAt path = .ok (some data) ∧
        app.Delivers state occasion request data (MimeType.ofPath path.relative)) ∧
      (∀ other ∈ d.discover selection, path.relative = s.ns ++ other.relative →
        ∃ data, d.fileAt other = .ok (some data) ∧
          app.Delivers state occasion request data (MimeType.ofPath other.relative)) ∧
      (s.ns <+: path.relative →
        (∀ other ∈ d.discover selection, path.relative ≠ s.ns ++ other.relative) →
          ((s.resolver registry).resolveRequest path.relative).isHit = false) := by
  have hf : s.Fit := Settings.fit_of_check hs
  refine ⟨fun hb => make_ok pages hf ho hb registry, ?_⟩
  intro app hmake events state seen hrun path hp hn hfree hbraces occasion request ha
  have hm : app.IsMade pages s.values (some (.ofRegistry registry)) := isMade_of_make hmake
  have hd : d.WellFormed := hfs.opened hopened
  have hstate : app.Holds (installation s registry) state :=
    holds_run (holds_initial hm.handedOver_eq) hrun
  have hmem : path ∈ d.paths := (Bundle.Directory.mem_discover.mp hp).1
  have hhead : path.relative.head? ≠ some '/' := Bundle.Path.head?_relative (hd.isName hmem)
  have hne : path.relative ≠ [] :=
    Bundle.Path.relative_ne_nil (Bundle.Directory.ne_nil_of_mem_paths hmem) (hd.isName hmem)
  have hroute : Routing.decide app.routes (.text "GET") (s.address path) =
      .ok (.run (.ui path.relative)) := by
    by_cases hb : '\x7b' ∈ s.ns
    · exact hbraces hb
    · exact hm.decide_own hf ho hb hn hne hfree
  refine ⟨?_, ?_, ?_⟩
  · intro hns
    have hk := Key.ofPath_of_not_isPrefix hhead hns
    exact hm.delivers_file hf hfs hopened hl hstate ha hroute hp hk
  · intro other hother he
    have hk : Key.ofPath s.ns path.relative = Bundle.keyOf s.ns other := by
      rw [Key.ofPath_of_isPrefix hhead ⟨other.relative, he.symm⟩, he, Bundle.keyOf]
    exact hm.delivers_file hf hfs hopened hl hstate ha hroute hother hk
  · intro hns hnone
    rw [Resolver.resolveRequest, Resolver.isHit_resolve]
    show registry.contains (Key.ofPath s.ns path.relative) = false
    rw [Key.ofPath_of_isPrefix hhead hns, Bool.eq_false_iff]
    intro hc
    have hpresent := Bundle.opened_of_mem_paths hopened hmem
    obtain ⟨other, hother, he⟩ := (Bundle.contains_iff hfs hpresent hl).mp hc
    exact hnone other hother he

/-! ### A file below a directory of the name of the namespace -/

def outerFile : ByteArray := ⟨#[111, 117, 116]⟩

def innerFile : ByteArray := ⟨#[105, 110]⟩

/-- Two files of one name, of which one is below a directory with the name of the namespace. -/
def nested : Bundle.Entries :=
  [("app.js", .file outerFile), ("admin", .directory {} [("app.js", .file innerFile)])]

theorem wellFormed_nested : (Bundle.site nested).WellFormed := by
  have happ : Bundle.IsName "app.js" := ⟨by decide, by decide⟩
  have hadmin : Bundle.IsName "admin" := ⟨by decide, by decide⟩
  exact Bundle.wellFormed_site
    ⟨happ, by decide, trivial, hadmin, nofun, ⟨happ, nofun, trivial, trivial⟩, trivial⟩

theorem fileAt_outer : (Bundle.siteOf nested).fileAt ["app.js"] = .ok (some outerFile) := by
  rfl

theorem fileAt_inner :
    (Bundle.siteOf nested).fileAt ["admin", "app.js"] = .ok (some innerFile) := by
  rfl

theorem mem_discover_outer : [("app.js" : Text)] ∈ (Bundle.siteOf nested).discover .default :=
  Bundle.Directory.mem_discover.mpr ⟨by decide +kernel, by decide +kernel, by decide +kernel⟩

theorem mem_discover_inner :
    [("admin" : Text), "app.js"] ∈ (Bundle.siteOf nested).discover .default :=
  Bundle.Directory.mem_discover.mpr ⟨by decide +kernel, by decide +kernel, by decide +kernel⟩

theorem failure?_nested : (Bundle.siteOf nested).failure? = none :=
  Bundle.Directory.failure?_eq_none.mpr ⟨by decide +kernel, by decide +kernel⟩

/-- The bundle is loaded and a service is made of it. -/
theorem exists_nested : ∃ registry app,
    (Bundle.load (Bundle.site nested) Bundle.usualPlace ({} : Settings).ns .default).result =
      .ok registry ∧
      make Endpoints.blankPages ({} : Settings).values (some (.ofRegistry registry)) = .ok app := by
  obtain ⟨registry, hl, -⟩ := Bundle.result_of_readable (s := .default) ({} : Settings).ns
    wellFormed_nested (Bundle.opened_site nested) failure?_nested fun _ _ => rfl
  obtain ⟨app, ha⟩ := make_ok Endpoints.blankPages (Settings.fit_of_check Settings.check_nil) rfl
    (by decide) registry
  exact ⟨registry, app, hl, ha⟩

theorem delivers_outer : ∃ registry app,
    (Bundle.load (Bundle.site nested) Bundle.usualPlace ({} : Settings).ns .default).result =
      .ok registry ∧
      make Endpoints.blankPages ({} : Settings).values (some (.ofRegistry registry)) = .ok app ∧
      app.Delivers app.initial { freshId := "0badc0de" } { path := "/admin/app.js" } outerFile
        "application/javascript; charset=utf-8" := by
  obtain ⟨registry, app, hl, hmake⟩ := exists_nested
  have hfree : Routing.IsFree (({} : Settings).address ["app.js"]) := by
    unfold Routing.IsFree
    decide
  have h := ((delivers_own_address Settings.check_nil rfl wellFormed_nested
    (Bundle.opened_site nested) hl).2 app hmake [] app.initial [] rfl ["app.js"] mem_discover_outer
    (by decide) hfree
    (fun hb => absurd hb (by decide)) _ _ (asks_get _)).1 (by decide)
  obtain ⟨data, hdata, hd⟩ := h
  rw [fileAt_outer] at hdata
  cases hdata
  exact ⟨registry, app, hl, hmake, hd⟩

theorem Delivers.unique {app : App} {state : State} {occasion : Occasion} {request : Request}
    {a b : ByteArray} {mediaType mediaType' : Text}
    (ha : app.Delivers state occasion request a mediaType)
    (hb : app.Delivers state occasion request b mediaType') : a = b := by
  obtain ⟨r, hr, hd⟩ := ha
  obtain ⟨r', hr', hd'⟩ := hb
  rw [hr] at hr'
  cases hr'
  exact hd.body_eq.symm.trans hd'.body_eq

/-- Not every selected file is delivered at its own address. -/
theorem not_delivers_own_address :
    ¬ ∀ (given : Fields) (s : Settings) (fs : Bundle.FileSystem) (d : Bundle.Directory) (t : Text)
        (selection : Bundle.Selection) (registry : Registry) (app : App) (path : Bundle.Path)
        (occasion : Occasion) (request : Request),
      Settings.check given = .valid s → s.apiOnly = false → fs.WellFormed →
      fs.opened t = .ok (d, true) → (Bundle.load fs t s.ns selection).result = .ok registry →
      make Endpoints.blankPages s.values (some (.ofRegistry registry)) = .ok app →
      path ∈ d.discover selection → '\n' ∉ path.relative → Routing.IsFree (s.address path) →
      Routing.decide app.routes (.text "GET") (s.address path) = .ok (.run (.ui path.relative)) →
      Asks occasion request (s.address path) →
        ∃ data, d.fileAt path = .ok (some data) ∧
          app.Delivers app.initial occasion request data (MimeType.ofPath path.relative) := by
  intro h
  obtain ⟨registry, app, hl, hmake⟩ := exists_nested
  have hf : Settings.Fit {} := Settings.fit_of_check Settings.check_nil
  have hm : app.IsMade Endpoints.blankPages ({} : Settings).values (some (.ofRegistry registry)) :=
    isMade_of_make hmake
  have hfree : Routing.IsFree (({} : Settings).address ["admin", "app.js"]) := by
    unfold Routing.IsFree
    decide
  have hroute : Routing.decide app.routes (.text "GET")
      (({} : Settings).address ["admin", "app.js"]) = .ok (.run (.ui "admin/app.js")) :=
    hm.decide_own hf rfl (by decide) (by decide) (by decide) hfree
  obtain ⟨data, hdata, hinner⟩ := h [] {} (Bundle.site nested) (Bundle.siteOf nested)
    Bundle.usualPlace .default registry app ["admin", "app.js"]
    { freshId := "0badc0de" } { path := ({} : Settings).address ["admin", "app.js"] }
    Settings.check_nil rfl wellFormed_nested (Bundle.opened_site nested) hl hmake mem_discover_inner
    (by decide) hfree hroute (asks_get _)
  rw [fileAt_inner] at hdata
  cases hdata
  -- the key that is asked for is that of the file at the top
  have hk : Key.ofPath ({} : Settings).ns "admin/app.js" =
      Bundle.keyOf ({} : Settings).ns ["app.js"] := by decide
  obtain ⟨data, hdata, houter⟩ := hm.delivers_file hf wellFormed_nested
    (Bundle.opened_site nested) hl (holds_initial hm.handedOver_eq) (asks_get _) hroute
    mem_discover_outer hk
  rw [fileAt_outer] at hdata
  cases hdata
  have he : innerFile = outerFile := hinner.unique houter
  exact absurd (congrArg ByteArray.size he) (by decide)

end App
end BundleHost
