import BundleHost.Bundle.Loading
import BundleHost.Proofs.Asset.Entries
import BundleHost.Proofs.Bundle.Tree
import BundleHost.Proofs.Bundle.Walking

/-! What loading a bundle gives. Both loaders give the same: nothing but a complete registry, or the
failure that says which selected file was the first one that could not be read. The keys of a
well-formed bundle differ, whatever the namespace is, so that files never fail to make up a
registry. What keeps the files from being told ends the loading as well, whether it stands in the
way of the place, of a directory, or of an entry that is selected or not. -/

namespace BundleHost.Bundle

variable {fs : FileSystem} {d : Directory} {t ns : Text} {s : Selection}

def Loaded.outcome (l : Loaded) : Except Failure Registry := l.result.mapError LoadError.failure

theorem outcome_eq_ok {l : Loaded} {registry : Registry} :
    l.outcome = .ok registry ↔ l.result = .ok registry := by
  rw [Loaded.outcome]
  cases l.result with
  | error e => exact iff_of_false nofun nofun
  | ok found =>
    show (.ok found : Except Failure Registry) = .ok registry ↔ _
    rw [Except.ok.injEq, Except.ok.injEq]

def unreadableFault (d : Directory) (path : Path) (reason : Text) : Fault where
  kind := .bundleLoad
  message := .text (("Failed to read bundle file '" : Text) ++ path.relative ++ ['\''])
  subject := .text (d.fullPath path)
  context := .record [("os_error", .text reason), ("path", .text (d.fullPath path))]

def entryOf (d : Directory) (ns : Text) (path : Path) : Text × ByteArray :=
  (keyOf ns path, (d.fileAt? path).getD .empty)

/-- The system gives no reason why the file could not be read. -/
def Directory.IsReadable (d : Directory) (path : Path) : Prop := d.reason? path = none

/-! ### One file after another -/

theorem readEntry_ok {path : Path} (h : d.IsReadable path) :
    readEntry d ns path = .ok (entryOf d ns path) := by
  have hr : d.read path = .ok ((d.fileAt? path).getD .empty) := by
    rw [Directory.read, h]
  rw [readEntry, hr]
  rfl

theorem readEntry_error {path : Path} {reason : Text}
    (h : d.reason? path = some reason) :
    readEntry d ns path = .error (.unreadable (d.fullPath path) path.relative reason) := by
  have hr : d.read path = .error reason := by rw [Directory.read, h]
  rw [readEntry, hr]

theorem mapM_readEntry_ok {paths : List Path} (h : ∀ path ∈ paths, d.IsReadable path) :
    paths.mapM (readEntry d ns) = .ok (paths.map (entryOf d ns)) := by
  induction paths with
  | nil => rfl
  | cons path rest ih =>
    rw [List.mapM_cons, readEntry_ok (h path (by simp)), ih fun p hp => h p (by simp [hp])]
    rfl

theorem mapM_readEntry_error {before after : List Path} {path : Path} {reason : Text}
    (hb : ∀ p ∈ before, d.IsReadable p) (h : d.reason? path = some reason) :
    (before ++ path :: after).mapM (readEntry d ns) =
      .error (.unreadable (d.fullPath path) path.relative reason) := by
  rw [List.mapM_append, mapM_readEntry_ok hb, List.mapM_cons, readEntry_error h]
  rfl

/-- Gathering ends like reading everything at once, with what was gathered before in front. -/
theorem result_gather (gathered : List (Text × ByteArray)) (paths : List Path) :
    (gather d ns gathered paths).result = (do
      let entries ← paths.mapM (readEntry d ns)
      (Registry.ofEntries (gathered.reverse ++ entries)).mapError LoadError.refused) := by
  induction paths generalizing gathered with
  | nil =>
    rw [gather, finish, List.mapM_nil]
    show _ = (Registry.ofEntries (gathered.reverse ++ [])).mapError LoadError.refused
    rw [List.append_nil]
    cases Registry.ofEntries gathered.reverse <;> rfl
  | cons path rest ih =>
    rw [gather, List.mapM_cons, readEntry]
    cases d.read path with
    | error reason => rfl
    | ok data =>
      show (gather d ns ((keyOf ns path, data) :: gathered) rest).result = _
      rw [ih]
      cases rest.mapM (readEntry d ns) with
      | error e => rfl
      | ok entries =>
        show (Registry.ofEntries (((keyOf ns path, data) :: gathered).reverse ++ entries)).mapError
          LoadError.refused = (Registry.ofEntries (gathered.reverse ++ (keyOf ns path, data) ::
            entries)).mapError LoadError.refused
        rw [List.reverse_cons, List.append_assoc, List.singleton_append]

theorem result_readInTurn (d : Directory) (ns : Text) (s : Selection) :
    (readInTurn d ns s).result = (readAll d ns s).result := by
  rw [readInTurn, readAll]
  cases d.discovered s with
  | error e => rfl
  | ok paths => exact result_gather [] paths

/-- Both loaders give the same. -/
theorem result_load (fs : FileSystem) (t ns : Text) (s : Selection) :
    (load fs t ns s).result = (loadAtOnce fs t ns s).result := by
  rw [load, loadAtOnce, readAt, readAt]
  split
  · exact result_readInTurn _ ns s
  · rfl
  · rfl

/-! ### Keys -/

theorem keyOf_injective (hd : d.WellFormed) {p q : Path} (hp : p ∈ d.paths) (hq : q ∈ d.paths)
    (h : keyOf ns p = keyOf ns q) : p = q :=
  hd.relative_injective hp hq (List.append_cancel_left h)

theorem keyOf_ne_nil (hd : d.WellFormed) {path : Path} (h : path ∈ d.paths) :
    keyOf ns path ≠ [] := by
  intro e
  exact Path.relative_ne_nil (Directory.ne_nil_of_mem_paths h) (hd.isName h)
    (List.append_eq_nil_iff.mp e).2

/-- The selected files of a well-formed bundle make up a registry. -/
theorem ofEntries_discover (hd : d.WellFormed) (ns : Text) (s : Selection) :
    ∃ registry, Registry.ofEntries ((d.discover s).map (entryOf d ns)) = .ok registry ∧
      registry.entries = (d.discover s).map (entryOf d ns) := by
  have hmem : ∀ path ∈ d.discover s, path ∈ d.paths := fun path h =>
    (Directory.mem_discover.mp h).1
  apply Registry.ofEntries_ok
  · intro entry he
    obtain ⟨path, hp, rfl⟩ := List.mem_map.mp he
    exact keyOf_ne_nil hd (hmem path hp)
  · rw [List.map_map]
    refine List.pairwise_map.mpr ((hd.nodup_discover s).imp_of_mem ?_)
    intro p q hp hq hpq e
    exact hpq (keyOf_injective hd (hmem p hp) (hmem q hq) e)

/-! ### What comes of it -/

theorem FileSystem.WellFormed.opened {isPresent : Bool} (hfs : fs.WellFormed)
    (h : fs.opened t = .ok (d, isPresent)) : d.WellFormed := by
  obtain ⟨rfl, -, -⟩ := FileSystem.of_opened_ok h
  exact hfs

theorem opened_of_mem_paths {isPresent : Bool} (h : fs.opened t = .ok (d, isPresent)) {path : Path}
    (hp : path ∈ d.paths) : fs.opened t = .ok (d, true) := by
  obtain ⟨-, -, hpresent⟩ := FileSystem.of_opened_ok h
  rw [Directory.isPresent_of_mem_paths hp] at hpresent
  cases hpresent
  exact h

theorem load_of_present (h : fs.opened t = .ok (d, true)) : load fs t ns s = readInTurn d ns s := by
  rw [load, readAt, h]

theorem load_of_absent (h : fs.opened t = .ok (d, false)) :
    load fs t ns s = { result := .ok .empty, records := [missingRecord d] } := by
  rw [load, readAt, h]

theorem load_of_unopened {e : FileError} (h : fs.opened t = .error e) :
    load fs t ns s = failed e := by
  rw [load, readAt, h]

theorem result_of_hindered {e : FileError} (h : fs.opened t = .ok (d, true))
    (hf : d.failure? = some e) : (load fs t ns s).result = .error (.unlisted e) := by
  rw [load_of_present h, readInTurn, Directory.discovered_of_failure? hf]
  rfl

theorem result_of_answered (h : fs.opened t = .ok (d, true)) (hf : d.failure? = none) :
    (load fs t ns s).result = (do
      let entries ← (d.discover s).mapM (readEntry d ns)
      (Registry.ofEntries entries).mapError LoadError.refused) := by
  rw [load_of_present h, result_readInTurn, readAll, Directory.discovered_of_answered hf]
  rfl

theorem result_of_unreadable (h : fs.opened t = .ok (d, true)) (hf : d.failure? = none)
    {before after : List Path} {path : Path} {reason : Text}
    (hs : d.discover s = before ++ path :: after) (hb : ∀ p ∈ before, d.IsReadable p)
    (hr : d.reason? path = some reason) :
    (load fs t ns s).result = .error (.unreadable (d.fullPath path) path.relative reason) := by
  rw [result_of_answered h hf, hs, mapM_readEntry_error hb hr]
  rfl

/-- Where all selected files can be read, only the registry can refuse them. -/
theorem result_of_all_readable (h : fs.opened t = .ok (d, true)) (hf : d.failure? = none)
    (hr : ∀ path ∈ d.discover s, d.IsReadable path) :
    (load fs t ns s).result =
      (Registry.ofEntries ((d.discover s).map (entryOf d ns))).mapError LoadError.refused := by
  rw [result_of_answered h hf, mapM_readEntry_ok hr]
  rfl

theorem result_of_readable (ns : Text) (hfs : fs.WellFormed) (h : fs.opened t = .ok (d, true))
    (hf : d.failure? = none) (hr : ∀ path ∈ d.discover s, d.IsReadable path) :
    ∃ registry, (load fs t ns s).result = .ok registry ∧
      registry.entries = (d.discover s).map (entryOf d ns) := by
  obtain ⟨registry, ho, he⟩ := ofEntries_discover (hfs.opened h) ns s
  refine ⟨registry, ?_, he⟩
  rw [result_of_all_readable h hf hr, ho]
  rfl

theorem all_readable_or_first (d : Directory) (paths : List Path) :
    (∀ path ∈ paths, d.IsReadable path) ∨ ∃ before path after reason,
      paths = before ++ path :: after ∧ (∀ p ∈ before, d.IsReadable p) ∧
        d.reason? path = some reason := by
  induction paths with
  | nil => exact .inl nofun
  | cons path rest ih =>
    cases hl : d.reason? path with
    | some reason => exact .inr ⟨[], path, rest, reason, rfl, nofun, hl⟩
    | none =>
      rcases ih with ih | ⟨before, p, after, reason, rfl, hb, hr⟩
      · left
        intro q hq
        rcases List.mem_cons.mp hq with rfl | hq
        · exact hl
        · exact ih q hq
      · refine .inr ⟨path :: before, p, after, reason, rfl, ?_, hr⟩
        intro q hq
        rcases List.mem_cons.mp hq with rfl | hq
        · exact hl
        · exact hb q hq

/-- There are three ways in which the loading of a directory ends. -/
theorem result_cases (ns : Text) (s : Selection) (hfs : fs.WellFormed)
    (h : fs.opened t = .ok (d, true)) :
    (∃ e, d.failure? = some e ∧ (load fs t ns s).result = .error (.unlisted e)) ∨
      (∃ path reason, (load fs t ns s).result =
        .error (.unreadable (d.fullPath path) path.relative reason)) ∨
      ∃ registry, (load fs t ns s).result = .ok registry ∧
        registry.entries = (d.discover s).map (entryOf d ns) := by
  cases hf : d.failure? with
  | some e => exact .inl ⟨e, rfl, result_of_hindered h hf⟩
  | none =>
    right
    rcases all_readable_or_first d (d.discover s) with hr | ⟨_, path, _, reason, hs, hb, hr⟩
    · exact .inr (result_of_readable ns hfs h hf hr)
    · exact .inl ⟨path, reason, result_of_unreadable h hf hs hb hr⟩

/-- A registry that came of loading has the selected files as its entries. -/
theorem entries_of_result (hfs : fs.WellFormed) (h : fs.opened t = .ok (d, true))
    {registry : Registry} (hl : (load fs t ns s).result = .ok registry) :
    registry.entries = (d.discover s).map (entryOf d ns) := by
  rcases result_cases ns s hfs h with ⟨_, _, hr⟩ | ⟨_, _, hr⟩ | ⟨made, hr, he⟩
  · rw [hr] at hl
    cases hl
  · rw [hr] at hl
    cases hl
  · rw [hr] at hl
    cases hl
    exact he

/-- The only fault of a bundle is that a file of it could not be read. -/
theorem kind_of_outcome {fault : Fault} (hfs : fs.WellFormed)
    (hl : (load fs t ns s).outcome = .error (.fault fault)) : fault.kind = .bundleLoad := by
  rw [Loaded.outcome] at hl
  cases h : fs.opened t with
  | error e =>
    rw [load_of_unopened h] at hl
    cases hl
  | ok found =>
    obtain ⟨d, isPresent⟩ := found
    cases isPresent with
    | false =>
      rw [load_of_absent h] at hl
      cases hl
    | true =>
      rcases result_cases ns s hfs h with ⟨_, _, hr⟩ | ⟨_, _, hr⟩ | ⟨_, hr, -⟩
      · rw [hr] at hl
        cases hl
      · rw [hr] at hl
        cases hl
        rfl
      · rw [hr] at hl
        cases hl

/-- What a loader may give for the bundle at a place. -/
structure Loads (fs : FileSystem) (t ns : Text) (s : Selection)
    (outcome : Except Failure Registry) : Prop where
  absent : ∀ d, fs.opened t = .ok (d, false) → outcome = .ok .empty
  /-- What keeps the files from being told is not turned into a fault of the bundle. -/
  unopened : ∀ e, fs.opened t = .error e → outcome = .error (.fileSystem e)
  hindered : ∀ d e, fs.opened t = .ok (d, true) → d.failure? = some e →
    outcome = .error (.fileSystem e)
  unreadable : ∀ d, fs.opened t = .ok (d, true) → d.failure? = none →
    ∀ before path after reason, d.discover s = before ++ path :: after →
      (∀ p ∈ before, d.IsReadable p) → d.reason? path = some reason →
        outcome = .error (.fault (unreadableFault d path reason))
  complete : ∀ d, fs.opened t = .ok (d, true) → d.failure? = none →
    (∀ path ∈ d.discover s, d.IsReadable path) →
      ∃ registry, outcome = .ok registry ∧ registry.entries = (d.discover s).map (entryOf d ns)
  kind : ∀ fault, outcome = .error (.fault fault) → fault.kind = .bundleLoad

/-- The loader that reads file after file gives what a loader may give, and the one that reads all
files at once gives the same. The files can always be told but where something stands in the way of
a question, or where the program has no room to go on. -/
theorem loads_load (fs : FileSystem) (t ns : Text) (s : Selection) (hfs : fs.WellFormed) :
    Loads fs t ns s (load fs t ns s).outcome ∧
      (loadAtOnce fs t ns s).outcome = (load fs t ns s).outcome ∧
      (∀ e, fs.opened t = .error e → fs.Hindered t e) ∧
      ∀ d e, fs.opened t = .ok (d, true) → d.failure? = some e → fs.Hindered t e := by
  refine ⟨⟨?absent, ?unopened, ?hindered, ?unreadable, ?complete, fun _ => kind_of_outcome hfs⟩, ?_,
    fun e => FileSystem.hindered_of_opened hfs.here, fun d e => FileSystem.hindered_of_failure?⟩
  case absent =>
    intro d h
    rw [Loaded.outcome, load_of_absent h]
    rfl
  case unopened =>
    intro e h
    rw [Loaded.outcome, load_of_unopened h]
    rfl
  case hindered =>
    intro d e h hf
    rw [Loaded.outcome, result_of_hindered h hf]
    rfl
  case unreadable =>
    intro d h hf before path after reason hs hb hr
    rw [Loaded.outcome, result_of_unreadable h hf hs hb hr]
    rfl
  case complete =>
    intro d h hf hr
    obtain ⟨registry, ho, he⟩ := result_of_readable ns hfs h hf hr
    exact ⟨registry, by rw [Loaded.outcome, ho]; rfl, he⟩
  rw [Loaded.outcome, Loaded.outcome, result_load]

/-! ### A bundle at the usual place -/

/-- A file system with a bundle where the settings look for one. -/
def site (entries : Entries) : FileSystem where
  top := .directory {} [("srv", .directory {} [("admin-ui", .directory {}
    [("dist", .directory {} entries)])])]
  here := ["srv"]
  walkRoom := 900
  linkRoom := 900

def usualPlace : Text := "./admin-ui/dist"

def siteOf (entries : Entries) : Directory := ⟨site entries, ["srv", "admin-ui", "dist"]⟩

theorem opened_site (entries : Entries) :
    (site entries).opened usualPlace = .ok (siteOf entries, true) := rfl

theorem wellFormed_site {entries : Entries} (h : entriesWellFormed entries) :
    (site entries).WellFormed where
  top := by
    refine ⟨⟨by decide, by decide⟩, nofun, ?_, trivial⟩
    refine ⟨⟨by decide, by decide⟩, nofun, ?_, trivial⟩
    exact ⟨⟨by decide, by decide⟩, nofun, h, trivial⟩
  here := List.forall_mem_singleton.mpr (by decide)

/-- A name with one octet more than a file system takes. -/
def overlong : Text := List.replicate (longestName + 1) 'a'

/-- A file, and a link to a name that no file can have. -/
def strayLink : Entries := [("app.js", .file ⟨#[120]⟩), ("stray.js", .link overlong)]

theorem wellFormed_strayLink : (site strayLink).WellFormed := by
  refine wellFormed_site ⟨⟨by decide, by decide⟩, ?_, trivial, ⟨by decide, by decide⟩, nofun,
    trivial, trivial⟩
  decide

theorem failure?_strayLink : (siteOf strayLink).failure? = some .nameTooLong := by
  have hlisted : (siteOf strayLink).listingFailure? = none := by decide +kernel
  have hasked : (siteOf strayLink).paths.map (siteOf strayLink).refusal? =
      [none, some .nameTooLong] := by decide +kernel
  have hmem : ∀ path ∈ (siteOf strayLink).paths,
      (siteOf strayLink).refusal? path = none ∨
        (siteOf strayLink).refusal? path = some .nameTooLong := by
    intro path hp
    have hm := List.mem_map_of_mem (f := (siteOf strayLink).refusal?) hp
    simpa [hasked] using hm
  cases hf : (siteOf strayLink).failure? with
  | none =>
    have hnone := (Directory.failure?_eq_none.mp hf).2 ["stray.js"] (by decide)
    revert hnone
    decide +kernel
  | some e =>
    rcases Directory.failure?_eq_some hf with hl | ⟨path, hp, he⟩
    · rw [hlisted] at hl
      cases hl
    · rcases hmem path hp with hn | hn
      · rw [hn] at he
        cases he
      · exact he.symm.trans hn

/-- The link is no file, so that it is not selected, and still nothing is loaded. -/
theorem load_strayLink : (siteOf strayLink).isFile ["stray.js"] = false ∧
    (load (site strayLink) usualPlace "admin/" .default).outcome =
      .error (.fileSystem .nameTooLong) := by
  refine ⟨by decide +kernel, ?_⟩
  exact (loads_load (site strayLink) usualPlace "admin/" .default
    wellFormed_strayLink).1.hindered _ _ (opened_site strayLink) failure?_strayLink

end BundleHost.Bundle
