import BundleHost.Proofs.Asset.Construction
import BundleHost.Proofs.Bundle.Loading

/-! What becomes of a bundle when its selection changes. Fewer patterns of files to take, as long as
there are any, and more patterns of files to leave out load a part of the same files, in the same
order; so a bundle that could be loaded still can. Only which patterns there are matters, not their
order or how often they are given. To give no pattern of files to take is to give the one that fits
all paths. -/

namespace BundleHost

theorem Registry.AreFit.sublist {few many : List (Text × ByteArray)} (h : AreFit many)
    (hs : few.Sublist many) : AreFit few where
  ne_nil entry he := h.ne_nil entry (hs.subset he)
  nodup := (hs.map Prod.fst).nodup h.nodup

namespace Bundle

variable {fs : FileSystem} {d : Directory} {t ns path : Text} {narrow wide s s' : Selection}

namespace Selection

/-- There is a pattern of files to take, the other selection takes what fits such a pattern as well,
and what it leaves out is left out here too. -/
structure Narrows (narrow wide : Selection) : Prop where
  taken_ne_nil : narrow.taken ≠ []
  taken : narrow.taken ⊆ wide.taken
  leftOut : wide.leftOut ⊆ narrow.leftOut

/-- The same patterns in any order, each of them any number of times. -/
structure SamePatterns (s s' : Selection) : Prop where
  taken : ∀ pattern, pattern ∈ s.taken ↔ pattern ∈ s'.taken
  leftOut : ∀ pattern, pattern ∈ s.leftOut ↔ pattern ∈ s'.leftOut

/-! ### Which paths are selected -/

theorem selects_iff : s.selects path = true ↔
    (s.taken = [] ∨ ∃ p ∈ s.taken, fits path p = true) ∧ ¬ ∃ p ∈ s.leftOut, fits path p = true := by
  rw [selects, Bool.and_eq_true, Bool.or_eq_true, List.isEmpty_iff, fitsAny_iff, Bool.not_eq_true',
    ← Bool.not_eq_true, fitsAny_iff]

theorem Narrows.selects (h : narrow.Narrows wide) (hs : narrow.selects path = true) :
    wide.selects path = true := by
  rw [selects_iff] at hs ⊢
  obtain ⟨htaken, hleft⟩ := hs
  obtain ⟨p, hp, hfits⟩ := htaken.resolve_left h.taken_ne_nil
  refine ⟨.inr ⟨p, h.taken hp, hfits⟩, ?_⟩
  rintro ⟨q, hq, hfits'⟩
  exact hleft ⟨q, h.leftOut hq, hfits'⟩

theorem SamePatterns.selects_eq (h : s.SamePatterns s') (path : Text) :
    s.selects path = s'.selects path := by
  have htaken : s.taken = [] ↔ s'.taken = [] := by
    simp only [List.eq_nil_iff_forall_not_mem, h.taken]
  rw [Bool.eq_iff_iff, selects_iff, selects_iff]
  simp only [h.taken, h.leftOut, htaken]

theorem fits_star (path : Text) : fits path "*" = true := by
  have hm : Glob.Matches (Glob.Pattern.ofText "*") path :=
    Glob.matches_run_iff.mpr ⟨path, [], (List.append_nil path).symm, .nil⟩
  rw [fits, Glob.matches_iff.mpr hm, Bool.or_true]

/-- Without a pattern of files to take, all files are taken. -/
theorem selects_without_taken (leftOut : List Text) (path : Text) :
    (Selection.mk [] leftOut).selects path = (Selection.mk ["*"] leftOut).selects path := by
  rw [Bool.eq_iff_iff, selects_iff, selects_iff]
  refine and_congr_left' (iff_of_true (.inl rfl) (.inr ?_))
  exact ⟨"*", List.mem_singleton_self _, fits_star path⟩

end Selection

/-! ### What is loaded -/

theorem Directory.discover_sublist
    (h : ∀ path, narrow.selects path = true → wide.selects path = true) :
    (d.discover narrow).Sublist (d.discover wide) := by
  refine List.monotone_filter_right _ fun path hp => ?_
  rw [Directory.isSelected, Bool.and_eq_true] at hp ⊢
  exact ⟨hp.1, h _ hp.2⟩

theorem Directory.discovered_congr (h : ∀ path, s.selects path = s'.selects path) :
    d.discovered s = d.discovered s' := by
  have hsel : d.isSelected s = d.isSelected s' := by
    funext path
    rw [Directory.isSelected, Directory.isSelected, h]
  rw [Directory.discovered, Directory.discovered, Directory.discover, Directory.discover, hsel]

theorem load_congr (fs : FileSystem) (t ns : Text) (h : ∀ path, s.selects path = s'.selects path) :
    load fs t ns s = load fs t ns s' ∧ loadAtOnce fs t ns s = loadAtOnce fs t ns s' := by
  constructor
  · have hread : (fun d => readInTurn d ns s) = fun d => readInTurn d ns s' := by
      funext d
      rw [readInTurn, readInTurn, Directory.discovered_congr h]
    rw [load, load, hread]
  · have hread : (fun d => readAll d ns s) = fun d => readAll d ns s' := by
      funext d
      rw [readAll, readAll, Directory.discovered_congr h]
    rw [loadAtOnce, loadAtOnce, hread]

theorem readable_of_result {registry : Registry} (h : fs.opened t = .ok (d, true))
    (hl : (load fs t ns s).result = .ok registry) :
    d.failure? = none ∧ (∀ p ∈ d.discover s, d.IsReadable p) ∧
      Registry.ofEntries ((d.discover s).map (entryOf d ns)) = .ok registry := by
  have hf : d.failure? = none := by
    cases hf : d.failure? with
    | none => rfl
    | some e =>
      rw [result_of_hindered h hf] at hl
      cases hl
  have hr : ∀ p ∈ d.discover s, d.IsReadable p := by
    rcases all_readable_or_first d (d.discover s) with hr | ⟨_, p, _, reason, hs, hb, hr⟩
    · exact hr
    · rw [result_of_unreadable h hf hs hb hr] at hl
      cases hl
  refine ⟨hf, hr, ?_⟩
  rw [result_of_all_readable h hf hr] at hl
  cases ho : Registry.ofEntries ((d.discover s).map (entryOf d ns)) with
  | ok r =>
    rw [ho] at hl
    cases hl
    rfl
  | error e =>
    rw [ho] at hl
    cases hl

/-- A registry that came of loading is empty, for want of a directory, or holds what is there. -/
theorem opened_of_result {registry : Registry} (hl : (load fs t ns s).result = .ok registry) :
    (∃ d, fs.opened t = .ok (d, false) ∧ registry = .empty) ∨
      ∃ d, fs.opened t = .ok (d, true) := by
  cases h : fs.opened t with
  | error e =>
    rw [load_of_unopened h] at hl
    cases hl
  | ok found =>
    obtain ⟨d, isPresent⟩ := found
    cases isPresent with
    | false =>
      rw [load_of_absent h] at hl
      exact .inl ⟨d, rfl, (Except.ok.inj hl).symm⟩
    | true => exact .inr ⟨d, rfl⟩

theorem result_of_narrows (h : narrow.Narrows wide) {registry : Registry}
    (hl : (load fs t ns wide).result = .ok registry) :
    ∃ part, (load fs t ns narrow).result = .ok part ∧
      part.entries.Sublist registry.entries := by
  rcases opened_of_result hl with ⟨d, hopened, -⟩ | ⟨d, hopened⟩
  · refine ⟨.empty, ?_, List.nil_sublist _⟩
    rw [load_of_absent hopened]
  · obtain ⟨hf, hr, ho⟩ := readable_of_result hopened hl
    have hsub : (d.discover narrow).Sublist (d.discover wide) :=
      Directory.discover_sublist fun _ => h.selects
    have hentries : ((d.discover narrow).map (entryOf d ns)).Sublist registry.entries := by
      rw [Registry.entries_ofEntries ho]
      exact hsub.map _
    have hfit : Registry.AreFit ((d.discover narrow).map (entryOf d ns)) :=
      (Registry.ofEntries_ok_iff.mp ⟨registry, ho⟩).sublist (hsub.map _)
    obtain ⟨part, hpart⟩ := Registry.ofEntries_ok_iff.mpr hfit
    refine ⟨part, ?_, ?_⟩
    · rw [result_of_all_readable hopened hf fun p hp => hr p (hsub.subset hp), hpart]
      rfl
    · rw [Registry.entries_ofEntries hpart]
      exact hentries

/-- With a narrower selection a bundle that could be loaded still can, and a part of the same
entries is loaded, in the same order. Selections with the same patterns select the same paths and
load the same, and so do a selection without patterns of files to take and one that takes all files.
-/
theorem narrower_selections (fs : FileSystem) (t ns : Text) :
    (∀ narrow wide registry, narrow.Narrows wide → (load fs t ns wide).outcome = .ok registry →
      ∃ part, (load fs t ns narrow).outcome = .ok part ∧
        part.entries.Sublist registry.entries) ∧
    (∀ narrow wide registry, narrow.Narrows wide →
      (loadAtOnce fs t ns wide).outcome = .ok registry →
        ∃ part, (loadAtOnce fs t ns narrow).outcome = .ok part ∧
          part.entries.Sublist registry.entries) ∧
    (∀ s s' : Selection, s.SamePatterns s' → (∀ path, s.selects path = s'.selects path) ∧
      load fs t ns s = load fs t ns s' ∧ loadAtOnce fs t ns s = loadAtOnce fs t ns s') ∧
    ∀ leftOut, (∀ path, (Selection.mk [] leftOut).selects path =
        (Selection.mk ["*"] leftOut).selects path) ∧
      load fs t ns ⟨[], leftOut⟩ = load fs t ns ⟨["*"], leftOut⟩ ∧
      loadAtOnce fs t ns ⟨[], leftOut⟩ = loadAtOnce fs t ns ⟨["*"], leftOut⟩ := by
  refine ⟨?one, ?atOnce, ?same, ?all⟩
  case one =>
    intro narrow wide registry h hl
    obtain ⟨part, hpart, hsub⟩ := result_of_narrows h (outcome_eq_ok.mp hl)
    exact ⟨part, outcome_eq_ok.mpr hpart, hsub⟩
  case atOnce =>
    intro narrow wide registry h hl
    rw [outcome_eq_ok, ← result_load] at hl
    obtain ⟨part, hpart, hsub⟩ := result_of_narrows h hl
    refine ⟨part, ?_, hsub⟩
    rw [outcome_eq_ok, ← result_load]
    exact hpart
  case same =>
    intro s s' h
    exact ⟨h.selects_eq, load_congr fs t ns h.selects_eq⟩
  case all =>
    intro leftOut
    have hall := Selection.selects_without_taken leftOut
    exact ⟨hall, load_congr fs t ns hall⟩

/-- A bundle with a page, two scripts and a source map. -/
def smallSite : Entries := [("index.html", .file ⟨#[60]⟩), ("js", .directory {}
  [("main.js.map", .file ⟨#[]⟩), ("vendor.js", .file ⟨#[59]⟩), ("main.js", .file ⟨#[40, 41]⟩)])]

/-- The scripts, without those of others. -/
def ownScripts : Selection := ⟨["*.js"], ["js/vendor*", "*.map"]⟩

/-- Of the page and the two scripts that are loaded, the narrower selection leaves one script. -/
theorem narrower_smallSite : ownScripts.Narrows .default ∧ ∃ all part,
    (load (site smallSite) usualPlace "admin/" .default).outcome = .ok all ∧ all.size = 3 ∧
      (load (site smallSite) usualPlace "admin/" ownScripts).outcome = .ok part ∧
        part.entries.Sublist all.entries := by
  have hnarrow : ownScripts.Narrows .default := by
    refine ⟨by decide, ?_, ?_⟩
    · intro p hp
      rw [List.mem_singleton.mp hp]
      decide
    · intro p hp
      rw [List.mem_singleton.mp hp]
      decide
  have hfs : (site smallSite).WellFormed := by
    refine wellFormed_site ⟨⟨by decide, by decide⟩, by decide, trivial, ⟨by decide, by decide⟩,
      nofun, ?_, trivial⟩
    exact ⟨⟨by decide, by decide⟩, by decide, trivial, ⟨by decide, by decide⟩, by decide, trivial,
      ⟨by decide, by decide⟩, nofun, trivial, trivial⟩
  have hf : (siteOf smallSite).failure? = none :=
    Directory.failure?_eq_none.mpr ⟨by decide +kernel, by decide +kernel⟩
  obtain ⟨all, hall, he⟩ := result_of_readable (s := .default) "admin/" hfs
    (opened_site smallSite) hf fun _ _ => rfl
  have hsize : all.size = 3 := by
    rw [← Registry.length_keys, Registry.keys_eq, he, List.length_map, List.length_map,
      (Directory.discover_perm (siteOf smallSite) .default).length_eq]
    decide +kernel
  obtain ⟨part, hpart, hsub⟩ := (narrower_selections (site smallSite) usualPlace "admin/").1
    ownScripts .default all hnarrow (outcome_eq_ok.mpr hall)
  exact ⟨hnarrow, all, part, outcome_eq_ok.mpr hall, hsize, hpart, hsub⟩

end Bundle
end BundleHost
