import BundleHost.Proofs.Asset.Extension
import BundleHost.Proofs.Bundle.Narrowing
import BundleHost.Proofs.Glob.Ends

/-! What patterns with a star at one end select, and with them the default selection. A star in
front of a plain text selects the paths that end with the text, and a star below a directory those
of all files in the directory, at any depth. So the default selection takes the paths that end in a
dot and one of ten extensions. All ten are in the table of media types, and so no file of unknown
type comes into a bundle that is loaded with the default selection. -/

namespace BundleHost.Bundle

open Glob (IsPlain)

namespace Selection

variable {path t e : Text}

/-! ### Patterns with a star at one end -/

theorem fits_star_before (h : IsPlain t) : fits path ('*' :: t) = true ↔ t <:+ path := by
  rw [fits, Bool.or_eq_true, Glob.matches_star_before h, Glob.matches_star_before h]
  constructor
  · rintro (hname | hpath)
    · exact hname.trans (Key.finalSegment_suffix path)
    · exact hpath
  · exact .inr

/-- The name of a file has no slash, so that only its path can fit. -/
theorem fits_below (h : IsPlain t) :
    fits path (t ++ ['/', '*']) = true ↔ t ++ ['/'] <+: path := by
  have hplain : IsPlain (t ++ ['/']) := by
    intro c hc
    rcases List.mem_append.mp hc with hc | hc
    · exact h c hc
    · rw [List.mem_singleton.mp hc]
      rfl
  have happend : t ++ ['/', '*'] = t ++ ['/'] ++ ['*'] := by simp
  rw [fits, Bool.or_eq_true, happend, Glob.matches_star_behind hplain,
    Glob.matches_star_behind hplain]
  constructor
  · rintro (hname | hpath)
    · exact absurd (hname.subset (by simp)) (Key.slash_not_mem_finalSegment path)
    · exact hpath
  · exact .inr

/-! ### The default selection -/

/-- The extensions of the files that a build of the interface makes. -/
def builtExtensions : List Text :=
  ["html", "js", "css", "ico", "png", "svg", "woff", "woff2", "ttf", "eot"]

theorem taken_default : default.taken = builtExtensions.map fun e => '*' :: '.' :: e := rfl

theorem isPlain_built : ∀ e ∈ builtExtensions, IsPlain ('.' :: e) := by decide

theorem exists_type : ∀ e ∈ builtExtensions,
    ∃ entry ∈ MimeType.table, entry.1 = e ∧ entry.2 ≠ MimeType.unknown := by
  decide

theorem fitsAny_taken_default : fitsAny path default.taken = true ↔
    ∃ e ∈ builtExtensions, '.' :: e <:+ path := by
  rw [fitsAny_iff, taken_default]
  constructor
  · rintro ⟨p, hp, hf⟩
    obtain ⟨e, he, rfl⟩ := List.mem_map.mp hp
    exact ⟨e, he, (fits_star_before (isPlain_built e he)).mp hf⟩
  · rintro ⟨e, he, hs⟩
    exact ⟨_, List.mem_map_of_mem he, (fits_star_before (isPlain_built e he)).mpr hs⟩

theorem not_fitsAny_leftOut_default (he : e ∈ builtExtensions) (h : '.' :: e <:+ path) :
    fitsAny path default.leftOut = false := by
  have hdot : ∀ e ∈ builtExtensions, '.' ∉ e ∧ e ≠ "map" := by decide
  obtain ⟨hn, hne⟩ := hdot e he
  rw [← Bool.not_eq_true, fitsAny_iff]
  rintro ⟨p, hp, hf⟩
  obtain rfl : p = '*' :: ".map" := List.mem_singleton.mp hp
  have hmap : '.' :: "map" <:+ path := (fits_star_before (by decide)).mp hf
  have hlast := Text.afterLast?_of_suffix hmap (by decide)
  rw [Text.afterLast?_of_suffix h hn] at hlast
  exact hne (Option.some.inj hlast)

theorem selects_default :
    default.selects path = true ↔ ∃ e ∈ builtExtensions, '.' :: e <:+ path := by
  rw [selects, Bool.and_eq_true, Bool.or_eq_true, fitsAny_taken_default, Bool.not_eq_true']
  constructor
  · rintro ⟨htaken | htaken, -⟩
    · cases htaken
    · exact htaken
  · rintro ⟨e, he, hs⟩
    exact ⟨.inr ⟨e, he, hs⟩, not_fitsAny_leftOut_default he hs⟩

/-- A path that the default selection takes has a type, below any namespace. -/
theorem exists_type_of_suffix (he : e ∈ builtExtensions) (h : '.' :: e <:+ path) (ns : Text) :
    ∃ type, (e, type) ∈ MimeType.table ∧ MimeType.ofPath (ns ++ path) = type ∧
      type ≠ MimeType.unknown := by
  obtain ⟨entry, hm, rfl, hne⟩ := exists_type e he
  have hs : '.' :: entry.1 <:+ ns ++ path := h.trans (List.suffix_append ns path)
  exact ⟨entry.2, hm, MimeType.ofPath_of_suffix hm hs, hne⟩

end Selection

/-! ### Bundles that are loaded with it -/

/-- A loaded bundle has the keys of the selected files and no others. -/
theorem exists_of_mem_keys {fs : FileSystem} {t ns : Text} {s : Selection} {registry : Registry}
    (hl : (load fs t ns s).result = .ok registry) {key : Text} (hk : key ∈ registry.keys) :
    ∃ path, s.selects path = true ∧ key = ns ++ path := by
  rcases opened_of_result hl with ⟨d, -, rfl⟩ | ⟨d, hopened⟩
  · cases hk
  · obtain ⟨-, -, ho⟩ := readable_of_result hopened hl
    rw [Registry.keys_eq, Registry.entries_ofEntries ho, List.map_map] at hk
    obtain ⟨path, hm, rfl⟩ := List.mem_map.mp hk
    exact ⟨path.relative, (Directory.mem_discover.mp hm).2.2, rfl⟩

theorem ofPath_ne_unknown_of_load {fs : FileSystem} {t ns : Text} {registry : Registry}
    (hl : (load fs t ns .default).result = .ok registry) {key : Text} (hk : key ∈ registry.keys) :
    MimeType.ofPath key ≠ MimeType.unknown := by
  obtain ⟨path, hs, rfl⟩ := exists_of_mem_keys hl hk
  obtain ⟨e, he, hend⟩ := Selection.selects_default.mp hs
  obtain ⟨type, -, ht, hne⟩ := Selection.exists_type_of_suffix he hend ns
  rw [ht]
  exact hne

/-- A star in front of a plain text selects what ends with it, and one below a directory what is in
the directory. The default selection takes the files with one of its ten extensions, none of which
it leaves out again, and each of them has the type of its extension, below any namespace. So all
files of a bundle that is loaded with it have a type. -/
theorem default_selects_typed :
    (∀ path text, IsPlain text →
      (Selection.fits path ('*' :: text) = true ↔ text <:+ path)) ∧
    (∀ path above, IsPlain above →
      (Selection.fits path (above ++ ['/', '*']) = true ↔ above ++ ['/'] <+: path)) ∧
    (∀ path, Selection.default.selects path = true ↔
      ∃ e ∈ Selection.builtExtensions, '.' :: e <:+ path) ∧
    (∀ path, ∀ e ∈ Selection.builtExtensions, '.' :: e <:+ path →
      Selection.fitsAny path Selection.default.leftOut = false ∧
      ∀ ns : Text, ∃ type, (e, type) ∈ MimeType.table ∧ MimeType.ofPath (ns ++ path) = type ∧
        type ≠ MimeType.unknown) ∧
    ∀ fs t ns registry, (load fs t ns .default).outcome = .ok registry ∨
      (loadAtOnce fs t ns .default).outcome = .ok registry →
        ∀ key ∈ registry.keys, MimeType.ofPath key ≠ MimeType.unknown := by
  refine ⟨fun path text => Selection.fits_star_before, fun path above => Selection.fits_below,
    fun path => Selection.selects_default, ?taken, ?loaded⟩
  case taken =>
    intro path e he h
    exact ⟨Selection.not_fitsAny_leftOut_default he h, Selection.exists_type_of_suffix he h⟩
  case loaded =>
    intro fs t ns registry hl key hk
    have hload : (load fs t ns .default).result = .ok registry := by
      rcases hl with hl | hl
      · exact outcome_eq_ok.mp hl
      · rw [result_load]
        exact outcome_eq_ok.mp hl
    exact ofPath_ne_unknown_of_load hload hk

/-- A script with its source map, in a directory. -/
def scriptAndMap : Entries := [("js", .directory {}
  [("main.js.map", .file ⟨#[]⟩), ("main.js", .file ⟨#[40, 41]⟩)])]

/-- The script is taken and is a script, and the source map is not taken. -/
theorem default_selects_script :
    Selection.fits "js/main.js" "*.js" = true ∧ Selection.fits "lib/js/main.js" "js/*" = false ∧
      Selection.default.selects "js/main.js.map" = false ∧
      MimeType.ofPath (("admin/" : Text) ++ ("js/main.js" : Text)) ≠ MimeType.unknown ∧
      ∃ registry, (load (site scriptAndMap) usualPlace "admin/" .default).outcome = .ok registry ∧
        ∀ key ∈ registry.keys, MimeType.ofPath key ≠ MimeType.unknown := by
  obtain ⟨star, below, selects, taken, loaded⟩ := default_selects_typed
  have hfs : (site scriptAndMap).WellFormed := by
    refine wellFormed_site ⟨⟨by decide, by decide⟩, nofun, ?_, trivial⟩
    exact ⟨⟨by decide, by decide⟩, by decide, trivial, ⟨by decide, by decide⟩, nofun, trivial,
      trivial⟩
  have hf : (siteOf scriptAndMap).failure? = none :=
    Directory.failure?_eq_none.mpr ⟨by decide +kernel, by decide +kernel⟩
  obtain ⟨registry, hl, -⟩ := result_of_readable (s := .default) "admin/" hfs
    (opened_site scriptAndMap) hf fun _ _ => rfl
  have hok : (load (site scriptAndMap) usualPlace "admin/" .default).outcome = .ok registry :=
    outcome_eq_ok.mpr hl
  refine ⟨(star "js/main.js" ".js" (by decide)).mpr (by decide), ?notBelow, ?notMap, ?typed,
    registry, hok, loaded _ _ _ registry (.inl hok)⟩
  case notBelow =>
    rw [← Bool.not_eq_true]
    exact fun h => absurd ((below "lib/js/main.js" "js" (by decide)).mp h) (by decide)
  case notMap =>
    rw [← Bool.not_eq_true, selects]
    decide
  case typed =>
    obtain ⟨-, type, -, ht, hne⟩ := (taken "js/main.js" "js" (by decide) (by decide)).imp_right
      fun h => h "admin/"
    rw [ht]
    exact hne

end BundleHost.Bundle
