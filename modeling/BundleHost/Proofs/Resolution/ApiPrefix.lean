import BundleHost.Proofs.Resolution.Decision
import BundleHost.Proofs.Text.Trimming

/-! Requests for the programming interface. A key belongs to the interface if its segments, or those
after the namespace, start with the segments of one of the prefixes. Slashes before a path and
around a prefix do not count, but two slashes in a row within a key have an empty segment between
them, which is a segment like any other: a prefix does not reach over it. -/

namespace BundleHost

namespace Key

/-- What a path says after the slashes at its start, and after the namespace if that is there. -/
def rest (ns path : Text) : Text := relative ns (path.dropWhile Text.isSlash)

theorem relative_ofPath (ns path : Text) : relative ns (ofPath ns path) = rest ns path := by
  unfold ofPath rest relative Text.dropStart
  by_cases h : ns.isPrefixOf (path.dropWhile Text.isSlash) = true
  · simp [h]
  · have hp : ns.isPrefixOf (ns ++ path.dropWhile Text.isSlash) = true :=
      List.isPrefixOf_iff_prefix.mpr (List.prefix_append _ _)
    simp [h, hp]

/-- The segments of a path that are not empty. -/
def names (path : Text) : List Text := (segments path).filter fun s => !s.isEmpty

/-- The names of a path without those of the namespace, if it starts with them. -/
def namesAfter (ns path : Text) : List Text :=
  if (names ns).isPrefixOf (names path) then (names path).drop (names ns).length else names path

end Key

namespace Resolver

/-! ### Prefixes as segments -/

theorem underPrefix_iff {key bare : Text} :
    underPrefix key bare = true ↔ Key.segments bare <+: Key.segments key := by
  rw [Key.segments, Key.segments, Text.split_prefix_iff]
  simp [underPrefix]

theorem barePrefix_ne_nil {p : Text} : barePrefix p ≠ [] ↔ ∃ c ∈ p, c ≠ '/' := by
  rw [ne_eq, barePrefix, Text.trim_eq_nil]
  simp [Text.isSlash]

theorem mem_barePrefixes {ps : List Text} {bare : Text} :
    bare ∈ barePrefixes ps ↔ ∃ p ∈ ps, (∃ c ∈ p, c ≠ '/') ∧ barePrefix p = bare := by
  simp only [barePrefixes, List.mem_filter, List.mem_map, Bool.not_eq_true',
    List.isEmpty_eq_false_iff]
  constructor
  · rintro ⟨⟨p, hp, rfl⟩, hn⟩
    exact ⟨p, hp, barePrefix_ne_nil.mp hn, rfl⟩
  · rintro ⟨p, hp, hc, rfl⟩
    exact ⟨⟨p, hp, rfl⟩, barePrefix_ne_nil.mpr hc⟩

/-- A key belongs to the interface through its own segments or through those after the namespace. -/
theorem isApiRoute_make_iff {registry : Registry} {ns rootDocument key : Text}
    {apiPrefixes : List Text} :
    (make registry ns rootDocument apiPrefixes).isApiRoute key = true ↔
      ∃ p ∈ apiPrefixes, (∃ c ∈ p, c ≠ '/') ∧
        (Key.segments (barePrefix p) <+: Key.segments key ∨
          Key.segments (barePrefix p) <+: Key.segments (Key.relative ns key)) := by
  simp only [isApiRoute, make, List.any_eq_true, Bool.or_eq_true, underPrefix_iff,
    mem_barePrefixes]
  constructor
  · rintro ⟨bare, ⟨p, hp, hc, rfl⟩, h⟩
    exact ⟨p, hp, hc, h⟩
  · rintro ⟨p, hp, hc, h⟩
    exact ⟨barePrefix p, ⟨p, hp, hc, rfl⟩, h⟩

theorem resolve_of_isApiRoute {r : Resolver} {key : Text} (h : r.isApiRoute key = true)
    (directoryRoute : Bool) :
    (∃ asset, r.resolve key directoryRoute = .hit key asset) ∨
      r.resolve key directoryRoute = .miss key .notFound := by
  unfold resolve
  cases r.registry.find? key with
  | some a => exact .inl ⟨r.served a, rfl⟩
  | none =>
    right
    simp [h]

/-! ### Requests under a prefix -/

/-- A request whose segments start with those of a prefix, behind the namespace or without it, gets
a file or is told that there is none. It never gets the root document, and it is never told that
the root document is missing. -/
theorem resolveRequest_of_segments (registry : Registry) (ns rootDocument : Text)
    (apiPrefixes : List Text) (path : Text) {p : Text} (hp : p ∈ apiPrefixes)
    (hc : ∃ c ∈ p, c ≠ '/')
    (h : Key.segments (barePrefix p) <+: Key.segments (Key.rest ns path)) :
    let o := (make registry ns rootDocument apiPrefixes).resolveRequest path
    o.isFallback = false ∧ ∀ reason, o.missReason? = some reason → reason = .notFound := by
  intro o
  have hi : (make registry ns rootDocument apiPrefixes).isApiRoute (Key.ofPath ns path) = true :=
    isApiRoute_make_iff.mpr ⟨p, hp, hc, .inr (by rwa [Key.relative_ofPath])⟩
  have ho : (∃ asset, o = .hit (Key.ofPath ns path) asset) ∨
      o = .miss (Key.ofPath ns path) .notFound := resolve_of_isApiRoute hi _
  rcases ho with ⟨asset, ho⟩ | ho
  · rw [ho]
    exact ⟨rfl, fun _ hr => nomatch hr⟩
  · rw [ho]
    exact ⟨rfl, fun _ hr => (Option.some.inj hr).symm⟩

/-- Slashes before the path and around the prefix are passed over. -/
theorem resolveRequest_of_slashed_prefix :
    ((make .empty defaultNamespace defaultRootDocument ["//api/v1/".toList]).resolveRequest
      "//admin/api/v1/users".toList).isFallback = false :=
  (resolveRequest_of_segments .empty defaultNamespace defaultRootDocument ["//api/v1/".toList]
    "//admin/api/v1/users".toList (List.mem_singleton.mpr rfl) ⟨'a', by decide, by decide⟩
    (by decide)).1

/-! ### Empty segments -/

/-- A bundle that is nothing but the default root document. -/
def rootAlone : Registry where
  assets := [⟨rootKeyOf defaultNamespace defaultRootDocument, .empty⟩]
  nodup_keys := by simp

/-- The names of a path do not decide: behind the namespace and one more slash the prefix is not
recognised, and the request gets the root document. -/
theorem not_excluded_by_names :
    ¬∀ (registry : Registry) (ns rootDocument : Text) (apiPrefixes : List Text) (path : Text),
      ns.getLast? = some '/' → ns.head? ≠ some '/' →
      (∃ p ∈ apiPrefixes, (∃ c ∈ p, c ≠ '/') ∧ Key.names p <+: Key.namesAfter ns path) →
      ((make registry ns rootDocument apiPrefixes).resolveRequest path).isFallback = false ∧
        ∀ reason,
          ((make registry ns rootDocument apiPrefixes).resolveRequest path).missReason? =
            some reason → reason = .notFound := by
  intro h
  have excluded := (h rootAlone defaultNamespace defaultRootDocument defaultApiPrefixes
    "admin//api/users".toList (by decide) (by decide)
    ⟨"api/".toList, by decide, ⟨'a', by decide, by decide⟩, by decide⟩).1
  have fallback : ((make rootAlone defaultNamespace defaultRootDocument
      defaultApiPrefixes).resolveRequest "admin//api/users".toList).isFallback = true := by
    decide
  rw [fallback] at excluded
  cases excluded

end Resolver
end BundleHost
