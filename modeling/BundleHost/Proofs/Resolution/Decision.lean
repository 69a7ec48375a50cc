import BundleHost.Proofs.Asset.Entries
import BundleHost.Proofs.Asset.Key
import BundleHost.Proofs.Text.Segments
import BundleHost.Resolution.Resolver

/-! The rules of resolution as one table: what is registered under a key, whether the key belongs to
the programming interface, whether its last segment has a dot, and whether there is a root document
decide between four outcomes, and leave no other. A slash at the end of a request path decides
nothing by itself, because the key then ends with that slash and its last segment is empty. -/

namespace BundleHost

namespace Key

/-- The pieces of a key between its slashes, empty ones among them. -/
def segments (key : Text) : List Text := Text.split '/' key

def lastSegment (key : Text) : Text := (segments key).getLastD []

theorem finalSegment_eq_lastSegment (key : Text) : finalSegment key = lastSegment key := by
  rw [lastSegment, List.getLastD_eq_getLast?, segments, Text.getLast?_split]
  rfl

theorem lastSegment_of_slash {key : Text} (h : key.getLast? = some '/') : lastSegment key = [] := by
  obtain ⟨start, rfl⟩ := List.getLast?_eq_some_iff.mp h
  rw [lastSegment, segments, Text.split_append_cons]
  simp [Text.split]

end Key

namespace Resolver

/-! ### The table -/

/-- A key that is no file, and that only the client can know. -/
def IsClientRoute (r : Resolver) (key : Text) : Prop :=
  key ∉ r.registry.keys ∧ r.isApiRoute key = false ∧ '.' ∉ Key.lastSegment key

/-- What a key may resolve to. The four conditions on the right exclude each other, and one of them
holds for every key. -/
structure Follows (r : Resolver) (key : Text) (o : Outcome) : Prop where
  hit : ∀ data, (∃ asset, o = .hit key asset ∧ asset.payload = data) ↔
    (key, data) ∈ r.registry.entries
  notFound : o = .miss key .notFound ↔
    key ∉ r.registry.keys ∧ (r.isApiRoute key = true ∨ '.' ∈ Key.lastSegment key)
  fallback : ∀ data, (∃ asset, o = .fallback key asset ∧ asset.payload = data) ↔
    r.IsClientRoute key ∧ (r.rootKey, data) ∈ r.registry.entries
  unavailable : o = .miss key .bundleUnavailable ↔
    r.IsClientRoute key ∧ r.rootKey ∉ r.registry.keys

theorem fallbackEligible_false (key : Text) :
    fallbackEligible key false = true ↔ '.' ∉ Key.lastSegment key := by
  simp [fallbackEligible, Key.finalSegment_eq_lastSegment]

theorem mem_entries_of_find? {registry : Registry} {key : Text} {a : Asset}
    (h : registry.find? key = some a) (data : ByteArray) :
    a.data = data ↔ (key, data) ∈ registry.entries := by
  obtain rfl := Registry.key_of_find? h
  rw [← Registry.find?_eq_some, h, Option.some.injEq]
  constructor
  · rintro rfl
    rfl
  · intro e
    rw [e]

theorem follows_of_registered {r : Resolver} {key : Text} {a : Asset}
    (h : r.registry.find? key = some a) : r.Follows key (.hit key (r.served a)) := by
  have hk : key ∈ r.registry.keys :=
    Registry.mem_keys.mpr ⟨_, (mem_entries_of_find? h _).mp rfl⟩
  constructor
  · intro data
    rw [← mem_entries_of_find? h]
    simp [served]
  · simp [hk]
  · simp [IsClientRoute, hk]
  · simp [IsClientRoute, hk]

theorem follows_of_excluded {r : Resolver} {key : Text} (hk : key ∉ r.registry.keys)
    (h : r.isApiRoute key = true ∨ '.' ∈ Key.lastSegment key) :
    r.Follows key (.miss key .notFound) := by
  have hc : ¬r.IsClientRoute key := by
    rintro ⟨-, hi, hd⟩
    rcases h with h | h
    · rw [hi] at h
      cases h
    · exact hd h
  have he (data : ByteArray) : (key, data) ∉ r.registry.entries :=
    fun hm => hk (Registry.mem_keys.mpr ⟨data, hm⟩)
  constructor
  · simp [he]
  · simp [hk, h]
  · simp [hc]
  · simp [hc]

theorem follows_of_route {r : Resolver} {key : Text} (h : r.IsClientRoute key) :
    r.Follows key (match r.registry.find? r.rootKey with
      | some root => .fallback key (servedRoot root)
      | none => .miss key .bundleUnavailable) := by
  obtain ⟨hk, hi, hd⟩ := id h
  have he (data : ByteArray) : (key, data) ∉ r.registry.entries :=
    fun hm => hk (Registry.mem_keys.mpr ⟨data, hm⟩)
  split
  · next root hr =>
    have hroot : r.rootKey ∈ r.registry.keys :=
      Registry.mem_keys.mpr ⟨_, (mem_entries_of_find? hr _).mp rfl⟩
    constructor
    · simp [he]
    · simp [hi, hd]
    · intro data
      rw [← mem_entries_of_find? hr]
      simp [h, servedRoot]
    · simp [hroot]
  · next hr =>
    have hroot : r.rootKey ∉ r.registry.keys := Registry.find?_eq_none.mp hr
    have hn (data : ByteArray) : (r.rootKey, data) ∉ r.registry.entries :=
      fun hm => hroot (Registry.mem_keys.mpr ⟨data, hm⟩)
    constructor
    · simp [he]
    · simp [hi, hd]
    · simp [hn]
    · simp [h, hroot]

/-- The rules, tried in their order, give what the table says. -/
theorem follows_resolve (r : Resolver) (key : Text) : r.Follows key (r.resolve key false) := by
  unfold resolve
  split
  · next h => exact follows_of_registered h
  · next h =>
    have hk : key ∉ r.registry.keys := Registry.find?_eq_none.mp h
    split
    · next hx =>
      refine follows_of_excluded hk ?_
      rw [Bool.or_eq_true, Bool.not_eq_true', ← Bool.not_eq_true, fallbackEligible_false,
        Decidable.not_not] at hx
      exact hx
    · next hx =>
      simp only [Bool.or_eq_true, Bool.not_eq_true', not_or, Bool.not_eq_true,
        Bool.not_eq_false] at hx
      exact follows_of_route ⟨hk, hx.1, (fallbackEligible_false key).mp hx.2⟩

/-- A key that is excluded from the routes of the client is a file or nothing. -/
theorem Follows.of_excluded {r : Resolver} {key : Text} {o : Outcome} (h : r.Follows key o)
    (hx : r.isApiRoute key = true ∨ '.' ∈ Key.lastSegment key) :
    (∃ asset, o = .hit key asset) ∨ o = .miss key .notFound := by
  by_cases hk : key ∈ r.registry.keys
  · left
    obtain ⟨data, hm⟩ := Registry.mem_keys.mp hk
    obtain ⟨asset, ho, -⟩ := (h.hit data).mpr hm
    exact ⟨asset, ho⟩
  · right
    exact h.notFound.mpr ⟨hk, hx⟩

/-! ### Slashes at the end -/

theorem fallbackEligible_of_slash {key : Text} (h : key.getLast? = some '/') :
    fallbackEligible key false = true := by
  rw [fallbackEligible_false, Key.lastSegment_of_slash h]
  exact List.not_mem_nil

/-- The slash at the end of a path is in its key, where it has the same effect. -/
theorem resolveRequest_eq_resolve {r : Resolver} (hns : r.ns.getLast? = some '/') (path : Text) :
    r.resolveRequest path = r.resolve (Key.ofPath r.ns path) false := by
  unfold resolveRequest
  cases hd : Key.isDirectoryRoute path with
  | false => rfl
  | true =>
    have hk := fallbackEligible_of_slash
      (Key.getLast?_ofPath hns (by simpa [Key.isDirectoryRoute] using hd))
    have ht : fallbackEligible (Key.ofPath r.ns path) true = true := rfl
    unfold resolve
    rw [hk, ht]

/-! ### What outcomes carry -/

/-- What a key can resolve to, with what is registered then. -/
inductive Resolves (r : Resolver) (key : Text) : Outcome → Prop
  | hit {a : Asset} (found : r.registry.find? key = some a) : Resolves r key (.hit key (r.served a))
  | fallback {root : Asset} (found : r.registry.find? r.rootKey = some root) :
    Resolves r key (.fallback key (servedRoot root))
  | miss (reason : MissReason) : Resolves r key (.miss key reason)

theorem resolves_resolve (r : Resolver) (key : Text) (directoryRoute : Bool) :
    r.Resolves key (r.resolve key directoryRoute) := by
  unfold resolve
  split
  · next a ha => exact .hit ha
  · split
    · exact .miss .notFound
    · split
      · next root hr => exact .fallback hr
      · exact .miss .bundleUnavailable

theorem isFallback_of_asset? {r : Resolver} {key : Text} {directoryRoute : Bool}
    {asset : ServedAsset} (h : (r.resolve key directoryRoute).asset? = some asset) :
    asset.isFallback = (r.resolve key directoryRoute).isFallback := by
  have hr := resolves_resolve r key directoryRoute
  generalize r.resolve key directoryRoute = o at h hr
  cases hr with
  | hit found =>
    obtain rfl := Option.some.inj h
    rfl
  | fallback found =>
    obtain rfl := Option.some.inj h
    rfl
  | miss reason => cases h

/-! ### Requests -/

/-- The table of all requests. Whether a path ends with a slash does not change its outcome, a dot
in the last segment of the key rules the root document out, and paths of slashes alone ask for what
the namespace itself resolves to. An outcome carries an asset or a reason, and only a fallback
carries an asset that is marked as one. -/
theorem resolveRequest_follows (registry : Registry) {ns : Text} (hns : ns.getLast? = some '/')
    (rootDocument : Text) (apiPrefixes : List Text) (path : Text) :
    let r := make registry ns rootDocument apiPrefixes
    let key := Key.ofPath ns path
    let o := r.resolveRequest path
    o = r.resolve key false ∧
      r.Follows key o ∧
      ('.' ∈ Key.lastSegment key → o.isFallback = false) ∧
      ((∀ c ∈ path, c = '/') → o = r.resolve ns false) ∧
      (o.asset? = none ↔ o.missReason?.isSome) ∧
      ∀ asset, o.asset? = some asset → asset.isFallback = o.isFallback := by
  intro r key o
  have ho : o = r.resolve key false := resolveRequest_eq_resolve hns path
  have hf : r.Follows key o := ho ▸ follows_resolve r key
  refine ⟨ho, hf, ?_, ?_, o.asset?_eq_none_iff, ?_⟩
  · intro hd
    rcases hf.of_excluded (.inr hd) with ⟨asset, h⟩ | h <;> rw [h] <;> rfl
  · intro hp
    have hn : ns ≠ [] := fun e => by simp [e] at hns
    have hk : key = ns := Key.ofPath_of_slashes hn hp
    rw [ho, hk]
  · intro asset ha
    exact isFallback_of_asset? ha

/-- A route of the client without a bundle to answer it. -/
theorem resolveRequest_of_empty :
    (make .empty defaultNamespace defaultRootDocument defaultApiPrefixes).resolveRequest
        "v1.0/users/".toList =
      .miss "admin/v1.0/users/".toList .bundleUnavailable := by
  have hns : defaultNamespace.getLast? = some '/' := by decide
  have table := resolveRequest_follows .empty hns
    defaultRootDocument defaultApiPrefixes "v1.0/users/".toList
  have key : Key.ofPath defaultNamespace "v1.0/users/".toList = "admin/v1.0/users/".toList := by
    decide
  rw [key] at table
  exact table.2.1.unavailable.mpr ⟨⟨by decide, by decide, by decide⟩, by decide⟩

end Resolver
end BundleHost
