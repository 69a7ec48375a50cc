import BundleHost.Proofs.Resolution.ApiPrefix

/-! Lists of prefixes, and the keys that belong to the interface under them. A key is read as it is
and without the namespace, and it belongs to the interface if in one of the two readings its
segments start with those of a prefix. So the order of the prefixes, how often each of them is given
and the slashes around them do not matter, and neither do entries that are slashes alone. The last
segment of a prefix has to be there in full: a longer segment that starts with it is another one. -/

namespace BundleHost

variable {bare key : Text}

namespace Key

/-! ### The place of a segment -/

/-- A key as it is and without the namespace. -/
def readings (ns key : Text) : List Text := [key, relative ns key]

/-- The segment of a key in the place where a prefix has its last one. -/
def segmentAgainst (bare key : Text) : Option Text := (segments key)[(segments bare).length - 1]?

theorem getLast?_segments (key : Text) : (segments key).getLast? = some (lastSegment key) := by
  rw [← finalSegment_eq_lastSegment, segments, Text.getLast?_split]
  rfl

/-- A key that starts with the segments of a prefix has the last of them in its place. -/
theorem segmentAgainst_of_segments (h : segments bare <+: segments key) :
    segmentAgainst bare key = some (lastSegment bare) := by
  obtain ⟨rest, hr⟩ := h
  have hlength : (segments bare).length - 1 < (segments bare).length := by
    have hne : segments bare ≠ [] := Text.split_ne_nil '/' bare
    have hpos := List.length_pos_iff.mpr hne
    omega
  rw [segmentAgainst, ← hr, List.getElem?_append_left hlength, ← List.getLast?_eq_getElem?,
    getLast?_segments]

end Key

namespace Resolver

variable {registry : Registry} {ns rootDocument : Text} {ps qs : List Text} {p q : Text}

/-! ### Lists of the same prefixes -/

/-- The same text between slashes, of which there may be any number on each side. -/
def SameBetweenSlashes (p q : Text) : Prop :=
  ∃ bare a b a' b', p = a ++ bare ++ b ∧ q = a' ++ bare ++ b' ∧
    ∀ c, c ∈ a ∨ c ∈ b ∨ c ∈ a' ∨ c ∈ b' → c = '/'

/-- Each list has the prefixes of the other one, in any order, any number of times and between any
slashes. Entries that are slashes alone do not count. -/
structure SamePrefixes (ps qs : List Text) : Prop where
  left : ∀ p ∈ ps, (∃ c ∈ p, c ≠ '/') → ∃ q ∈ qs, SameBetweenSlashes p q
  right : ∀ q ∈ qs, (∃ c ∈ q, c ≠ '/') → ∃ p ∈ ps, SameBetweenSlashes q p

theorem SameBetweenSlashes.barePrefix_eq (h : SameBetweenSlashes p q) :
    barePrefix p = barePrefix q := by
  obtain ⟨bare, a, b, a', b', rfl, rfl, hs⟩ := h
  have hslash {s : Text} (hm : ∀ c ∈ s, c = '/') : ∀ c ∈ s, Text.isSlash c = true :=
    fun c hc => by simp [Text.isSlash, hm c hc]
  rw [barePrefix, barePrefix,
    Text.trim_append b (hslash fun c hc => hs c (.inl hc)) (hslash fun c hc => hs c (by simp [hc])),
    Text.trim_append b' (hslash fun c hc => hs c (by simp [hc]))
      (hslash fun c hc => hs c (by simp [hc]))]

theorem mem_barePrefixes_of_same
    (h : ∀ p ∈ ps, (∃ c ∈ p, c ≠ '/') → ∃ q ∈ qs, SameBetweenSlashes p q)
    (hb : bare ∈ barePrefixes ps) : bare ∈ barePrefixes qs := by
  obtain ⟨p, hp, hc, rfl⟩ := mem_barePrefixes.mp hb
  obtain ⟨q, hq, hsame⟩ := h p hp hc
  rw [mem_barePrefixes]
  refine ⟨q, hq, barePrefix_ne_nil.mp ?_, hsame.barePrefix_eq.symm⟩
  rw [← hsame.barePrefix_eq]
  exact barePrefix_ne_nil.mpr hc

theorem SamePrefixes.isApiRoute_eq (h : SamePrefixes ps qs) (registry : Registry)
    (ns rootDocument key : Text) :
    (make registry ns rootDocument ps).isApiRoute key =
      (make registry ns rootDocument qs).isApiRoute key := by
  have hbare (bare : Text) : bare ∈ barePrefixes ps ↔ bare ∈ barePrefixes qs :=
    ⟨mem_barePrefixes_of_same h.left, mem_barePrefixes_of_same h.right⟩
  rw [Bool.eq_iff_iff]
  simp only [isApiRoute, make, List.any_eq_true, hbare]

/-! ### Whole segments -/

/-- Prefixes match whole segments. A key belongs to the interface if and only if in one of its
readings its segments start with those of a prefix that is more than slashes; lists of the same
prefixes make no difference; and a key that has other segments where the prefixes have their last
ones does not belong to it, such as longer ones that start with those. -/
theorem isApiRoute_by_segments (registry : Registry) (ns rootDocument : Text) :
    (∀ ps key, (make registry ns rootDocument ps).isApiRoute key = true ↔
      ∃ p ∈ ps, (∃ c ∈ p, c ≠ '/') ∧
        (Key.segments (barePrefix p) <+: Key.segments key ∨
          Key.segments (barePrefix p) <+: Key.segments (Key.relative ns key))) ∧
    (∀ ps qs, SamePrefixes ps qs → ∀ key,
      (make registry ns rootDocument ps).isApiRoute key =
        (make registry ns rootDocument qs).isApiRoute key) ∧
    (∀ bare reading more, more ≠ [] →
      Key.segmentAgainst bare reading = some (Key.lastSegment bare ++ more) →
        ¬ Key.segments bare <+: Key.segments reading) ∧
    ∀ ps key, (∀ p ∈ ps, (∃ c ∈ p, c ≠ '/') → ∀ reading ∈ Key.readings ns key,
        Key.segmentAgainst (barePrefix p) reading ≠ some (Key.lastSegment (barePrefix p))) →
      (make registry ns rootDocument ps).isApiRoute key = false := by
  refine ⟨fun ps key => isApiRoute_make_iff, fun ps qs h => h.isApiRoute_eq _ _ _, ?longer,
    ?differs⟩
  case longer =>
    intro bare reading more hne hlonger h
    rw [Key.segmentAgainst_of_segments h, Option.some.injEq] at hlonger
    exact hne (List.self_eq_append_right.mp hlonger)
  case differs =>
    intro ps key h
    rw [← Bool.not_eq_true, isApiRoute_make_iff]
    rintro ⟨p, hp, hc, hkey | hrelative⟩
    · exact h p hp hc key (by simp [Key.readings]) (Key.segmentAgainst_of_segments hkey)
    · exact h p hp hc _ (by simp [Key.readings]) (Key.segmentAgainst_of_segments hrelative)

/-- Users of version 1 are under its prefix, with any slashes around it, and users of version 10 are
not. -/
theorem isApiRoute_of_version :
    (make .empty "admin/" "index.html" ["/api/v1/"]).isApiRoute "admin/api/v1/users" = true ∧
      (make .empty "admin/" "index.html" ["//", "api/v1", "api/v1/"]).isApiRoute
        "admin/api/v1/users" = true ∧
      ¬ Key.segments "api/v1" <+: Key.segments "api/v10/users" ∧
      (make .empty "admin/" "index.html" ["/api/v1/"]).isApiRoute
        "admin/api/v10/users" = false := by
  obtain ⟨under, same, longer, other⟩ := isApiRoute_by_segments .empty "admin/" "index.html"
  have hfirst :
      (make .empty "admin/" "index.html" ["/api/v1/"]).isApiRoute "admin/api/v1/users" = true :=
    (under _ _).mpr ⟨"/api/v1/", by simp, ⟨'v', by decide, by decide⟩, .inr (by decide)⟩
  have hbetween (a b a' b' : Text) (h : (a ++ b ++ a' ++ b').all Text.isSlash = true) :
      SameBetweenSlashes (a ++ "api/v1" ++ b) (a' ++ "api/v1" ++ b') :=
    ⟨"api/v1", a, b, a', b', rfl, rfl, fun c hc =>
      beq_iff_eq.mp (List.all_eq_true.mp h c (by simpa [or_assoc] using hc))⟩
  have hsame : SamePrefixes ["/api/v1/"] ["//", "api/v1", "api/v1/"] := by
    constructor
    · intro p hp _
      obtain rfl := List.mem_singleton.mp hp
      exact ⟨"api/v1", by simp, hbetween "/" "/" "" "" (by decide)⟩
    · intro q hq hc
      refine ⟨"/api/v1/", by simp, ?_⟩
      simp only [List.mem_cons, List.not_mem_nil, or_false] at hq
      rcases hq with rfl | rfl | rfl
      · exact absurd hc (by simp)
      · exact hbetween "" "" "/" "/" (by decide)
      · exact hbetween "" "/" "/" "/" (by decide)
  refine ⟨hfirst, ?_, longer _ _ "0" (by decide) (by decide), other _ _ ?_⟩
  · rwa [← same _ _ hsame]
  · intro p hp _ reading hr
    obtain rfl := List.mem_singleton.mp hp
    simp only [Key.readings, List.mem_pair] at hr
    rcases hr with rfl | rfl <;> decide

end Resolver
end BundleHost
