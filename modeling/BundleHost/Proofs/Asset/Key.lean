import BundleHost.Asset.Key
import BundleHost.Proofs.Text.Segments

/-! Keys of request paths. Slashes at the start of a path do not count, and every path leads to a
key that starts with the namespace. A key leads to itself, so that paths are projected onto the
keys. Two paths lead to one key only if they are the same behind the slashes at their starts, or if
one of them spells out the namespace in front of the other one, which does not start with it. -/

namespace BundleHost.Key

variable {ns path key : Text}

/-! ### Slashes at the start -/

theorem ofPath_of_rest (h : path.head? ≠ some '/') :
    ofPath ns path = if ns.isPrefixOf path then path else ns ++ path := by
  cases path with
  | nil => simp [ofPath]
  | cons c r =>
    have hc : Text.isSlash c = false := by simpa [Text.isSlash] using h
    simp [ofPath, hc]

theorem ofPath_of_slashes (hns : ns ≠ []) (h : ∀ c ∈ path, c = '/') : ofPath ns path = ns := by
  induction path with
  | nil => simp [ofPath, hns]
  | cons c r ih =>
    rw [h c (by simp), ofPath_slash]
    exact ih fun d hd => h d (by simp [hd])

theorem ofPath_replicate_slash (ns path : Text) (n : Nat) :
    ofPath ns (List.replicate n '/' ++ path) = ofPath ns path := by
  induction n with
  | zero => rfl
  | succ n ih => rw [List.replicate_succ, List.cons_append, ofPath_slash, ih]

theorem head?_dropWhile_isSlash (path : Text) : (path.dropWhile Text.isSlash).head? ≠ some '/' := by
  intro h
  have hn := List.head?_dropWhile_not Text.isSlash path
  rw [h] at hn
  cases hn

theorem ofPath_dropWhile (ns path : Text) :
    ofPath ns (path.dropWhile Text.isSlash) = ofPath ns path := by
  rw [ofPath_of_rest (head?_dropWhile_isSlash path), ofPath]

theorem ofPath_of_not_isPrefix (hs : path.head? ≠ some '/') (hn : ¬ ns <+: path) :
    ofPath ns path = ns ++ path := by
  rw [ofPath_of_rest hs, if_neg (by simpa using hn)]

theorem ofPath_of_isPrefix (hs : path.head? ≠ some '/') (hn : ns <+: path) :
    ofPath ns path = path := by
  rw [ofPath_of_rest hs, if_pos (by simpa using hn)]

/-- A slash at the end of a path is at the end of its key too. -/
theorem getLast?_ofPath (hns : ns.getLast? = some '/') (hp : path.getLast? = some '/') :
    (ofPath ns path).getLast? = some '/' := by
  induction path with
  | nil => cases hp
  | cons c r ih =>
    by_cases hc : c = '/'
    · rw [hc, ofPath_slash]
      cases r with
      | nil =>
        have hn : ns ≠ [] := fun e => by simp [e] at hns
        rw [ofPath_of_slashes hn (by simp), hns]
      | cons d rest => exact ih (by simpa using hp)
    · rw [ofPath_of_rest (by simpa using hc)]
      split
      · exact hp
      · rw [List.getLast?_append, hp]
        rfl

/-! ### Last segments -/

/-- A path is its last segment, or has it behind a slash. -/
theorem finalSegment_cases (path : Text) :
    finalSegment path = path ∧ '/' ∉ path ∨
      ∃ above, path = above ++ '/' :: finalSegment path ∧ '/' ∉ finalSegment path := by
  rw [finalSegment]
  cases h : Text.afterLast? '/' path with
  | none => exact .inl ⟨rfl, Text.afterLast?_eq_none.mp h⟩
  | some name => exact .inr (Text.afterLast?_eq_some.mp h)

theorem slash_not_mem_finalSegment (path : Text) : '/' ∉ finalSegment path := by
  rcases finalSegment_cases path with ⟨he, hn⟩ | ⟨_, -, hn⟩
  · rwa [he]
  · exact hn

theorem finalSegment_suffix (path : Text) : finalSegment path <:+ path := by
  rcases finalSegment_cases path with ⟨he, -⟩ | ⟨above, he, -⟩
  · exact ⟨[], he⟩
  · exact ⟨above ++ ['/'], by rw [List.append_assoc, List.singleton_append, ← he]⟩

/-! ### Keys as their own paths -/

theorem head?_ofPath (hns : ns.head? ≠ some '/') (path : Text) :
    (ofPath ns path).head? ≠ some '/' := by
  rw [← ofPath_dropWhile]
  have hs := head?_dropWhile_isSlash path
  generalize path.dropWhile Text.isSlash = rest at hs
  by_cases hn : ns <+: rest
  · rw [ofPath_of_isPrefix hs hn]
    exact hs
  · rw [ofPath_of_not_isPrefix hs hn]
    cases ns with
    | nil => exact absurd List.nil_prefix hn
    | cons c r => exact hns

/-- The paths that lead to themselves are those that start with the namespace. -/
theorem ofPath_eq_self_iff (hns : ns.head? ≠ some '/') :
    ofPath ns key = key ↔ key.head? ≠ some '/' ∧ ns <+: key := by
  constructor
  · intro h
    rw [← h]
    exact ⟨head?_ofPath hns key, namespace_isPrefix_ofPath ns key⟩
  · rintro ⟨hs, hn⟩
    exact ofPath_of_isPrefix hs hn

/-! ### Paths with the same key -/

/-- One path is another one with the namespace in front, which the other one does not start with. -/
def SpellsOut (ns long short : Text) : Prop := long = ns ++ short ∧ ¬ ns <+: short

theorem SpellsOut.ofPath_eq {long short : Text} (h : SpellsOut ns long short)
    (hl : long.head? ≠ some '/') (hs : short.head? ≠ some '/') :
    ofPath ns long = ofPath ns short := by
  obtain ⟨rfl, hn⟩ := h
  rw [ofPath_of_isPrefix hl (List.prefix_append ns short), ofPath_of_not_isPrefix hs hn]

/-- Two paths lead to one key only if one of them spells out what the other one leaves out. -/
theorem ofPath_eq_ofPath_iff {path other : Text} (hp : path.head? ≠ some '/')
    (ho : other.head? ≠ some '/') : ofPath ns path = ofPath ns other ↔
      path = other ∨ SpellsOut ns path other ∨ SpellsOut ns other path := by
  constructor
  · intro h
    by_cases hn : ns <+: path <;> by_cases hm : ns <+: other
    · rw [ofPath_of_isPrefix hp hn, ofPath_of_isPrefix ho hm] at h
      exact .inl h
    · rw [ofPath_of_isPrefix hp hn, ofPath_of_not_isPrefix ho hm] at h
      exact .inr (.inl ⟨h, hm⟩)
    · rw [ofPath_of_not_isPrefix hp hn, ofPath_of_isPrefix ho hm] at h
      exact .inr (.inr ⟨h.symm, hn⟩)
    · rw [ofPath_of_not_isPrefix hp hn, ofPath_of_not_isPrefix ho hm] at h
      exact .inl (List.append_cancel_left h)
  · rintro (rfl | h | h)
    · rfl
    · exact h.ofPath_eq hp ho
    · exact (h.ofPath_eq ho hp).symm

/-- Paths are projected onto the keys, which start with the namespace, and only two spellings lead
to one key, with the namespace and without it. -/
theorem ofPath_projects (hns : ns.head? ≠ some '/') (path : Text) :
    ns <+: ofPath ns path ∧
    (∀ n, ofPath ns (List.replicate n '/' ++ path) = ofPath ns path) ∧
    ofPath ns (ofPath ns path) = ofPath ns path ∧
    ∀ other, path.head? ≠ some '/' → other.head? ≠ some '/' → path ≠ other →
      (ofPath ns path = ofPath ns other ↔ SpellsOut ns path other ∨ SpellsOut ns other path) := by
  refine ⟨namespace_isPrefix_ofPath ns path, ofPath_replicate_slash ns path, ?same, ?spellings⟩
  case same =>
    exact (ofPath_eq_self_iff hns).mpr ⟨head?_ofPath hns path, namespace_isPrefix_ofPath ns path⟩
  case spellings =>
    intro other hp ho hne
    rw [ofPath_eq_ofPath_iff hp ho]
    exact or_iff_right hne

/-- A path that has the namespace once leads to the same key as without it, but not a path that has
it twice. -/
theorem ofPath_admin :
    ofPath "admin/" "admin/app.js" = ofPath "admin/" "app.js" ∧
      ofPath "admin/" "admin/admin/app.js" ≠ ofPath "admin/" "admin/app.js" := by
  have hns : ("admin/" : Text).head? ≠ some '/' := by decide
  obtain ⟨-, -, -, once⟩ := ofPath_projects hns "admin/app.js"
  constructor
  · exact (once "app.js" (by decide) (by decide) (by decide)).mpr (.inl ⟨rfl, by decide⟩)
  · intro h
    rcases (once "admin/admin/app.js" (by decide) (by decide) (by decide)).mp h.symm with h | h
    · exact absurd h.1 (by decide)
    · exact h.2 (by decide)

end BundleHost.Key
