import BundleHost.Text.Basic

/-! Cutting at a separator and joining again are inverse to each other on pieces without the
separator. One text lists the pieces of another one first if and only if the other one is that text
or goes on after it with the separator, so that tests on characters and tests on pieces agree. What
follows the last separator is the last piece. -/

namespace BundleHost.Text

variable {sep : Char}

/-! ### Pieces -/

/-- A text without the separator is one piece. -/
theorem split_of_not_mem {t : Text} (h : sep ∉ t) : split sep t = [t] := by
  induction t with
  | nil => rfl
  | cons c r ih =>
    have hc : c ≠ sep := fun e => h (by simp [e])
    have hr : sep ∉ r := fun m => h (by simp [m])
    rw [split, if_neg hc, ih hr]

/-- A separator ends the pieces before it and starts those after it. -/
theorem split_append_cons (sep : Char) (a b : Text) :
    split sep (a ++ sep :: b) = split sep a ++ split sep b := by
  induction a with
  | nil => simp [split]
  | cons c r ih =>
    rw [List.cons_append, split, split]
    by_cases hc : c = sep
    · rw [if_pos hc, if_pos hc, ih, List.cons_append]
    · rw [if_neg hc, if_neg hc, ih]
      cases hs : split sep r with
      | nil => exact absurd hs (split_ne_nil _ _)
      | cons piece pieces => rfl

/-- What holds of the texts without the separator, and of two texts with the separator between them
if it holds of both, holds of each text. -/
@[elab_as_elim]
theorem separated_induction (sep : Char) {motive : Text → Prop}
    (piece : ∀ t, sep ∉ t → motive t)
    (separator : ∀ a b, motive a → motive b → motive (a ++ sep :: b)) (t : Text) : motive t := by
  by_cases h : sep ∈ t
  · obtain ⟨a, b, ht, ha⟩ := List.eq_append_cons_of_mem h
    have hlt : b.length < t.length := by rw [ht, List.length_append, List.length_cons]; omega
    rw [ht]
    exact separator a b (piece a ha) (separated_induction sep piece separator b)
  · exact piece t h
termination_by t.length

theorem join_cons (piece : Text) {rest : List Text} (h : rest ≠ []) :
    join [sep] (piece :: rest) = piece ++ sep :: join [sep] rest := by
  obtain ⟨next, more, rfl⟩ := List.exists_cons_of_ne_nil h
  simp [join]

/-- Pieces that are joined and cut again come back as they were. -/
theorem split_join {pieces : List Text} (hne : pieces ≠ []) (h : ∀ piece ∈ pieces, sep ∉ piece) :
    split sep (join [sep] pieces) = pieces := by
  induction pieces with
  | nil => exact absurd rfl hne
  | cons piece rest ih =>
    rw [List.forall_mem_cons] at h
    obtain ⟨hp, hrest⟩ := h
    by_cases hr : rest = []
    · rw [hr]
      exact split_of_not_mem hp
    · rw [join_cons piece hr, split_append_cons, split_of_not_mem hp, ih hr hrest,
        List.singleton_append]

theorem join_append {xs ys : List Text} (hx : xs ≠ []) (hy : ys ≠ []) :
    join [sep] (xs ++ ys) = join [sep] xs ++ sep :: join [sep] ys := by
  induction xs with
  | nil => exact absurd rfl hx
  | cons x rest ih =>
    by_cases hr : rest = []
    · rw [hr]
      exact join_cons x hy
    · rw [List.cons_append, join_cons x (by simp [hr]), join_cons x hr, ih hr, List.append_assoc,
        List.cons_append]

theorem split_injective {a b : Text} (h : split sep a = split sep b) : a = b := by
  rw [← join_split sep a, h, join_split]

theorem subset_of_mem_split {piece t : Text} (h : piece ∈ split sep t) : piece ⊆ t := by
  induction t using separated_induction sep with
  | piece t ht =>
    rw [split_of_not_mem ht] at h
    exact List.mem_singleton.mp h ▸ List.Subset.refl _
  | separator a b iha ihb =>
    rw [split_append_cons, List.mem_append] at h
    rcases h with h | h
    · exact List.subset_append_of_subset_left _ (iha h)
    · exact List.subset_append_of_subset_right _ (List.subset_cons_of_subset _ (ihb h))

theorem mem_join {c : Char} {sep : Text} {pieces : List Text} (h : c ∈ join sep pieces) :
    c ∈ sep ∨ ∃ piece ∈ pieces, c ∈ piece := by
  induction pieces with
  | nil => cases h
  | cons piece rest ih =>
    cases rest with
    | nil => exact .inr ⟨piece, List.mem_singleton_self _, h⟩
    | cons next more =>
      rw [join, List.mem_append, List.mem_append] at h
      rcases h with (h | h) | h
      · exact .inr ⟨piece, List.mem_cons_self, h⟩
      · exact .inl h
      · obtain hs | ⟨p, hp, hc⟩ := ih h
        · exact .inl hs
        · exact .inr ⟨p, List.mem_cons_of_mem _ hp, hc⟩

/-- The pieces of one text are the first pieces of another one in two cases only. -/
theorem split_prefix_iff {a b : Text} :
    split sep a <+: split sep b ↔ b = a ∨ a ++ [sep] <+: b := by
  constructor
  · rintro ⟨rest, h⟩
    by_cases hr : rest = []
    · left
      rw [hr, List.append_nil] at h
      exact (split_injective h).symm
    · right
      refine ⟨join [sep] rest, ?_⟩
      rw [← join_split sep b, ← h, join_append (split_ne_nil _ _) hr, join_split]
      simp
  · rintro (rfl | ⟨rest, rfl⟩)
    · exact List.prefix_rfl
    · rw [List.append_assoc, List.singleton_append, split_append_cons]
      exact List.prefix_append _ _

/-! ### The last piece -/

theorem afterLast?_append_cons (a b : Text) :
    afterLast? sep (a ++ sep :: b) = some ((afterLast? sep b).getD b) := by
  induction a with
  | nil =>
    rw [List.nil_append, afterLast?]
    cases afterLast? sep b with
    | some rest => rfl
    | none => exact if_pos rfl
  | cons c r ih => rw [List.cons_append, afterLast?, ih]

/-- What follows the last separator has no separator in it, and nothing else follows one. -/
theorem afterLast?_eq_some {t b : Text} :
    afterLast? sep t = some b ↔ ∃ a, t = a ++ sep :: b ∧ sep ∉ b := by
  constructor
  · intro h
    induction t using separated_induction sep with
    | piece t ht =>
      rw [afterLast?_eq_none.mpr ht] at h
      cases h
    | separator a r _ ih =>
      rw [afterLast?_append_cons, Option.some.injEq] at h
      cases hr : afterLast? sep r with
      | none =>
        obtain rfl : r = b := by rwa [hr] at h
        exact ⟨a, rfl, afterLast?_eq_none.mp hr⟩
      | some rest =>
        obtain rfl : rest = b := by rwa [hr] at h
        obtain ⟨a', rfl, hb⟩ := ih hr
        exact ⟨a ++ sep :: a', by simp, hb⟩
  · rintro ⟨a, rfl, hb⟩
    rw [afterLast?_append_cons, afterLast?_eq_none.mpr hb]
    rfl

theorem getLast?_split (sep : Char) (t : Text) :
    (split sep t).getLast? = some ((afterLast? sep t).getD t) := by
  cases h : afterLast? sep t with
  | none => rw [split_of_not_mem (afterLast?_eq_none.mp h)]; rfl
  | some b =>
    obtain ⟨a, rfl, hb⟩ := afterLast?_eq_some.mp h
    rw [split_append_cons, split_of_not_mem hb]
    simp

theorem afterLast?_of_suffix {t b : Text} (h : sep :: b <:+ t) (hb : sep ∉ b) :
    afterLast? sep t = some b := by
  obtain ⟨a, rfl⟩ := h
  exact afterLast?_eq_some.mpr ⟨a, rfl, hb⟩

/-- Text in front does not matter to what follows the last separator. -/
theorem afterLast?_append {a t b : Text} (h : afterLast? sep t = some b) :
    afterLast? sep (a ++ t) = some b := by
  obtain ⟨x, rfl, hb⟩ := afterLast?_eq_some.mp h
  exact afterLast?_eq_some.mpr ⟨a ++ x, by simp, hb⟩

theorem afterLast?_append_of_not_mem (a : Text) {b : Text} (h : sep ∉ b) :
    afterLast? sep (a ++ b) = (afterLast? sep a).map (· ++ b) := by
  cases ha : afterLast? sep a with
  | none =>
    rw [afterLast?_eq_none] at ha
    rw [Option.map_none, afterLast?_eq_none, List.mem_append]
    rintro (hm | hm)
    · exact ha hm
    · exact h hm
  | some x =>
    obtain ⟨y, rfl, hx⟩ := afterLast?_eq_some.mp ha
    rw [Option.map_some, afterLast?_eq_some]
    refine ⟨y, by simp, ?_⟩
    rw [List.mem_append]
    rintro (hm | hm)
    · exact hx hm
    · exact h hm

/-- A change of characters that neither makes a separator nor takes one away leaves the last one
where it is. -/
theorem afterLast?_map {f : Char → Char} (hf : ∀ c, f c = sep ↔ c = sep) (t : Text) :
    afterLast? sep (t.map f) = (afterLast? sep t).map (List.map f) := by
  induction t with
  | nil => rfl
  | cons c r ih =>
    rw [List.map_cons, afterLast?, afterLast?, ih]
    cases afterLast? sep r with
    | some rest => rfl
    | none => by_cases hc : c = sep <;> simp [hf, hc]

end BundleHost.Text
