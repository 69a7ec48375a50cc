import BundleHost.Glob.Match

/-! Patterns that are a plain text with a star at one end. With the star in front they match the
texts that end with the plain text, and with the star behind it those that start with it. -/

namespace BundleHost.Glob

variable {t s : Text}

theorem matches_chars_append {ts : Pattern} :
    Matches (t.map Token.char ++ ts) s ↔ ∃ rest, s = t ++ rest ∧ Matches ts rest := by
  induction t generalizing s with
  | nil => simp
  | cons c r ih =>
    rw [List.map_cons, List.cons_append]
    cases s with
    | nil => simp [not_matches_cons_nil]
    | cons d s =>
      rw [matches_cons_iff (by simp), Token.accepts, beq_iff_eq, ih]
      constructor
      · rintro ⟨rfl, rest, rfl, hm⟩
        exact ⟨rest, rfl, hm⟩
      · rintro ⟨rest, hs, hm⟩
        obtain ⟨rfl, rfl⟩ := List.cons.inj hs
        exact ⟨rfl, rest, rfl, hm⟩

theorem matches_chars : Matches (t.map Token.char) s ↔ s = t := by
  rw [← List.append_nil (t.map Token.char), matches_chars_append]
  simp [matches_nil_iff]

theorem matches_run_chars : Matches (.run :: t.map Token.char) s ↔ t <:+ s := by
  rw [matches_run_iff]
  constructor
  · rintro ⟨a, b, rfl, hb⟩
    exact ⟨a, by rw [matches_chars.mp hb]⟩
  · rintro ⟨a, rfl⟩
    exact ⟨a, t, rfl, matches_chars.mpr rfl⟩

theorem matches_chars_run : Matches (t.map Token.char ++ [.run]) s ↔ t <+: s := by
  rw [matches_chars_append]
  constructor
  · rintro ⟨rest, rfl, -⟩
    exact List.prefix_append t rest
  · rintro ⟨rest, rfl⟩
    exact ⟨rest, rfl, matches_run_iff.mpr ⟨rest, [], (List.append_nil rest).symm, .nil⟩⟩

/-! ### Written patterns -/

/-- No character means something else than itself. -/
def IsPlain (t : Text) : Prop := ∀ c ∈ t, isSpecial c = false

instance (t : Text) : Decidable (IsPlain t) := List.decidableBAll _ t

/-- A star in front of a plain text matches what ends with the text. -/
theorem matches_star_before (h : IsPlain t) :
    (Pattern.ofText ('*' :: t)).matches s = true ↔ t <:+ s := by
  have hread : Pattern.ofText ('*' :: t) = .run :: t.map Token.char := by
    rw [← Pattern.ofText_plain h]
    rfl
  rw [hread, matches_iff, matches_run_chars]

/-- A star behind a plain text matches what starts with the text. -/
theorem matches_star_behind (h : IsPlain t) :
    (Pattern.ofText (t ++ ['*'])).matches s = true ↔ t <+: s := by
  have hread : Pattern.ofText (t ++ ['*']) = t.map Token.char ++ [.run] :=
    Pattern.ofText_append h ['*']
  rw [hread, matches_iff, matches_chars_run]

end BundleHost.Glob
