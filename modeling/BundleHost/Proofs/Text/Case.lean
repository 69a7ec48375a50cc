import BundleHost.Text.Case

/-! What case leaves of a text. A letter outside ASCII stays the same where only the letters A to Z
are made small. In the small form of a text it need not stay, but there is one such letter only that
leaves nothing outside ASCII behind: the sign of the kelvin, whose small form is a `k`. -/

namespace BundleHost.Text

variable {c : Char} {t form : Text}

/-! ### The letters A to Z -/

theorem toNat_toLower (c : Char) :
    c.toLower.toNat = if 65 ≤ c.toNat ∧ c.toNat ≤ 90 then c.toNat + 32 else c.toNat := by
  have hu : (c.val ≥ 'A'.val ∧ c.val ≤ 'Z'.val) ↔ 65 ≤ c.toNat ∧ c.toNat ≤ 90 := by
    rw [ge_iff_le, UInt32.le_iff_toNat_le, UInt32.le_iff_toNat_le]
    rfl
  show (dite _ _ _ : Char).toNat = _
  split
  · next h =>
    have hn := hu.mp h
    rw [if_pos hn]
    show (c.val + 32).toNat = c.toNat + 32
    have hs : c.val.toNat = c.toNat := rfl
    rw [UInt32.toNat_add, hs]
    show (c.toNat + 32) % 2 ^ 32 = c.toNat + 32
    omega
  · next h => rw [if_neg fun hn => h (hu.mpr hn)]

theorem lowerAscii_lowerAscii (t : Text) : lowerAscii (lowerAscii t) = lowerAscii t := by
  have hc : Char.toLower ∘ Char.toLower = Char.toLower := by
    funext c
    show c.toLower.toLower = c.toLower
    rw [← Char.toNat_inj, toNat_toLower c.toLower, toNat_toLower c]
    by_cases hu : 65 ≤ c.toNat ∧ c.toNat ≤ 90
    · rw [if_pos hu, if_neg (by omega)]
    · rw [if_neg hu, if_neg hu]
  rw [lowerAscii, lowerAscii, List.map_map, hc]

theorem toLower_eq_dot : c.toLower = '.' ↔ c = '.' := by
  rw [← Char.toNat_inj, ← Char.toNat_inj, toNat_toLower]
  show _ = 46 ↔ _ = 46
  split <;> omega

theorem mem_lowerAscii (h : c ∈ t) (hc : 128 ≤ c.toNat) : c ∈ lowerAscii t := by
  have he : c.toLower = c := by rw [← Char.toNat_inj, toNat_toLower, if_neg (by omega)]
  rw [lowerAscii, List.mem_map]
  exact ⟨c, h, he⟩

/-! ### Small forms of one letter -/

/-- The form that a letter has in the small form of a text. -/
inductive IsSmallForm (c : Char) : Text → Prop
  | sigma (before : Bool) (rest : Text) : c = 'Σ' → IsSmallForm c [smallSigma before rest]
  | other : c ≠ 'Σ' → IsSmallForm c (lowerChar c)

theorem exists_smallForm (h : c ∈ t) : ∃ form, IsSmallForm c form ∧ form ⊆ lower t := by
  have hb : ∀ before, ∃ form, IsSmallForm c form ∧ form ⊆ lowerAfter before t := by
    induction t with
    | nil => cases h
    | cons d r ih =>
      intro before
      rw [lowerAfter]
      rcases List.mem_cons.mp h with rfl | hr
      · by_cases hs : c = 'Σ'
        · rw [if_pos hs]
          exact ⟨_, .sigma before r hs, List.subset_append_left _ _⟩
        · rw [if_neg hs]
          exact ⟨_, .other hs, List.subset_append_left _ _⟩
      · obtain ⟨form, hf, hsub⟩ := ih hr (afterLetter before d)
        exact ⟨form, hf, List.subset_append_of_subset_right _ hsub⟩
  exact hb false

/-- The forms of a run are characters, and all but one of them are outside ASCII. -/
theorem mem_smallRuns : ∀ r ∈ smallRuns,
    (128 ≤ r.first + r.shift ∧ r.last + r.shift < 0xD800) ∨
      (0xDFFF < r.first + r.shift ∧ r.last + r.shift < 0x110000) ∨
        (r.first + r.shift = 'k'.toNat ∧ r.last = r.first) := by
  decide +kernel

theorem mem_longSmallForms : ∀ entry ∈ longSmallForms,
    ∃ n ∈ entry.2, 128 ≤ (Char.ofNat n).toNat := by
  decide

theorem toNat_ofNat {n : Nat} (h : n.isValidChar) : (Char.ofNat n).toNat = n := by
  rw [Char.ofNat, dif_pos h]
  rfl

theorem exists_mem_formOutsideAscii (h : 128 ≤ c.toNat) :
    ∃ d ∈ formOutsideAscii smallRuns longSmallForms c, 128 ≤ d.toNat ∨ d = 'k' := by
  rw [formOutsideAscii]
  split
  · next form hl =>
    obtain ⟨before, after, he, -⟩ := List.lookup_eq_some_iff.mp hl
    obtain ⟨n, hm, hn⟩ := mem_longSmallForms (c.toNat, form) (by simp [he])
    exact ⟨Char.ofNat n, List.mem_map_of_mem hm, .inl hn⟩
  · split
    · next r hr =>
      have hlist := List.find?_some hr
      simp only [CaseRun.lists, Bool.and_eq_true, decide_eq_true_eq] at hlist
      refine ⟨_, List.mem_singleton_self _, ?_⟩
      rcases mem_smallRuns r (List.mem_of_find?_eq_some hr) with hlow | hhigh | hk
      · left
        rw [toNat_ofNat (.inl (by omega))]
        omega
      · left
        rw [toNat_ofNat (.inr (by omega))]
        omega
      · right
        have hn : (c.toNat + r.shift).toNat = 'k'.toNat := by omega
        rw [hn, Char.ofNat_toNat]
    · exact ⟨c, List.mem_singleton_self c, .inl h⟩

theorem IsSmallForm.exists_mem (hf : IsSmallForm c form) (h : 128 ≤ c.toNat) :
    ∃ d ∈ form, 128 ≤ d.toNat ∨ d = 'k' := by
  cases hf with
  | sigma before rest =>
    refine ⟨_, List.mem_singleton_self _, .inl ?_⟩
    rw [smallSigma]
    split <;> decide
  | other =>
    rw [lowerChar, if_neg (by omega)]
    exact exists_mem_formOutsideAscii h

/-- A letter outside ASCII leaves such a letter in the small form of a text, or a `k`. -/
theorem exists_mem_lower (h : c ∈ t) (hc : 128 ≤ c.toNat) :
    ∃ d ∈ lower t, 128 ≤ d.toNat ∨ d = 'k' := by
  obtain ⟨form, hf, hsub⟩ := exists_smallForm h
  obtain ⟨d, hd, hn⟩ := hf.exists_mem hc
  exact ⟨d, hsub hd, hn⟩

end BundleHost.Text
