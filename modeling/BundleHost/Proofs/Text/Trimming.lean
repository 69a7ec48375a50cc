import BundleHost.Text.Basic
import Mathlib.Data.List.DropRight

/-! Texts without characters of a class at their ends. Trimming gives such a text, leaves such a
text as it is, and gives the text back from what it becomes when characters of the class are put
around it. -/

namespace BundleHost.Text

variable {p : Char → Bool} {s t : Text}

theorem trimEnd_concat (p : Char → Bool) (t : Text) (c : Char) :
    trimEnd p (t ++ [c]) = if p c then trimEnd p t else t ++ [c] := by
  induction t with
  | nil => by_cases hc : p c <;> simp [trimEnd, hc]
  | cons d r ih =>
    rw [List.cons_append, trimEnd, ih]
    by_cases hc : p c
    · rw [if_pos hc, if_pos hc, trimEnd]
    · rw [if_neg hc, if_neg hc]
      simp

theorem trimEnd_eq_rdropWhile (p : Char → Bool) (t : Text) : trimEnd p t = t.rdropWhile p := by
  induction t using List.reverseRecOn with
  | nil => rfl
  | append_singleton r c ih => rw [trimEnd_concat, List.rdropWhile_concat, ih]

/-- What stands before a text that is not dropped as a whole is left alone. -/
theorem trimEnd_append_of_ne_nil (h : trimEnd p s ≠ []) (t : Text) :
    trimEnd p (t ++ s) = t ++ trimEnd p s := by
  induction t with
  | nil => rfl
  | cons c r ih =>
    have hne : (r ++ trimEnd p s).isEmpty = false := by simp [h]
    rw [List.cons_append, trimEnd, ih, hne]
    rfl

/-- What stands between two characters that are not of the class is left alone. -/
theorem trim_between {a m b : Text} {c d : Char} (hc : p c = false) (hd : p d = false) :
    trim p (a ++ c :: m ++ d :: b) = a.dropWhile p ++ c :: m ++ d :: trimEnd p b := by
  have hstart : (a ++ c :: m ++ d :: b).dropWhile p = a.dropWhile p ++ c :: m ++ d :: b := by
    rw [List.append_assoc, List.dropWhile_append]
    by_cases ha : a.dropWhile p = []
    · simp [ha, hc]
    · simp [ha]
  have hend : trimEnd p (d :: b) = d :: trimEnd p b := by simp [trimEnd, hd]
  rw [trim, hstart, trimEnd_append_of_ne_nil (by simp [hend]), hend]

/-- Only characters of the class are dropped. -/
theorem exists_trim (p : Char → Bool) (t : Text) :
    ∃ s s', t = s ++ trim p t ++ s' ∧ (∀ c ∈ s, p c = true) ∧ ∀ c ∈ s', p c = true := by
  refine ⟨t.takeWhile p, (t.dropWhile p).rtakeWhile p, ?_, fun c => List.mem_takeWhile_imp,
    fun c => List.mem_rtakeWhile_imp⟩
  rw [trim, trimEnd_eq_rdropWhile, List.append_assoc, List.rdropWhile_append_rtakeWhile,
    List.takeWhile_append_dropWhile]

theorem trim_eq_nil : trim p t = [] ↔ ∀ c ∈ t, p c = true := by
  rw [trim, trimEnd_eq_nil]
  constructor
  · intro h
    have hd : t.dropWhile p = [] := by
      rw [← List.dropWhile_idempotent p t]
      exact List.dropWhile_eq_nil_iff.mpr h
    exact List.dropWhile_eq_nil_iff.mp hd
  · intro h c hc
    exact h c ((List.dropWhile_suffix p).subset hc)

/-! ### Trimmed texts -/

/-- Neither the first nor the last character is of the class. -/
structure IsTrimmed (p : Char → Bool) (t : Text) : Prop where
  first : ∀ c, t.head? = some c → p c = false
  last : ∀ c, t.getLast? = some c → p c = false

theorem IsTrimmed.reverse (h : IsTrimmed p t) : IsTrimmed p t.reverse where
  first c hc := h.last c (by rwa [List.head?_reverse] at hc)
  last c hc := h.first c (by rwa [List.getLast?_reverse] at hc)

theorem not_of_head?_dropWhile {c : Char} (h : (t.dropWhile p).head? = some c) : p c = false := by
  have hn := List.head?_dropWhile_not p t
  rw [h] at hn
  exact hn

theorem not_of_getLast?_trimEnd {c : Char} (h : (trimEnd p t).getLast? = some c) :
    p c = false := by
  rw [trimEnd_eq_rdropWhile] at h
  have hne : t.rdropWhile p ≠ [] := fun e => by simp [e] at h
  have hl := List.rdropWhile_last_not p t hne
  rw [List.getLast?_eq_some_getLast hne] at h
  simpa [Option.some.inj h] using hl

theorem isTrimmed_trim (p : Char → Bool) (t : Text) : IsTrimmed p (trim p t) where
  first c h := by
    rw [trim, trimEnd_eq_rdropWhile] at h
    obtain ⟨rest, hr⟩ := List.rdropWhile_prefix p (t.dropWhile p)
    refine not_of_head?_dropWhile (t := t) ?_
    rw [← hr, List.head?_append, h]
    rfl
  last _ h := not_of_getLast?_trimEnd h

theorem IsTrimmed.dropWhile_append (h : IsTrimmed p t) (hne : t ≠ []) (s : Text) :
    (t ++ s).dropWhile p = t ++ s := by
  obtain ⟨c, r, rfl⟩ := List.exists_cons_of_ne_nil hne
  rw [List.cons_append, List.dropWhile_cons_of_neg (by simpa using h.first c rfl)]

theorem IsTrimmed.trimEnd_append (h : IsTrimmed p t) (hs : ∀ c ∈ s, p c = true) :
    trimEnd p (t ++ s) = t := by
  induction s using List.reverseRecOn with
  | nil =>
    rw [List.append_nil, trimEnd_eq_rdropWhile, List.rdropWhile_eq_self_iff]
    intro hl
    simpa using h.last _ (List.getLast?_eq_some_getLast hl)
  | append_singleton r c ih =>
    rw [← List.append_assoc, trimEnd_concat, if_pos (hs c (by simp))]
    exact ih fun d hd => hs d (by simp [hd])

/-- Characters of the class around a trimmed text are dropped, and nothing else. -/
theorem IsTrimmed.trim_append {s' : Text} (h : IsTrimmed p t) (hs : ∀ c ∈ s, p c = true)
    (hs' : ∀ c ∈ s', p c = true) : trim p (s ++ t ++ s') = t := by
  rw [trim, List.append_assoc, List.dropWhile_append_of_pos hs]
  cases t with
  | nil =>
    rw [List.nil_append, trimEnd_eq_nil]
    intro c hc
    exact hs' c ((List.dropWhile_suffix p).subset hc)
  | cons c r =>
    rw [h.dropWhile_append (by simp)]
    exact h.trimEnd_append hs'

/-- Trimming leaves trimmed texts, and no others, as they are. -/
theorem isTrimmed_iff : IsTrimmed p t ↔ trim p t = t := by
  constructor
  · intro h
    have hself : trim p ([] ++ t ++ []) = t := h.trim_append nofun nofun
    rwa [List.nil_append, List.append_nil] at hself
  · intro h
    rw [← h]
    exact isTrimmed_trim p t

/-- Characters of the class at the ends do not matter to what is left. -/
theorem trim_append (s' : Text) (hs : ∀ c ∈ s, p c = true) (hs' : ∀ c ∈ s', p c = true) :
    trim p (s ++ t ++ s') = trim p t := by
  obtain ⟨a, b, ht, ha, hb⟩ := exists_trim p t
  have hrest : s ++ t ++ s' = s ++ a ++ trim p t ++ (b ++ s') := by
    rw [List.append_assoc, List.append_assoc, List.append_assoc, ← List.append_assoc a,
      ← List.append_assoc (a ++ trim p t), ← ht]
  rw [hrest]
  refine (isTrimmed_trim p t).trim_append ?_ ?_
  · simpa [or_imp, forall_and] using ⟨hs, ha⟩
  · simpa [or_imp, forall_and] using ⟨hb, hs'⟩

end BundleHost.Text
