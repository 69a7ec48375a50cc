import BundleHost.Http.PathTemplate

/-! Templates that are a text without braces and then something else. Such a template takes a path
that starts with the text if and only if the rest of it takes the rest of the path, it is read by
reading that rest, and no name stands between braces in the text itself. -/

namespace BundleHost.PathTemplate

/-! ### Matching -/

/-- Text before the parameters is passed over. -/
theorem captures?_literal_append (t : Text) (parts : PathTemplate) (rest : Text) :
    captures? (literal t ++ parts) (t ++ rest) = captures? parts rest := by
  induction t with
  | nil => rfl
  | cons c r ih =>
    show captures? (.char c :: (literal r ++ parts)) (c :: (r ++ rest)) = _
    rw [captures?, lengths_char, if_pos rfl, List.findSome?_singleton]
    show (captures? (literal r ++ parts) (r ++ rest)).map _ = _
    rw [ih]
    cases captures? parts rest <;> rfl

theorem run_isNotBreak {t : Text} (h : '\n' ∉ t) :
    Shape.run ParameterKind.isNotBreak t = t.length := by
  induction t with
  | nil => rfl
  | cons c r ih =>
    have hc : ParameterKind.isNotBreak c = true := by
      rw [ParameterKind.isNotBreak, bne_iff_ne]
      rintro rfl
      exact h (by simp)
    rw [Shape.run_cons, if_pos hc, ih fun m => h (by simp [m]), List.length_cons]

theorem downTo_one_of_pos {n : Nat} (h : 0 < n) : ∃ more, Shape.downTo 1 n = n :: more := by
  cases n with
  | zero => omega
  | succ n => exact ⟨Shape.downTo 1 n, by rw [Shape.downTo, if_neg (by omega)]⟩

/-- The longest stretch without a line break is tried first. -/
theorem lengths_path (name : Text) {t : Text} (h : '\n' ∉ t) :
    ∃ more, (TemplatePart.parameter name .path).shape.lengths t = t.length :: more := by
  show ∃ more, Shape.downTo 1 (Shape.run ParameterKind.isNotBreak t) ++ [0] = _
  rw [run_isNotBreak h]
  cases t with
  | nil => exact ⟨[], rfl⟩
  | cons c r =>
    obtain ⟨more, hm⟩ := downTo_one_of_pos (n := (c :: r).length) (by simp)
    exact ⟨more ++ [0], by rw [hm, List.cons_append]⟩

/-- A path without line breaks is taken as a whole. -/
theorem captures?_path (name : Text) {t : Text} (h : '\n' ∉ t) :
    captures? [.parameter name .path] t = some [⟨name, .path, t⟩] := by
  obtain ⟨more, hl⟩ := lengths_path name h
  have he : captures? [] (t.drop t.length) = some [] := by rw [List.drop_length]; rfl
  rw [captures?, hl, List.findSome?_cons, he, List.take_length]
  rfl

/-! ### Reading -/

/-- Text without braces stands for itself. -/
theorem readAfter_append {t : Text} (h : '\x7b' ∉ t) (rest : Text) :
    readAfter 0 (t ++ rest) = (readAfter 0 rest).map (literal t ++ ·) := by
  induction t with
  | nil =>
    rw [List.nil_append]
    cases readAfter 0 rest <;> rfl
  | cons c r ih =>
    have hc : c ≠ '\x7b' := fun e => h (by simp [e])
    have hr : '\x7b' ∉ r := fun m => h (by simp [m])
    rw [List.cons_append, readAfter, readParameter?_of_ne hc]
    show (readAfter 0 (r ++ rest)).map _ = _
    rw [ih hr]
    cases readAfter 0 rest <;> rfl

theorem names_literal_append (t : Text) (parts : PathTemplate) :
    names (literal t ++ parts) = names parts := by
  induction t with
  | nil => rfl
  | cons c r ih => exact ih

theorem shown_literal_append (t : Text) (parts : PathTemplate) :
    shown (literal t ++ parts) = t ++ shown parts := by
  induction t with
  | nil => rfl
  | cons c r ih => exact congrArg (c :: ·) ih

theorem bracedAfter_append {t : Text} (h : '\x7b' ∉ t) (rest : Text) :
    bracedAfter 0 (t ++ rest) = bracedAfter 0 rest := by
  induction t with
  | nil => rfl
  | cons c r ih =>
    have hc : c ≠ '\x7b' := fun e => h (by simp [e])
    have hr : '\x7b' ∉ r := fun m => h (by simp [m])
    rw [List.cons_append, bracedAfter, if_neg (by simp [hc])]
    exact ih hr

theorem isNamed_literal_append {t : Text} (h : '\x7b' ∉ t) (parts : PathTemplate) (name : Text) :
    isNamed (literal t ++ parts) name = isNamed parts name := by
  rw [isNamed, isNamed, shown_literal_append, bracedAfter_append h]

end BundleHost.PathTemplate
