import BundleHost.Http.Headers

/-! What changes to headers leave alone, and what they leave behind. All values of a name are
looked at, the first of which is the one that is read. Giving one header a value or dropping it
does not change the values of a name apart from its own; and a header that is given a value has
that value and no other. -/

namespace BundleHost.Headers

variable {h h' : Headers} {name other value : Text}

/-- The names are different ones, also where the first one is written in small letters. -/
def Apart (name other : Text) : Prop :=
  sameName name other = false ∧ sameName (Text.lower name) other = false

instance (name other : Text) : Decidable (Apart name other) :=
  inferInstanceAs (Decidable (_ ∧ _))

/-- In small letters the name is still the same. -/
def IsStable (name : Text) : Prop := sameName (Text.lower name) name = true

instance (name : Text) : Decidable (IsStable name) := inferInstanceAs (Decidable (_ = _))

theorem sameName_of_apart {n : Text} (ha : Apart name other) (hn : sameName n name = true) :
    sameName n other = false := by
  rw [sameName, beq_iff_eq] at hn
  rw [sameName, hn]
  exact ha.1

/-- A name in small letters is the same as the name is. -/
theorem IsStable.sameName_lower (hs : IsStable name) (other : Text) :
    sameName (Text.lower name) other = sameName name other := by
  rw [IsStable, sameName, beq_iff_eq] at hs
  rw [sameName, hs, sameName]

theorem contains_congr (hn : sameName name other = true) (h : Headers) :
    contains h name = contains h other := by
  rw [sameName, beq_iff_eq] at hn
  simp only [contains, sameName, hn]

theorem contains_append (h h' : Headers) (name : Text) :
    contains (h ++ h') name = (contains h name || contains h' name) := List.any_append

/-! ### Values -/

theorem values_cons (field : Text × Text) (h : Headers) (name : Text) :
    values (field :: h) name =
      if sameName field.1 name then field.2 :: values h name else values h name := by
  rw [values, List.filter_cons]
  split <;> rfl

theorem values_append (h h' : Headers) (name : Text) :
    values (h ++ h') name = values h name ++ values h' name := by
  rw [values, List.filter_append, List.map_append]
  rfl

theorem head?_values (h : Headers) (name : Text) : (h.values name).head? = h.get? name := by
  rw [values, List.head?_map, List.head?_filter, get?]

theorem get?_of_values_eq (he : h'.values name = h.values name) : h'.get? name = h.get? name := by
  rw [← head?_values, he, head?_values]

theorem values_eq_nil (hn : ∀ field ∈ h, sameName field.1 name = false) : h.values name = [] := by
  have hf : h.filter (fun field => sameName field.1 name) = [] := by
    rw [List.filter_eq_nil_iff]
    intro field hm
    rw [hn field hm]
    exact Bool.false_ne_true
  rw [values, hf]
  rfl

theorem values_of_not_contains (hc : contains h name = false) : h.values name = [] := by
  rw [contains_eq_isEmpty_values] at hc
  simpa using hc

/-! ### Other names -/

theorem values_erase (ha : Apart name other) (h : Headers) :
    (h.erase name).values other = h.values other := by
  induction h with
  | nil => rfl
  | cons field rest ih =>
    rw [erase] at ih ⊢
    rw [List.filter_cons, values_cons]
    cases hn : sameName field.1 name with
    | true =>
      rw [if_neg (by simp), ih, sameName_of_apart ha hn]
      rfl
    | false => rw [if_pos (by simp), values_cons, ih]

theorem values_set (ha : Apart name other) (value : Text) (h : Headers) :
    (h.set name value).values other = h.values other := by
  induction h with
  | nil =>
    show values [(Text.lower name, value)] other = []
    rw [values_cons, if_neg (by simp [ha.2])]
    rfl
  | cons field rest ih =>
    obtain ⟨n, v⟩ := field
    rw [set, values_cons]
    cases hn : sameName n name with
    | true =>
      rw [if_pos rfl, values_cons, values_erase ha, if_neg (by simp [ha.2]),
        if_neg (by simp [sameName_of_apart ha hn])]
    | false => rw [if_neg (by simp), values_cons, ih]

theorem values_setNew (ha : Apart name other) (value : Text) (h : Headers) :
    (h.setNew name value).values other = h.values other := by
  rw [setNew]
  split
  · rfl
  · rw [values_append, values_cons, if_neg (by simp [ha.2])]
    exact List.append_nil _

theorem values_addVary (ha : Apart "vary" other) (name : Text) (h : Headers) :
    (h.addVary name).values other = h.values other := by
  rw [addVary]
  split
  · exact values_set ha _ h
  · exact values_set ha _ h

/-! ### The name itself -/

theorem values_cons_self (hs : IsStable name) (value : Text) (h : Headers) :
    values ((Text.lower name, value) :: h) name = value :: values h name := by
  rw [values_cons]
  exact if_pos hs

theorem values_erase_self (name : Text) (h : Headers) : (h.erase name).values name = [] := by
  refine values_eq_nil fun field hm => ?_
  rw [erase, List.mem_filter] at hm
  simpa using hm.2

theorem values_set_self (hs : IsStable name) (value : Text) (h : Headers) :
    (h.set name value).values name = [value] := by
  induction h with
  | nil =>
    show values [(Text.lower name, value)] name = [value]
    rw [values_cons_self hs]
    rfl
  | cons field rest ih =>
    obtain ⟨n, v⟩ := field
    rw [set]
    cases hn : sameName n name with
    | true => rw [if_pos rfl, values_cons_self hs, values_erase_self]
    | false => rw [if_neg (by simp), values_cons, if_neg (by simp [hn]), ih]

end BundleHost.Headers
