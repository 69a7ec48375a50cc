import BundleHost.Text.Basic
import Mathlib.Data.List.Lex

/-! The order of a dictionary, over any strict order of the letters. It compares texts by their code
points, and paths by their names. Any two lists are in order one way or the other, and only equal
ones in both ways, so that sorting forgets the order in which the lists were given. Where no list
comes twice, each one is strictly before the next ones. -/

namespace BundleHost.Text

/-! ### Lists over an ordered alphabet -/

/-- A strict order in which any two different letters stand one way or the other. -/
structure IsStrictOrder {α : Type} (lt : α → α → Bool) : Prop where
  irrefl : ∀ a, lt a a = false
  trans : ∀ {a b c}, lt a b = true → lt b c = true → lt a c = true
  connected : ∀ a b, lt a b = true ∨ a = b ∨ lt b a = true

section dictionary

variable {α : Type} [BEq α] [LawfulBEq α] {lt : α → α → Bool} {s t u : List α}
  {ts us : List (List α)}

theorem dictionaryLe_cons_cons {a b : α} :
    dictionaryLe lt (a :: s) (b :: t) = true ↔
      lt a b = true ∨ a = b ∧ dictionaryLe lt s t = true := by
  simp [dictionaryLe]

omit [LawfulBEq α] in
theorem not_dictionaryLe_nil {a : α} : ¬ dictionaryLe lt (a :: s) [] = true := by
  simp [dictionaryLe]

/-- Different lists that are in order are in the strict order. -/
theorem lex_of_dictionaryLe (h : dictionaryLe lt s t = true) (hne : s ≠ t) :
    List.Lex (fun a b => lt a b = true) s t := by
  induction s generalizing t with
  | nil =>
    cases t with
    | nil => exact absurd rfl hne
    | cons b r' => exact .nil
  | cons a r ih =>
    cases t with
    | nil => exact absurd h not_dictionaryLe_nil
    | cons b r' =>
      rcases dictionaryLe_cons_cons.mp h with hlt | ⟨rfl, hr⟩
      · exact .rel hlt
      · exact .cons (ih hr fun e => hne (congrArg _ e))

namespace IsStrictOrder

variable (ho : IsStrictOrder lt)

include ho

theorem dictionaryLe_trans (h : dictionaryLe lt s t = true) (h' : dictionaryLe lt t u = true) :
    dictionaryLe lt s u = true := by
  induction s generalizing t u with
  | nil => rfl
  | cons a r ih =>
    cases t with
    | nil => exact absurd h not_dictionaryLe_nil
    | cons b r' =>
      cases u with
      | nil => exact absurd h' not_dictionaryLe_nil
      | cons c r'' =>
        rw [dictionaryLe_cons_cons] at h h' ⊢
        rcases h with hlt | ⟨rfl, h⟩
        · rcases h' with hlt' | ⟨rfl, -⟩
          · exact .inl (ho.trans hlt hlt')
          · exact .inl hlt
        · exact h'.imp_right fun h' => ⟨h'.1, ih h h'.2⟩

theorem dictionaryLe_total (s t : List α) :
    dictionaryLe lt s t = true ∨ dictionaryLe lt t s = true := by
  induction s generalizing t with
  | nil => exact .inl rfl
  | cons a r ih =>
    cases t with
    | nil => exact .inr rfl
    | cons b r' =>
      rw [dictionaryLe_cons_cons, dictionaryLe_cons_cons]
      rcases ho.connected a b with hlt | rfl | hlt
      · exact .inl (.inl hlt)
      · exact (ih r').imp (fun h => .inr ⟨rfl, h⟩) fun h => .inr ⟨rfl, h⟩
      · exact .inr (.inl hlt)

theorem dictionaryLe_antisymm (h : dictionaryLe lt s t = true) (h' : dictionaryLe lt t s = true) :
    s = t := by
  induction s generalizing t with
  | nil =>
    cases t with
    | nil => rfl
    | cons b r' => exact absurd h' not_dictionaryLe_nil
  | cons a r ih =>
    cases t with
    | nil => exact absurd h not_dictionaryLe_nil
    | cons b r' =>
      -- letters in order both ways would make the first of them stand before itself
      have hcycle : ¬ (lt a b = true ∧ lt b a = true) := by
        rintro ⟨hab, hba⟩
        have hself := ho.trans hab hba
        rw [ho.irrefl a] at hself
        cases hself
      rw [dictionaryLe_cons_cons] at h h'
      rcases h with hlt | ⟨rfl, h⟩
      · rcases h' with hlt' | ⟨rfl, -⟩
        · exact absurd ⟨hlt, hlt'⟩ hcycle
        · exact absurd ⟨hlt, hlt⟩ hcycle
      · rcases h' with hlt' | ⟨-, h'⟩
        · exact absurd ⟨hlt', hlt'⟩ hcycle
        · rw [ih h h']

/-! ### Sorting -/

theorem pairwise_mergeSort (ts : List (List α)) :
    (ts.mergeSort (dictionaryLe lt)).Pairwise fun s t => dictionaryLe lt s t = true := by
  have htrans : ∀ s t u : List α, dictionaryLe lt s t = true → dictionaryLe lt t u = true →
      dictionaryLe lt s u = true :=
    fun _ _ _ => ho.dictionaryLe_trans
  have htotal : ∀ s t : List α, (dictionaryLe lt s t || dictionaryLe lt t s) = true := by
    intro s t
    rw [Bool.or_eq_true]
    exact ho.dictionaryLe_total s t
  exact List.pairwise_mergeSort htrans htotal ts

/-- The order in which the lists were given makes no difference. -/
theorem mergeSort_eq_of_perm (h : ts.Perm us) :
    ts.mergeSort (dictionaryLe lt) = us.mergeSort (dictionaryLe lt) := by
  have hperm : (ts.mergeSort (dictionaryLe lt)).Perm (us.mergeSort (dictionaryLe lt)) :=
    (List.mergeSort_perm ts _).trans (h.trans (List.mergeSort_perm us _).symm)
  exact hperm.eq_of_pairwise (fun _ _ _ _ => ho.dictionaryLe_antisymm)
    (ho.pairwise_mergeSort ts) (ho.pairwise_mergeSort us)

/-- Different lists are in strictly increasing order once they are sorted. -/
theorem mergeSort_strict (h : ts.Nodup) :
    (ts.mergeSort (dictionaryLe lt)).Pairwise (List.Lex fun a b => lt a b = true) := by
  have hn : (ts.mergeSort (dictionaryLe lt)).Nodup :=
    (List.mergeSort_perm ts _).nodup_iff.mpr h
  exact ((ho.pairwise_mergeSort ts).and hn).imp fun h => lex_of_dictionaryLe h.1 h.2

end IsStrictOrder

end dictionary

/-! ### Texts -/

variable {ts : List Text}

/-- The strict order of a dictionary, by code points. -/
def Precedes (s t : Text) : Prop := List.Lex (fun a b : Char => a.toNat < b.toNat) s t

theorem isStrictOrder_toNat : IsStrictOrder fun a b : Char => decide (a.toNat < b.toNat) where
  irrefl a := by simp
  trans h h' := by
    rw [decide_eq_true_eq] at h h' ⊢
    omega
  connected a b := by
    rcases Nat.lt_trichotomy a.toNat b.toNat with h | h | h
    · exact .inl (decide_eq_true h)
    · exact .inr (.inl (Char.toNat_inj.mp h))
    · exact .inr (.inr (decide_eq_true h))

theorem precedes_of_lex {s t : Text}
    (h : List.Lex (fun a b : Char => decide (a.toNat < b.toNat) = true) s t) : Precedes s t :=
  h.imp (fun _ _ => of_decide_eq_true) s t

theorem sort_perm (ts : List Text) : (sort ts).Perm ts := List.mergeSort_perm ts le

/-- Different texts are in strictly increasing order once they are sorted. -/
theorem sort_strict (h : ts.Nodup) : (sort ts).Pairwise Precedes :=
  (isStrictOrder_toNat.mergeSort_strict h).imp precedes_of_lex

end BundleHost.Text
