import BundleHost.Glob.Pattern

/-! Matching of whole texts against patterns. The relation says what a match is; the function
computes, from the last token of the pattern to the first, for which ends of the text the
remaining tokens match, so that its work is the product of the two lengths. -/

namespace BundleHost.Glob

def Token.accepts : Token → Char → Bool
  | .run, _ => false
  | .any, _ => true
  | .char c, d => c == d
  | .set s, d => s.contains d

inductive Matches : Pattern → Text → Prop
  | nil : Matches [] []
  | one {t : Token} {ts : Pattern} {c : Char} {s : Text} :
      t.accepts c = true → Matches ts s → Matches (t :: ts) (c :: s)
  | stop {ts : Pattern} {s : Text} : Matches ts s → Matches (.run :: ts) s
  | more {ts : Pattern} {c : Char} {s : Text} :
      Matches (.run :: ts) s → Matches (.run :: ts) (c :: s)

/-! ### Rows -/

/-- For each entry, whether it or a later one holds. -/
def eventually : List Bool → List Bool
  | [] => []
  | b :: r =>
    let later := eventually r
    (b || later.head?.getD false) :: later

/-- For each end of the text but the empty one, whether a token accepts its first character and
the entry for the end behind it holds. -/
def step (t : Token) : Text → List Bool → List Bool
  | c :: s, _ :: b :: r => (t.accepts c && b) :: step t s (b :: r)
  | _, _ => [false]

/-- For each end of the text, from the whole text to the empty one, whether the tokens match. -/
def row : Pattern → Text → List Bool
  | [], s => s.map (fun _ => false) ++ [true]
  | .run :: ts, s => eventually (row ts s)
  | t :: ts, s => step t s (row ts s)

def Pattern.matches (p : Pattern) (s : Text) : Bool := (row p s).head?.getD false

/-! ### The rows decide the relation -/

theorem matches_nil_iff {s : Text} : Matches [] s ↔ s = [] := by
  constructor
  · intro h; cases h; rfl
  · rintro rfl; exact .nil

theorem matches_cons_iff {t : Token} {ts : Pattern} {c : Char} {s : Text} (ht : t ≠ .run) :
    Matches (t :: ts) (c :: s) ↔ t.accepts c = true ∧ Matches ts s := by
  constructor
  · intro h
    cases h with
    | one h₁ h₂ => exact ⟨h₁, h₂⟩
    | stop => exact absurd rfl ht
    | more => exact absurd rfl ht
  · exact fun h => .one h.1 h.2

theorem not_matches_cons_nil {t : Token} {ts : Pattern} (ht : t ≠ .run) :
    ¬ Matches (t :: ts) [] := by
  intro h
  cases h
  exact ht rfl

theorem matches_run_iff {ts : Pattern} {s : Text} :
    Matches (.run :: ts) s ↔ ∃ a b, s = a ++ b ∧ Matches ts b := by
  constructor
  · intro h
    generalize hp : Token.run :: ts = p at h
    induction h with
    | nil => cases hp
    | one h₁ => cases hp; simp [Token.accepts] at h₁
    | stop h => cases hp; exact ⟨[], _, rfl, h⟩
    | more _ ih =>
      obtain ⟨a, b, rfl, hb⟩ := ih hp
      exact ⟨_ :: a, b, rfl, hb⟩
  · rintro ⟨a, b, rfl, hb⟩
    induction a with
    | nil => exact .stop hb
    | cons c a ih => exact .more ih

theorem matches_run_nil_iff {ts : Pattern} : Matches (.run :: ts) [] ↔ Matches ts [] := by
  constructor
  · intro h
    cases h with
    | stop h => exact h
  · exact .stop

theorem matches_run_cons_iff {ts : Pattern} {c : Char} {s : Text} :
    Matches (.run :: ts) (c :: s) ↔ Matches ts (c :: s) ∨ Matches (.run :: ts) s := by
  constructor
  · intro h
    cases h with
    | one h => simp [Token.accepts] at h
    | stop h => exact .inl h
    | more h => exact .inr h
  · rintro (h | h)
    · exact .stop h
    · exact .more h

/-- The entries of a row belong to the ends of the text, the whole text first. -/
inductive RowOf (p : Pattern) : Text → List Bool → Prop
  | nil {b : Bool} : (b = true ↔ Matches p []) → RowOf p [] [b]
  | cons {c : Char} {s : Text} {b : Bool} {r : List Bool} :
      (b = true ↔ Matches p (c :: s)) → RowOf p s r → RowOf p (c :: s) (b :: r)

theorem RowOf.head_iff {p : Pattern} {s : Text} {r : List Bool} (h : RowOf p s r) :
    r.head?.getD false = true ↔ Matches p s := by
  cases h with
  | nil h => simpa using h
  | cons h _ => simpa using h

theorem rowOf_eventually {ts : Pattern} {s : Text} {r : List Bool} (h : RowOf ts s r) :
    RowOf (.run :: ts) s (eventually r) := by
  induction h with
  | nil h =>
    refine .nil ?_
    rw [matches_run_nil_iff]
    simpa [eventually] using h
  | @cons c s b r h _ ih =>
    refine .cons ?_ ih
    rw [matches_run_cons_iff, Bool.or_eq_true, h, ih.head_iff]

theorem rowOf_step {t : Token} {ts : Pattern} {s : Text} {r : List Bool} (ht : t ≠ .run)
    (h : RowOf ts s r) : RowOf (t :: ts) s (step t s r) := by
  induction h with
  | nil h =>
    refine .nil ?_
    simp [not_matches_cons_nil ht]
  | @cons c s b r _ hr ih =>
    cases hr with
    | nil h =>
      refine .cons ?_ ih
      rw [matches_cons_iff ht, Bool.and_eq_true, h]
    | cons h hr =>
      refine .cons ?_ ih
      rw [matches_cons_iff ht, Bool.and_eq_true, h]

theorem rowOf_row (p : Pattern) (s : Text) : RowOf p s (row p s) := by
  induction p with
  | nil =>
    induction s with
    | nil => exact .nil (by simp [matches_nil_iff])
    | cons c s ih => exact .cons (by simp [matches_nil_iff]) ih
  | cons t ts ih =>
    cases t with
    | run => exact rowOf_eventually ih
    | any => exact rowOf_step (by simp) ih
    | char c => exact rowOf_step (by simp) ih
    | set a => exact rowOf_step (by simp) ih

theorem matches_iff {p : Pattern} {s : Text} : p.matches s = true ↔ Matches p s :=
  (rowOf_row p s).head_iff

end BundleHost.Glob
