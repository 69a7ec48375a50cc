import BundleHost.Text.Basic

/-! Shapes of stretches of a text, and how long a stretch of a shape may be. A stretch is as long
as it can be, and shorter only if what comes after it does not fit otherwise; so the lengths are
tried in an order. Instead of trying them at one place after another, `reach` goes through the
text once, from its end, and finds for all places the first length that fits. -/

namespace BundleHost

inductive Shape
  | count (p : Char → Bool) (n : Nat)
  | many (p : Char → Bool)
  | seq (one other : Shape)
  | opt (s : Shape)

namespace Shape

/-! ### Lengths in the order of trial -/

/-- The numbers from one number down to another one. -/
def downTo (least : Nat) : Nat → List Nat
  | 0 => if least = 0 then [0] else []
  | n + 1 => if n + 1 < least then [] else (n + 1) :: downTo least n

def run (p : Char → Bool) (t : Text) : Nat := (t.takeWhile p).length

/-- How much of the start of a text a stretch of the shape may take, in the order in which it is
tried. -/
def lengths : Shape → Text → List Nat
  | count p n, t => if n ≤ run p t then [n] else []
  | many p, t => downTo 1 (run p t)
  | seq one other, t =>
    (one.lengths t).flatMap fun n => (other.lengths (t.drop n)).map (n + ·)
  | opt s, t => s.lengths t ++ [0]

/-! ### The pass from the end -/

/-- For every place of a text, its end among them: a length that is taken there, if one fits. -/
abbrev Reach := List (Option Nat)

def first : Reach → Option Nat
  | [] => none
  | n :: _ => n

/-- Which of two is taken at each place, the first one if it fits. -/
def either : Reach → Reach → Reach
  | m :: ms, n :: ns => m.or n :: either ms ns
  | _, _ => []

/-- One character of a class, and what is taken after it. -/
def step (p : Char → Bool) : Text → Reach → Reach
  | c :: r, _ :: next => (if p c then (first next).map (· + 1) else none) :: step p r next
  | _, _ => [none]

def steps (p : Char → Bool) : Nat → Text → Reach → Reach
  | 0, _, next => next
  | n + 1, t, next => step p t (steps p n t next)

/-- As many characters of a class as fit, and what is taken after them. -/
def stretch (p : Char → Bool) : Text → Reach → Reach
  | c :: r, _ :: next =>
    let rest := stretch p r next
    (if p c then ((first rest).or (first next)).map (· + 1) else none) :: rest
  | _, _ => [none]

/-- What is taken by the shape and after it, from what is taken after it. -/
def reach : Shape → Text → Reach → Reach
  | count p n, t, next => steps p n t next
  | many p, t, next => stretch p t next
  | seq one other, t, next => one.reach t (other.reach t next)
  | opt s, t, next => either (s.reach t next) next

/-! ### The pass finds the first length that fits -/

theorem le_of_mem_downTo {least n m : Nat} (h : m ∈ downTo least n) : m ≤ n := by
  induction n with
  | zero =>
    simp only [downTo] at h
    split at h <;> simp_all
  | succ n ih =>
    simp only [downTo] at h
    split at h
    · simp at h
    · rcases List.mem_cons.mp h with h | h
      · omega
      · have := ih h
        omega

theorem run_le (p : Char → Bool) (t : Text) : run p t ≤ t.length := by
  induction t with
  | nil => simp [run]
  | cons c r ih =>
    simp only [run, List.takeWhile_cons] at ih ⊢
    split
    · simpa using ih
    · simp

theorem le_of_mem_lengths {s : Shape} {t : Text} {n : Nat} (h : n ∈ s.lengths t) :
    n ≤ t.length := by
  induction s generalizing t n with
  | count p k =>
    simp only [lengths] at h
    split at h
    · have := run_le p t
      simp at h
      omega
    · simp at h
  | many p => exact Nat.le_trans (le_of_mem_downTo h) (run_le p t)
  | seq one other ih ih' =>
    simp only [lengths, List.mem_flatMap, List.mem_map] at h
    obtain ⟨m, hm, k, hk, rfl⟩ := h
    have := ih hm
    have := ih' hk
    simp only [List.length_drop] at this
    omega
  | opt s ih =>
    simp only [lengths, List.mem_append, List.mem_singleton] at h
    rcases h with h | h
    · exact ih h
    · omega

theorem downTo_one_succ (n : Nat) : downTo 1 (n + 1) = (downTo 1 n).map (· + 1) ++ [1] := by
  have grow (k : Nat) : downTo 1 (k + 1) = (k + 1) :: downTo 1 k := by
    simp only [downTo]
    split
    · omega
    · rfl
  induction n with
  | zero => rfl
  | succ n ih =>
    have h : (downTo 1 (n + 1)).map (· + 1) = (n + 2) :: (downTo 1 n).map (· + 1) := by
      rw [grow n]
      rfl
    rw [grow (n + 1), h, List.cons_append, ← ih]

theorem reach_nil (s : Shape) (x : Option Nat) : ∃ y, s.reach [] [x] = [y] := by
  induction s generalizing x with
  | count p n => cases n <;> exact ⟨_, rfl⟩
  | many p => exact ⟨_, rfl⟩
  | seq one other ih ih' =>
    obtain ⟨y, hy⟩ := ih' x
    simp only [reach, hy]
    exact ih y
  | opt s ih =>
    obtain ⟨y, hy⟩ := ih x
    simp only [reach, hy, either]
    exact ⟨_, rfl⟩

/-- The pass through a longer text goes on with the pass through its rest. -/
theorem reach_cons (s : Shape) (c : Char) (r : Text) (x : Option Nat) (next : Reach) :
    ∃ y, s.reach (c :: r) (x :: next) = y :: s.reach r next := by
  induction s generalizing x next with
  | count p n =>
    simp only [reach]
    induction n with
    | zero => exact ⟨x, rfl⟩
    | succ n ih =>
      obtain ⟨y, hy⟩ := ih
      simp only [steps, hy, step]
      exact ⟨_, rfl⟩
  | many p => exact ⟨_, rfl⟩
  | seq one other ih ih' =>
    obtain ⟨y, hy⟩ := ih' x next
    simp only [reach, hy]
    exact ih y _
  | opt s ih =>
    obtain ⟨y, hy⟩ := ih x next
    simp only [reach, hy, either]
    exact ⟨_, rfl⟩

/-- There is an entry for each place. -/
theorem length_reach (s : Shape) {t : Text} {next : Reach} (h : next.length = t.length + 1) :
    (s.reach t next).length = t.length + 1 := by
  induction t generalizing next with
  | nil =>
    match next, h with
    | [x], _ =>
      obtain ⟨y, hy⟩ := reach_nil s x
      simp [hy]
  | cons c r ih =>
    match next, h with
    | x :: next, h =>
      obtain ⟨y, hy⟩ := reach_cons s c r x next
      simp [hy, ih (Nat.succ.inj h)]

/-- From a later place on, the pass has found what it finds in the rest of the text. -/
theorem drop_reach (s : Shape) {t : Text} {next : Reach} {n : Nat}
    (h : next.length = t.length + 1) (hn : n ≤ t.length) :
    (s.reach t next).drop n = s.reach (t.drop n) (next.drop n) := by
  induction n generalizing t next with
  | zero => rfl
  | succ n ih =>
    match t, next, h with
    | c :: r, x :: next, h =>
      obtain ⟨y, hy⟩ := reach_cons s c r x next
      simpa [hy] using ih (Nat.succ.inj h) (by simpa using hn)

theorem first_cons (n : Option Nat) (ns : Reach) : first (n :: ns) = n := rfl

theorem first_either {a b : Reach} (h : a ≠ []) (h' : b ≠ []) :
    first (either a b) = (first a).or (first b) := by
  match a, b with
  | [], _ => exact absurd rfl h
  | _, [] => exact absurd rfl h'
  | m :: ms, n :: ns => rfl

theorem findSome?_flatMap_eq {α β γ : Type} (l : List α) (f : α → List β) (g : β → Option γ) :
    (l.flatMap f).findSome? g = l.findSome? fun a => (f a).findSome? g := by
  induction l with
  | nil => rfl
  | cons a l ih =>
    simp only [List.flatMap_cons, List.findSome?_append, ih, List.findSome?_cons]
    cases (f a).findSome? g <;> rfl

theorem findSome?_congr_of_mem {α β : Type} {l : List α} {f g : α → Option β}
    (h : ∀ a ∈ l, f a = g a) : l.findSome? f = l.findSome? g := by
  induction l with
  | nil => rfl
  | cons a l ih =>
    simp only [List.mem_cons, forall_eq_or_imp] at h
    simp only [List.findSome?_cons, h.1, ih h.2]

theorem map_findSome? {α β γ : Type} (l : List α) (f : α → Option β) (g : β → γ) :
    (l.findSome? f).map g = l.findSome? fun a => (f a).map g := by
  induction l with
  | nil => rfl
  | cons a l ih =>
    simp only [List.findSome?_cons]
    cases f a <;> simp [ih]

theorem run_cons (p : Char → Bool) (c : Char) (r : Text) :
    run p (c :: r) = if p c then run p r + 1 else 0 := by
  simp only [run, List.takeWhile_cons]
  split <;> rfl

theorem first_steps (p : Char → Bool) (n : Nat) {t : Text} {next : Reach}
    (h : next.length = t.length + 1) :
    first (steps p n t next) =
      if n ≤ run p t then (first (next.drop n)).map (n + ·) else none := by
  induction n generalizing t next with
  | zero => simp [steps]
  | succ n ih =>
    match t, next, h with
    | [], [x], _ =>
      simp [steps, step, first, run]
    | c :: r, x :: next, h =>
      obtain ⟨y, hy⟩ := reach_cons (.count p n) c r x next
      simp only [reach] at hy
      simp only [steps, hy, step, first_cons, ih (Nat.succ.inj h), run_cons, List.drop_succ_cons]
      by_cases hp : p c = true
      · simp only [hp, if_true, Nat.add_le_add_iff_right]
        split
        · rw [Option.map_map]
          congr 1
          funext k
          simp only [Function.comp]
          omega
        · rfl
      · simp [hp]

theorem first_stretch (p : Char → Bool) {t : Text} {next : Reach}
    (h : next.length = t.length + 1) :
    first (stretch p t next) =
      (downTo 1 (run p t)).findSome? fun n => (first (next.drop n)).map (n + ·) := by
  induction t generalizing next with
  | nil =>
    match next, h with
    | [x], _ => rfl
  | cons c r ih =>
    match next, h with
    | x :: next, h =>
      simp only [stretch, first_cons, ih (Nat.succ.inj h), run_cons]
      by_cases hp : p c = true
      · simp only [hp, if_true, downTo_one_succ, List.findSome?_append, List.findSome?_map,
          Option.map_or, map_findSome?]
        congr 1
        · refine findSome?_congr_of_mem fun n _ => ?_
          simp only [Function.comp, List.drop_succ_cons, Option.map_map]
          congr 1
          funext k
          simp only [Function.comp]
          omega
        · simp [Nat.add_comm]
      · simp [hp, downTo]

/-- What the pass finds at the first place is the first length after which something is taken, and
what is taken there in addition. -/
theorem first_reach (s : Shape) {t : Text} {next : Reach} (h : next.length = t.length + 1) :
    first (s.reach t next) =
      (s.lengths t).findSome? fun n => (first (next.drop n)).map (n + ·) := by
  induction s generalizing t next with
  | count p n =>
    simp only [reach, lengths, first_steps p n h]
    split <;> simp
  | many p => exact first_stretch p h
  | seq one other ih ih' =>
    simp only [reach, lengths, findSome?_flatMap_eq, List.findSome?_map]
    rw [ih (length_reach other h)]
    refine findSome?_congr_of_mem fun n hn => ?_
    have hn := le_of_mem_lengths hn
    rw [drop_reach other h hn, ih' (by simp only [List.length_drop]; omega), map_findSome?]
    refine findSome?_congr_of_mem fun m _ => ?_
    simp only [Function.comp, List.drop_drop, Option.map_map]
    congr 1
    funext k
    exact (Nat.add_assoc n m k).symm
  | opt s ih =>
    have hs : s.reach t next ≠ [] := fun e => by simpa [e] using length_reach s h
    have hn : next ≠ [] := fun e => by simp [e] at h
    simp only [reach, lengths, first_either hs hn, ih h, List.findSome?_append]
    simp

end Shape
end BundleHost
