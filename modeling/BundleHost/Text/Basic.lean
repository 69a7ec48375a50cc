/-! Text as a list of characters. Keys, paths, patterns and header values are all of this
type, so that the functions on them are recursions on the list. The functions below cut a text
at a separator, drop characters from its ends, and write whole numbers in decimal. -/

namespace BundleHost

abbrev Text := List Char

instance : Coe String Text := ⟨String.toList⟩

namespace Text

/-! ### Trimming -/

def trimEnd (p : Char → Bool) : Text → Text
  | [] => []
  | c :: r => if (trimEnd p r).isEmpty && p c then [] else c :: trimEnd p r

def trim (p : Char → Bool) (t : Text) : Text :=
  trimEnd p (t.dropWhile p)

theorem trimEnd_eq_nil {p : Char → Bool} {t : Text} :
    trimEnd p t = [] ↔ ∀ c ∈ t, p c = true := by
  induction t with
  | nil => simp [trimEnd]
  | cons c r ih =>
    simp only [trimEnd, List.mem_cons, forall_eq_or_imp, ← ih]
    by_cases hr : trimEnd p r = []
    · by_cases hc : p c = true <;> simp [hr, hc]
    · simp [hr]

/-! ### Cutting at a separator -/

/-- The pieces between the separators; there is always one more piece than separators. -/
def split (sep : Char) : Text → List Text
  | [] => [[]]
  | c :: r =>
    if c = sep then [] :: split sep r
    else match split sep r with
      | [] => [[c]]
      | piece :: pieces => (c :: piece) :: pieces

/-- The pieces with a separator between neighbours. -/
def join (sep : Text) : List Text → Text
  | [] => []
  | [piece] => piece
  | piece :: next :: pieces => piece ++ sep ++ join sep (next :: pieces)

theorem split_ne_nil (sep : Char) (t : Text) : split sep t ≠ [] := by
  cases t with
  | nil => simp [split]
  | cons c r =>
    simp only [split]
    split
    · simp
    · split <;> simp

/-- Splitting loses nothing but the separators. -/
theorem join_split (sep : Char) (t : Text) : join [sep] (split sep t) = t := by
  induction t with
  | nil => rfl
  | cons c r ih =>
    simp only [split]
    split
    · next h =>
      subst h
      cases hs : split c r with
      | nil => exact absurd hs (split_ne_nil _ _)
      | cons piece pieces => rw [hs] at ih; simp [join, ih]
    · next h =>
      cases hs : split sep r with
      | nil => exact absurd hs (split_ne_nil _ _)
      | cons piece pieces =>
        rw [hs] at ih
        cases pieces with
        | nil => simp_all [join]
        | cons next pieces => simp_all [join]

/-- What follows the last separator, if there is one. -/
def afterLast? (sep : Char) : Text → Option Text
  | [] => none
  | c :: r =>
    match afterLast? sep r with
    | some rest => some rest
    | none => if c = sep then some r else none

/-- A text without the separator has no last one, and only such a text. -/
theorem afterLast?_eq_none {sep : Char} {t : Text} : afterLast? sep t = none ↔ sep ∉ t := by
  induction t with
  | nil => simp [afterLast?]
  | cons c r ih =>
    simp only [afterLast?]
    cases h : afterLast? sep r with
    | some rest => simp_all
    | none =>
      simp only [h, true_iff] at ih
      by_cases hc : c = sep
      · simp [hc]
      · simp [hc, ih, Ne.symm hc]

/-- The text without a line break at its end. -/
def dropLastBreak (t : Text) : Text := if t.getLast? = some '\n' then t.dropLast else t

/-- Removes one given start, if it is there. -/
def dropStart (start t : Text) : Text :=
  if start.isPrefixOf t then t.drop start.length else t

def occursIn (part : Text) : Text → Bool
  | [] => part.isEmpty
  | c :: r => part.isPrefixOf (c :: r) || occursIn part r

/-! ### Order and numbers -/

/-- Dictionary order: the first difference decides, and a list comes before its continuations. -/
def dictionaryLe {α : Type} [BEq α] (lt : α → α → Bool) : List α → List α → Bool
  | [], _ => true
  | _ :: _, [] => false
  | a :: r, b :: s => lt a b || (a == b && dictionaryLe lt r s)

/-- By code points, a text before its continuations. -/
def le : Text → Text → Bool := dictionaryLe fun a b => a.toNat < b.toNat

def sort (ts : List Text) : List Text := ts.mergeSort le

def ofNat (n : Nat) : Text := Nat.toDigits 10 n

def ofInt : Int → Text
  | .ofNat n => ofNat n
  | .negSucc n => '-' :: ofNat (n + 1)

/-- The value of decimal digits, of which all characters must be. -/
def digitsValue (t : Text) : Nat :=
  t.foldl (fun n c => 10 * n + (c.toNat - '0'.toNat)) 0

def utf8 (t : Text) : ByteArray := (String.ofList t).toUTF8

end Text
end BundleHost
