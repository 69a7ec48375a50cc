import BundleHost.Text.Basic

/-! File name patterns. A star stands for any run of characters, a question mark for any one
character, and brackets for one character of a set; a slash, a line break and a leading dot are
characters like any other. A set lists characters and ranges and may start with an exclamation
mark, which makes it the set of all others. A bracket that is never closed stands for itself. -/

namespace BundleHost.Glob

structure CharRange where
  first : Char
  last : Char
deriving DecidableEq, Repr

namespace CharRange

def single (c : Char) : CharRange := ⟨c, c⟩

def contains (r : CharRange) (c : Char) : Bool := r.first ≤ c && c ≤ r.last

end CharRange

structure CharSet where
  negated : Bool
  ranges : List CharRange
deriving DecidableEq, Repr

namespace CharSet

def contains (s : CharSet) (c : Char) : Bool := (s.ranges.any fun r => r.contains c) != s.negated

/-! ### Reading a set

The text between the brackets is cut into chunks at the hyphens that make a range. The last
character of a chunk and the first one of the next are the ends of that range; all other
characters of a chunk stand for themselves, hyphens among them. -/

/-- Cuts at the hyphens that are not among the first `guarded` characters. After a cut the next
two characters are guarded, since the first of them ends a range. -/
def chunks (guarded : Nat) : Text → List Text
  | [] => [[]]
  | c :: r =>
    if guarded = 0 ∧ c = '-' then [] :: chunks 2 r
    else match chunks (guarded - 1) r with
      | [] => [[c]]
      | chunk :: rest => (c :: chunk) :: rest

/-- A hyphen at the very end stands for itself. -/
def keepLastHyphen : List Text → List Text
  | [] => []
  | [chunk] => [chunk]
  | [chunk, []] => [chunk ++ ['-']]
  | chunk :: rest => chunk :: keepLastHyphen rest

/-- Joins the chunks around a range whose ends are in the wrong order, without these ends. -/
def dropEmptyRanges : List Text → List Text
  | [] => []
  | chunk :: rest =>
    match dropEmptyRanges rest with
    | [] => [chunk]
    | next :: more =>
      match chunk.getLast?, next.head? with
      | some a, some b =>
        if b < a then (chunk.dropLast ++ next.drop 1) :: more else chunk :: next :: more
      | _, _ => chunk :: next :: more

/-- The ranges that start in a chunk or between it and the chunks after it. A chunk without
characters has no end for a range; the hyphen after it stands for itself. -/
def rangesOf (chunk : Text) : List Text → List CharRange
  | [] => chunk.map CharRange.single
  | next :: rest =>
    match chunk.getLast?, next with
    | some a, b :: next' => chunk.dropLast.map CharRange.single ++ ⟨a, b⟩ :: rangesOf next' rest
    | _, _ => chunk.map CharRange.single ++ CharRange.single '-' :: rangesOf next rest

def ofChunks : List Text → CharSet
  | [] => ⟨false, []⟩
  | ('!' :: chunk) :: rest => ⟨true, rangesOf chunk rest⟩
  | chunk :: rest => ⟨false, rangesOf chunk rest⟩

/-- The set written between brackets. The first character is never taken as a range mark, and
neither is the one after an exclamation mark. -/
def ofBody (body : Text) : CharSet :=
  let guarded := if body.head? == some '!' then 2 else 1
  ofChunks (dropEmptyRanges (keepLastHyphen (chunks guarded body)))

end CharSet

/-! ### Patterns -/

inductive Token
  | run
  | any
  | char (c : Char)
  | set (s : CharSet)
deriving DecidableEq, Repr

abbrev Pattern := List Token

/-- How many characters after an opening bracket cannot be the closing one: an exclamation mark,
and a closing bracket in first place. -/
def unclosed : Text → Nat
  | '!' :: ']' :: _ => 2
  | '!' :: _ => 1
  | ']' :: _ => 1
  | _ => 0

def setBody? (t : Text) : Option Text :=
  let rest := t.drop (unclosed t)
  if rest.contains ']' then some (t.take (unclosed t) ++ rest.takeWhile (· != ']')) else none

/-- Reads a pattern, after passing over the characters of a set that has been read. -/
def Pattern.read (passed : Nat) : Text → Pattern
  | [] => []
  | c :: r =>
    match passed with
    | passed + 1 => read passed r
    | 0 =>
      if c = '*' then .run :: read 0 r
      else if c = '?' then .any :: read 0 r
      else if c = '[' then
        match setBody? r with
        | some body => .set (.ofBody body) :: read (body.length + 1) r
        | none => .char c :: read 0 r
      else .char c :: read 0 r

def Pattern.ofText (t : Text) : Pattern := Pattern.read 0 t

def isSpecial (c : Char) : Bool := c == '*' || c == '?' || c == '['

/-- A text without special characters stands for itself at the start of a pattern. -/
theorem Pattern.ofText_append {t : Text} (h : ∀ c ∈ t, isSpecial c = false) (rest : Text) :
    Pattern.ofText (t ++ rest) = t.map Token.char ++ Pattern.ofText rest := by
  induction t with
  | nil => rfl
  | cons c r ih =>
    simp only [List.mem_cons, forall_eq_or_imp, isSpecial, Bool.or_eq_false_iff,
      beq_eq_false_iff_ne, ne_eq] at h
    obtain ⟨⟨⟨hs, hq⟩, hb⟩, hr⟩ := h
    have hr' : ∀ d ∈ r, isSpecial d = false := by
      intro d hd
      simp [isSpecial, hr d hd]
    have := ih hr'
    simp only [Pattern.ofText] at this
    simp [Pattern.ofText, Pattern.read, hs, hq, hb, this]

/-- A text without special characters is a pattern for itself. -/
theorem Pattern.ofText_plain {t : Text} (h : ∀ c ∈ t, isSpecial c = false) :
    Pattern.ofText t = t.map Token.char := by
  have ha := Pattern.ofText_append h []
  rwa [List.append_nil, show Pattern.ofText [] = [] from rfl, List.append_nil] at ha

end BundleHost.Glob
