import BundleHost.Http.NumericHost
import BundleHost.Http.Shape

/-! Templates of request paths. A name between braces is a parameter, which stands for some part
of the path; a kind after the name says what that part may be. Every other character stands for
itself. A parameter takes as much of the path as it can, and less of it only if the rest of the
template does not fit otherwise. `captures?` says so and tries one length after another; `find?`
finds the same by going through the path once for each part. -/

namespace BundleHost

/-- What a parameter may stand for. -/
inductive ParameterKind
  | segment
  | path
  | digits
  | decimal
  | uuid
deriving DecidableEq, Repr

namespace ParameterKind

def all : List ParameterKind := [segment, path, digits, decimal, uuid]

def label : ParameterKind → Text
  | segment => "str"
  | path => "path"
  | digits => "int"
  | decimal => "float"
  | uuid => "uuid"

def ofLabel? (t : Text) : Option ParameterKind := all.find? fun k => k.label = t

def isNotSlash (c : Char) : Bool := c != '/'

def isNotBreak (c : Char) : Bool := c != '\n'

def isPoint (c : Char) : Bool := c == '.'

def isHyphen (c : Char) : Bool := c == '-'

/-- Groups of hexadecimal digits, with or without a hyphen before each of them. -/
def moreGroups : List Nat → Shape → Shape
  | [], start => start
  | size :: sizes, start =>
    moreGroups sizes
      (.seq start (.seq (.opt (.count isHyphen 1)) (.count NumericHost.isHexDigit size)))

def shape : ParameterKind → Shape
  | segment => .many isNotSlash
  | path => .opt (.many isNotBreak)
  | digits => .many Char.isDigit
  | decimal => .seq (.many Char.isDigit) (.opt (.seq (.count isPoint 1) (.many Char.isDigit)))
  | uuid => moreGroups [4, 4, 4, 12] (.count NumericHost.isHexDigit 8)

end ParameterKind

inductive TemplatePart
  | char (c : Char)
  | parameter (name : Text) (kind : ParameterKind)
deriving DecidableEq, Repr

/-- What a parameter stands for in a path. -/
structure Capture where
  name : Text
  kind : ParameterKind
  text : Text
deriving DecidableEq, Repr

namespace TemplatePart

def shape : TemplatePart → Shape
  | char c => .count (· == c) 1
  | parameter _ kind => kind.shape

/-- What is captured where the part stands for a text. -/
def captures : TemplatePart → Text → List Capture
  | char _, _ => []
  | parameter name kind, t => [⟨name, kind, t⟩]

end TemplatePart

abbrev PathTemplate := List TemplatePart

namespace PathTemplate

/-! ### Matching -/

/-- Whether nothing is left of a path. A line break at its end does not count. -/
def isEnd (rest : Text) : Bool := rest = [] || rest = ['\n']

/-- What the parameters of a template stand for in a path, with each part as long as it can be. -/
def captures? : PathTemplate → Text → Option (List Capture)
  | [], rest => if isEnd rest then some [] else none
  | part :: parts, t =>
    (part.shape.lengths t).findSome? fun n =>
      (captures? parts (t.drop n)).map (part.captures (t.take n) ++ ·)

def literal (t : Text) : PathTemplate := t.map .char

theorem lengths_char (c d : Char) (r : Text) :
    (TemplatePart.char c).shape.lengths (d :: r) = if c = d then [1] else [] := by
  by_cases h : d = c
  · simp [TemplatePart.shape, Shape.lengths, Shape.run_cons, h]
  · simp [TemplatePart.shape, Shape.lengths, Shape.run_cons, h, Ne.symm h]

theorem captures?_literal (t path : Text) :
    captures? (literal t) path = if path = t || path = t ++ ['\n'] then some [] else none := by
  induction t generalizing path with
  | nil => simp [literal, captures?, isEnd]
  | cons c r ih =>
    cases path with
    | nil => simp [literal, captures?, TemplatePart.shape, Shape.lengths, Shape.run]
    | cons d rest =>
      have h := ih rest
      simp only [literal] at h
      simp only [literal, List.map_cons, captures?, lengths_char]
      by_cases hc : c = d
      · subst hc
        simp [h, TemplatePart.captures]
      · simp [hc, Ne.symm hc]

/-! ### Matching in one pass for each part -/

/-- At each place of a path, whether it ends there. -/
def ends : Text → Shape.Reach
  | [] => [some 0]
  | c :: r => (if isEnd (c :: r) then some 0 else none) :: ends r

def fits (reach : Shape.Reach) : Shape.Reach := reach.map fun n => n.map fun _ => 0

/-- For each part, what it takes at each place of a path if the parts after it fit there; after them
the places at which the path ends. -/
def passes : PathTemplate → Text → Shape.Reach × List Shape.Reach
  | [], t => (ends t, [])
  | part :: parts, t =>
    let later := passes parts t
    (part.shape.reach t (fits later.1), later.1 :: later.2)

def follow : PathTemplate → Shape.Reach × List Shape.Reach → Text → Option (List Capture)
  | [], pass, _ => (Shape.first pass.1).map fun _ => []
  | part :: parts, pass, t =>
    match Shape.first pass.1, pass.2 with
    | some n, next :: later =>
      (follow parts (next.drop n, later.map (List.drop n)) (t.drop n)).map
        (part.captures (t.take n) ++ ·)
    | _, _ => none

/-- What the parameters of a template stand for in a path. The work grows with the length of the
path and not with its powers. -/
def search? (template : PathTemplate) (path : Text) : Option (List Capture) :=
  follow template (passes template path) path

/-- The same, with the characters before the first parameter looked at beforehand. -/
def find? : PathTemplate → Text → Option (List Capture)
  | .char c :: parts, d :: rest => if c = d then find? parts rest else none
  | template, path => search? template path

theorem length_ends (t : Text) : (ends t).length = t.length + 1 := by
  induction t with
  | nil => rfl
  | cons c r ih => simp [ends, ih]

theorem drop_ends {t : Text} {n : Nat} (hn : n ≤ t.length) : (ends t).drop n = ends (t.drop n) := by
  induction n generalizing t with
  | zero => rfl
  | succ n ih =>
    match t with
    | c :: r => simpa [ends] using ih (Nat.le_of_succ_le_succ hn)

theorem length_passes (template : PathTemplate) (t : Text) :
    (passes template t).1.length = t.length + 1 := by
  induction template with
  | nil => exact length_ends t
  | cons part parts ih =>
    exact Shape.length_reach part.shape (by simp [fits, ih])

theorem drop_passes (template : PathTemplate) {t : Text} {n : Nat} (hn : n ≤ t.length) :
    ((passes template t).1.drop n, (passes template t).2.map (List.drop n)) =
      passes template (t.drop n) := by
  induction template with
  | nil => simp [passes, drop_ends hn]
  | cons part parts ih =>
    have h : (fits (passes parts t).1).length = t.length + 1 := by simp [fits, length_passes]
    have hf : (fits (passes parts t).1).drop n = fits (passes parts (t.drop n)).1 := by
      rw [← ih]
      simp [fits, List.map_drop]
    simp only [passes, Shape.drop_reach part.shape h hn, hf, List.map_cons, ← ih]

theorem first_fits (reach : Shape.Reach) :
    Shape.first (fits reach) = (Shape.first reach).map fun _ => 0 := by
  cases reach <;> rfl

theorem bind_findSome? {α : Type} (l : List Nat) (f : Nat → Option α) :
    (l.findSome? fun n => (f n).map fun _ => n).bind f = l.findSome? f := by
  induction l with
  | nil => rfl
  | cons n l ih =>
    simp only [List.findSome?_cons]
    cases h : f n <;> simp [h, ih]

theorem first_passes_cons (part : TemplatePart) (parts : PathTemplate) (t : Text)
    (h : ∀ t : Text, (Shape.first (passes parts t).1).map (fun _ => 0) =
      (captures? parts t).map fun _ => 0) :
    Shape.first (passes (part :: parts) t).1 =
      (part.shape.lengths t).findSome? fun n => (captures? parts (t.drop n)).map fun _ => n := by
  have hl : (fits (passes parts t).1).length = t.length + 1 := by simp [fits, length_passes]
  simp only [passes, Shape.first_reach part.shape hl]
  refine Shape.findSome?_congr_of_mem fun n hn => ?_
  have hd : (fits (passes parts t).1).drop n = fits (passes parts (t.drop n)).1 := by
    rw [← drop_passes parts (Shape.le_of_mem_lengths hn)]
    simp [fits, List.map_drop]
  rw [hd, first_fits, h]
  cases captures? parts (t.drop n) <;> rfl

/-- At the first place the passes find something if and only if the template fits. -/
theorem map_first_passes (template : PathTemplate) (t : Text) :
    (Shape.first (passes template t).1).map (fun _ => 0) =
      (captures? template t).map fun _ => 0 := by
  induction template generalizing t with
  | nil =>
    cases t with
    | nil => rfl
    | cons c r =>
      simp only [passes, ends, captures?, Shape.first]
      cases isEnd (c :: r) <;> rfl
  | cons part parts ih =>
    rw [first_passes_cons part parts t ih, captures?, Shape.map_findSome?, Shape.map_findSome?]
    refine Shape.findSome?_congr_of_mem fun n _ => ?_
    cases captures? parts (t.drop n) <;> rfl

/-- Following the passes gives what trying one length after another gives. -/
theorem search?_eq_captures? (template : PathTemplate) (t : Text) :
    search? template t = captures? template t := by
  induction template generalizing t with
  | nil =>
    cases t with
    | nil => rfl
    | cons c r =>
      simp only [search?, follow, passes, ends, captures?, Shape.first]
      cases isEnd (c :: r) <;> rfl
  | cons part parts ih =>
    have hf := first_passes_cons part parts t (map_first_passes parts)
    have hc : captures? (part :: parts) t = (Shape.first (passes (part :: parts) t).1).bind
        fun n => (captures? parts (t.drop n)).map (part.captures (t.take n) ++ ·) := by
      rw [hf, captures?, ← bind_findSome?]
      congr 2
      funext n
      cases captures? parts (t.drop n) <;> rfl
    rw [hc]
    simp only [search?] at ih ⊢
    cases hn : Shape.first (passes (part :: parts) t).1 with
    | none => simp [follow, hn]
    | some n =>
      have hm : n ≤ t.length := by
        rw [hn] at hf
        obtain ⟨m, hm, he⟩ := List.exists_of_findSome?_eq_some hf.symm
        cases hk : captures? parts (t.drop m) <;> simp [hk] at he
        exact he ▸ Shape.le_of_mem_lengths hm
      have hd := drop_passes parts hm
      simp only [passes] at hn
      simp only [passes, follow, hn, Option.bind_some, ← ih, ← hd]

theorem find?_eq_captures? (template : PathTemplate) (path : Text) :
    find? template path = captures? template path := by
  induction template generalizing path with
  | nil => simpa [find?] using search?_eq_captures? [] path
  | cons part parts ih =>
    match part, path with
    | .parameter name kind, path => simpa [find?] using search?_eq_captures? _ path
    | .char c, [] => simpa [find?] using search?_eq_captures? _ []
    | .char c, d :: rest =>
      simp only [find?, captures?, lengths_char]
      by_cases h : c = d
      · simp [h, ih, TemplatePart.captures]
      · simp [h]

/-! ### Reading -/

inductive Error
  | unknownKind (label : Text)
  | repeatedName (name : Text)
deriving DecidableEq, Repr

def isNameStart (c : Char) : Bool := c.isAlpha || c == '_'

def isNameChar (c : Char) : Bool := c.isAlphanum || c == '_'

def nameOf (t : Text) : Text := if t.head?.any isNameStart then t.takeWhile isNameChar else []

/-- A parameter as it is written, with how many characters it is long. -/
structure Written where
  name : Text
  kind : Text
  length : Nat
deriving DecidableEq, Repr

def readParameter? : Text → Option Written
  | '\x7b' :: r =>
    let name := nameOf r
    if name = [] then none
    else match r.drop name.length with
      | '\x7d' :: _ => some ⟨name, ParameterKind.segment.label, name.length + 2⟩
      | ':' :: r' =>
        let kind := nameOf r'
        if kind != [] && (r'.drop kind.length).head? = some '\x7d' then
          some ⟨name, kind, name.length + kind.length + 3⟩
        else none
      | _ => none
  | _ => none

def readAfter : Nat → Text → Except Error PathTemplate
  | _, [] => .ok []
  | skipped + 1, _ :: r => readAfter skipped r
  | 0, c :: r =>
    match readParameter? (c :: r) with
    | none => (readAfter 0 r).map (.char c :: ·)
    | some w =>
      match ParameterKind.ofLabel? w.kind with
      | none => .error (.unknownKind w.kind)
      | some kind => (readAfter (w.length - 1) r).map (.parameter w.name kind :: ·)

/-- A template as text, without the kinds of its parameters. -/
def shown : PathTemplate → Text
  | [] => []
  | .char c :: parts => c :: shown parts
  | .parameter name _ :: parts => '\x7b' :: name ++ '\x7d' :: shown parts

/-- The texts between braces in a text without its first `skipped` characters. None of them goes
over the end of a line. -/
def bracedAfter : Nat → Text → List Text
  | _, [] => []
  | skipped + 1, _ :: r => bracedAfter skipped r
  | 0, c :: r =>
    let inner := r.takeWhile fun d => d != '\x7d' && d != '\n'
    if c = '\x7b' && (r.drop inner.length).head? = some '\x7d' then
      inner :: bracedAfter (inner.length + 1) r
    else bracedAfter 0 r

/-- Whether a name stands between braces of its own. A brace before it that is never closed takes
the name in. -/
def isNamed (template : PathTemplate) (name : Text) : Bool :=
  (bracedAfter 0 template.shown).contains name

def names : PathTemplate → List Text
  | [] => []
  | .char _ :: parts => names parts
  | .parameter name _ :: parts => name :: names parts

def repeated? : List Text → Option Text
  | [] => none
  | name :: rest => if rest.contains name then some name else repeated? rest

def ofText (t : Text) : Except Error PathTemplate :=
  match readAfter 0 t with
  | .error e => .error e
  | .ok template =>
    match repeated? template.names with
    | some name => .error (.repeatedName name)
    | none => .ok template

theorem names_literal (t : Text) : names (literal t) = [] := by
  induction t with
  | nil => rfl
  | cons c r ih => exact ih

theorem readParameter?_of_ne {c : Char} (h : c ≠ '\x7b') (r : Text) :
    readParameter? (c :: r) = none := by
  unfold readParameter?
  split
  · next heq => exact absurd (List.cons.inj heq).1 h
  · rfl

/-- A text without braces is the template that takes it alone. -/
theorem ofText_of_not_mem {t : Text} (h : '\x7b' ∉ t) : ofText t = .ok (literal t) := by
  have read : readAfter 0 t = .ok (literal t) := by
    induction t with
    | nil => rfl
    | cons c r ih =>
      simp only [List.mem_cons, not_or] at h
      simp only [readAfter, readParameter?_of_ne (Ne.symm h.1), ih h.2]
      rfl
  simp only [ofText, read, names_literal]
  rfl

end PathTemplate
end BundleHost
