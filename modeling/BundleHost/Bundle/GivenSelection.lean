import BundleHost.Bundle.Discovery
import BundleHost.Value.Use

/-! A choice of files as it may be given from outside, where the patterns need not be texts. What is
no pattern does harm only if it is tried: patterns are tried in their order until one fits, and
those of the files to leave out only on files that would be taken. -/

namespace BundleHost.Bundle

structure GivenSelection where
  /-- Patterns of the files to take; anything that counts as a no stands for no patterns. -/
  taken : Value
  leftOut : Value

namespace GivenSelection

def ofSelection (s : Selection) : GivenSelection where
  taken := .list (s.taken.map .text)
  leftOut := .list (s.leftOut.map .text)

/-- Whether one of the patterns fits, of which all up to that one have to be texts. -/
def tryAny (path : Text) : List Value → Except Failure Bool
  | [] => .ok false
  | .text pattern :: rest =>
    if Selection.fits path pattern then .ok true else tryAny path rest
  | _ :: _ => .error (.wrongType [])

def fitsAny (path : Text) (patterns : Value) : Except Failure Bool :=
  match patterns.elements with
  | .ok items => tryAny path items
  | .error e => .error e

def takes (g : GivenSelection) (path : Text) : Except Failure Bool :=
  if g.taken.holds then fitsAny path g.taken else .ok true

def selects (g : GivenSelection) (path : Text) : Except Failure Bool :=
  match g.takes path with
  | .ok true => (fitsAny path g.leftOut).map (!·)
  | other => other

theorem tryAny_texts (path : Text) (patterns : List Text) :
    tryAny path (patterns.map .text) = .ok (Selection.fitsAny path patterns) := by
  induction patterns with
  | nil => rfl
  | cons pattern rest ih =>
    rw [List.map_cons, tryAny, ih, Selection.fitsAny, Selection.fitsAny, List.any_cons]
    cases Selection.fits path pattern <;> rfl

theorem fitsAny_texts (path : Text) (patterns : List Text) :
    fitsAny path (.list (patterns.map .text)) = .ok (Selection.fitsAny path patterns) :=
  tryAny_texts path patterns

theorem takes_ofSelection (s : Selection) (path : Text) :
    (ofSelection s).takes path = .ok (s.taken.isEmpty || Selection.fitsAny path s.taken) := by
  cases hs : s.taken with
  | nil => rw [takes, ofSelection, hs]; rfl
  | cons pattern rest =>
    have hholds : (ofSelection s).taken.holds = true := by rw [ofSelection, hs]; rfl
    rw [takes, if_pos hholds, ofSelection, hs, fitsAny_texts]
    rfl

/-- A choice by texts selects what a selection by these texts does. -/
theorem selects_ofSelection (s : Selection) (path : Text) :
    (ofSelection s).selects path = .ok (s.selects path) := by
  rw [selects, takes_ofSelection, Selection.selects]
  cases s.taken.isEmpty || Selection.fitsAny path s.taken with
  | false => rfl
  | true =>
    dsimp only
    rw [ofSelection, fitsAny_texts]
    rfl

end GivenSelection

namespace Directory

/-- The files among paths that are chosen, unless a question about one of them fails. -/
def choose (d : Directory) (selects : Text → Except Failure Bool) :
    List Path → Except Failure (List Path)
  | [] => .ok []
  | path :: rest =>
    match d.fileAt path with
    | .error e => .error (.fileSystem e)
    | .ok none => d.choose selects rest
    | .ok (some _) =>
      match selects path.relative with
      | .error e => .error e
      | .ok true => (d.choose selects rest).map (path :: ·)
      | .ok false => d.choose selects rest

def discoveredBy (d : Directory) (g : GivenSelection) : Except Failure (List Path) :=
  match d.listingFailure? with
  | some e => .error (.fileSystem e)
  | none => d.choose g.selects (d.paths.mergeSort Path.le)

theorem choose_ofSelection (d : Directory) (s : Selection) (paths : List Path) :
    d.choose (GivenSelection.ofSelection s).selects paths =
      match paths.findSome? d.refusal? with
      | some e => .error (.fileSystem e)
      | none => .ok (paths.filter (d.isSelected s)) := by
  induction paths with
  | nil => rfl
  | cons path rest ih =>
    rw [choose, List.findSome?_cons, refusal?, List.filter_cons, isSelected, isFile, fileAt?, ih,
      GivenSelection.selects_ofSelection]
    cases d.fileAt path with
    | error e => rfl
    | ok found =>
      cases found with
      | none => rfl
      | some data =>
        cases s.selects path.relative with
        | false => rfl
        | true => cases rest.findSome? d.refusal? <;> rfl

/-- A choice by texts discovers what a selection by these texts does. -/
theorem discoveredBy_ofSelection (d : Directory) (s : Selection) :
    d.discoveredBy (.ofSelection s) = (d.discovered s).mapError .fileSystem := by
  rw [discoveredBy, discovered, failure?]
  cases d.listingFailure? with
  | some e => rfl
  | none =>
    dsimp only
    rw [choose_ofSelection, discover]
    cases (d.paths.mergeSort Path.le).findSome? d.refusal? <;> rfl

end Directory
end BundleHost.Bundle
