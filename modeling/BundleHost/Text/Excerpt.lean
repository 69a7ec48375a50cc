import BundleHost.Text.Basic

/-! Excerpts of texts that may be too long to be shown: the start and the end, with three points
between them. Sizes are counted in octets of UTF-8, and no character is cut. -/

namespace BundleHost.Text

def size : Text → Nat
  | [] => 0
  | c :: r => c.utf8Size + size r

/-- The longest start that takes no more than the given octets. -/
def startWithin : Nat → Text → Text
  | _, [] => []
  | room, c :: r => if c.utf8Size ≤ room then c :: startWithin (room - c.utf8Size) r else []

/-- The longest end that takes no more than the given octets. -/
def endWithin (room : Nat) : Text → Text
  | [] => []
  | c :: r => if size (c :: r) ≤ room then c :: r else endWithin room r

def omission : Text := "..."

/-- The text, if it takes no more than the given octets, and its two ends otherwise. They take one
octet less than that together if the number is even. -/
def excerpt (greatest : Nat) (t : Text) : Text :=
  if size t ≤ greatest then t
  else
    let half := (greatest + 1) / 2
    startWithin half t ++ omission ++ endWithin (half - 1) t

end BundleHost.Text
