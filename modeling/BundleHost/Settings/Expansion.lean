import BundleHost.Text.Basic

/-! References to variables in the values of an environment file. A reference is a name between
braces after a dollar sign, and may have a text to be used where the variable has no value. Dollar
signs in any other place stand for themselves. -/

namespace BundleHost.Settings.Expansion

/-- A reference, with how many characters it is long. -/
structure Reference where
  name : Text
  fallback : Text
  length : Nat
deriving DecidableEq, Repr

/-- The reference with which a text starts. A name has neither a colon nor a closing brace in it,
and a fallback has no closing brace. -/
def readReference? : Text → Option Reference
  | '$' :: '\x7b' :: r =>
    let name := r.takeWhile fun c => c != '\x7d' && c != ':'
    match r.drop name.length with
    | '\x7d' :: _ => some ⟨name, [], name.length + 3⟩
    | ':' :: '-' :: r' =>
      let fallback := r'.takeWhile (· != '\x7d')
      if fallback.length < r'.length then
        some ⟨name, fallback, name.length + fallback.length + 5⟩
      else none
    | _ => none
  | _ => none

def expandAfter (value? : Text → Option Text) : Nat → Text → Text
  | _, [] => []
  | skipped + 1, _ :: r => expandAfter value? skipped r
  | 0, c :: r =>
    match readReference? (c :: r) with
    | some ref => (value? ref.name).getD ref.fallback ++ expandAfter value? (ref.length - 1) r
    | none => c :: expandAfter value? 0 r

/-- A text with each reference replaced by the value of its variable. -/
def expand (value? : Text → Option Text) (t : Text) : Text := expandAfter value? 0 t

end BundleHost.Settings.Expansion
