import BundleHost.Text.Charset.Basic

/-! Text in octets below 80, in which a plus sign starts a run of units of 16 bits, written with six
bits to an octet. The run ends before the first octet that has no six bits, and a minus sign there
is no part of the text. -/

namespace BundleHost.Charset

/-- A run of units: the bits that are not used yet, and a unit whose second one is to come. -/
structure Run where
  count : Nat := 0
  bits : Nat := 0
  high : Option Nat := none

namespace Run

def sixBits? (n : Nat) : Option Nat :=
  if 0x41 ≤ n && n ≤ 0x5A then some (n - 0x41)
  else if 0x61 ≤ n && n ≤ 0x7A then some (n - 0x61 + 26)
  else if 0x30 ≤ n && n ≤ 0x39 then some (n - 0x30 + 52)
  else if n = 0x2B then some 62
  else if n = 0x2F then some 63
  else none

/-- Whether a run may end: only bits that are zero may be left, fewer than six. -/
def mayEnd (r : Run) : Bool := r.high.isNone && r.count < 6 && r.bits = 0

/-- A complete unit, which is a character or a half of one. -/
def addUnit (r : Run) (unit : Nat) : Except Error (Text × Run) :=
  match r.high with
  | some high =>
    if isLowUnit unit then .ok ([joined high unit], { r with high := none })
    else .error .undecodable
  | none =>
    if isHighUnit unit then .ok ([], { r with high := some unit })
    else (charOf unit).map fun c => ([c], r)

/-- Six bits more, which may complete a unit. -/
def add (r : Run) (six : Nat) : Except Error (Text × Run) :=
  let bits := 64 * r.bits + six
  let count := r.count + 6
  if count < 16 then .ok ([], { r with bits, count })
  else
    let left := Nat.pow 2 (count - 16)
    { r with bits := bits % left, count := count - 16 }.addUnit (bits / left)

end Run

/-- The text of octets, within a run or outside of all. -/
def ofShifted : Option Run → List UInt8 → Except Error Text
  | none, [] => .ok []
  | some run, [] => if run.mayEnd then .ok [] else .error .undecodable
  | none, o :: rest =>
    if o = 0x2B then
      match rest with
      | [] => .ok []
      | next :: rest =>
        if next = 0x2D then (ofShifted none rest).map ('+' :: ·)
        else match Run.sixBits? next.toNat with
          | some six => do
            let (text, run) ← Run.add {} six
            return text ++ (← ofShifted (some run) rest)
          | none => .error .undecodable
    else if o < 0x80 then (ofShifted none rest).map (Char.ofNat o.toNat :: ·)
    else .error .undecodable
  | some run, o :: rest =>
    match Run.sixBits? o.toNat with
    | some six => do
      let (text, run) ← run.add six
      return text ++ (← ofShifted (some run) rest)
    | none =>
      if !run.mayEnd || 0x80 ≤ o then .error .undecodable
      else if o = 0x2D then ofShifted none rest
      else (ofShifted none rest).map (Char.ofNat o.toNat :: ·)

end BundleHost.Charset
