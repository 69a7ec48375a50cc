import BundleHost.Text.Case
import BundleHost.Text.Charset.Basic
import BundleHost.Text.Printable

/-! Text in letters, digits and hyphens: first the characters that can stand for themselves, then,
after the last hyphen, digits that tell which characters are to be put in between and where. The
digits make up numbers whose places have thresholds; a digit below its threshold is the last one.
Names of hosts hold other characters in this way, behind a start of their own. -/

namespace BundleHost.Charset

namespace Punycode

/-- The value of a digit, of which there are 36. -/
def digit? (c : Char) : Option Nat :=
  if c.isUpper then some (c.toNat - 65)
  else if c.isLower then some (c.toNat - 97)
  else if c.isDigit then some (c.toNat - 22)
  else none

def threshold (place bias : Nat) : Nat := min 26 (max 1 (36 * (place + 1) - bias))

/-- How often a number is divided until it is small, as 36 times that count, and what is left. -/
def reduce (delta divisions : Nat) : Nat × Nat :=
  if 455 < delta then reduce (delta / 35) (divisions + 36) else (delta, divisions)
termination_by delta
decreasing_by exact Nat.div_lt_self (by omega) (by omega)

def adapt (delta : Nat) (isFirst : Bool) (size : Nat) : Nat :=
  let delta := delta / (if isFirst then 700 else 2)
  let (delta, divisions) := reduce (delta + delta / size) 0
  divisions + 36 * delta / (delta + 38)

/-- How far the reading is. -/
structure State where
  text : Text
  point : Nat := 0x80
  place : Nat := 0
  bias : Nat := 72
  isFirst : Bool := true

/-- A number of which some digits are read. -/
structure Unfinished where
  value : Nat := 0
  weight : Nat := 1
  place : Nat := 0

def State.insert (s : State) (delta : Nat) : Except Error State :=
  let room := s.text.length + 1
  let place := s.place + delta
  let point := s.point + place / room
  if 0x110000 ≤ point then .error .unfit
  else (charOf point).map fun c =>
    let place := place % room
    { text := s.text.take place ++ c :: s.text.drop place
      point
      place := place + 1
      bias := adapt delta s.isFirst room
      isFirst := false }

/-- Reads the digits. No number may break off. -/
def read : State → Option Unfinished → Text → Except Error Text
  | s, none, [] => .ok s.text
  | _, some _, [] => .error .unfit
  | s, number, c :: rest =>
    match digit? c with
    | none => .error .unfit
    | some d =>
      let n := number.getD {}
      let t := threshold n.place s.bias
      let value := n.value + d * n.weight
      if d < t then (s.insert value).bind fun s => read s none rest
      else read s (some ⟨value, n.weight * (36 - t), n.place + 1⟩) rest

/-- The text before the last hyphen, if there is one, and the digits. -/
def parts (t : Text) : Text × Text :=
  match Text.afterLast? '-' t with
  | none => ([], t)
  | some digits => (t.take (t.length - digits.length - 1), digits)

def ofText (t : Text) : Except Error Text := read { text := (parts t).1 } none (parts t).2

end Punycode

def ofPunycode (octets : List UInt8) : Except Error Text := (ofAscii octets).bind Punycode.ofText

/-! ### Names of hosts -/

/-- What stands before a part of a name that holds other characters. -/
def hostStart : Text := "xn--"

def longestWrittenPart : Nat := 63

/-- Whether a part is written in the one way in which its text is, and may hold what it does. -/
def isCanonical (written text : Text) : Bool :=
  let (plain, _) := Punycode.parts written
  let others := text.filter fun c => 0x80 ≤ c.toNat
  !others.isEmpty && others.all Text.isPrintable && Text.lower others = others &&
    plain.isEmpty = !written.contains '-' && !hostStart.isPrefixOf (Text.lower text) &&
    hostStart.length + written.length ≤ longestWrittenPart

def ofHostPart (part : Text) : Except Error Text :=
  if hostStart.isPrefixOf part then do
    let written := part.drop hostStart.length
    let text ← Punycode.ofText written
    if isCanonical written text then return text else throw .unfit
  else .ok part

def ofHostName (octets : List UInt8) : Except Error Text := do
  let parts ← (Text.split '.' (← ofAscii octets)).mapM ofHostPart
  return Text.join ['.'] parts

end BundleHost.Charset
