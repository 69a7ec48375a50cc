import BundleHost.Text.Basic

/-! What the ways of holding text in octets have in common: how reading can fail, and the units of
16 bits that stand for characters. -/

namespace BundleHost.Charset

inductive Error
  | undecodable
  | unfit
deriving DecidableEq, Repr

/-- Whether a unit is the first of two that stand for one character. -/
def isHighUnit (n : Nat) : Bool := 0xD800 ≤ n && n < 0xDC00

def isLowUnit (n : Nat) : Bool := 0xDC00 ≤ n && n < 0xE000

def joined (high low : Nat) : Char :=
  Char.ofNat (0x10000 + (high - 0xD800) * 0x400 + (low - 0xDC00))

def charOf (n : Nat) : Except Error Char :=
  if n < 0x110000 && !isHighUnit n && !isLowUnit n then .ok (Char.ofNat n) else .error .undecodable

/-- The characters of units, of which those beyond U+FFFF take two. -/
def ofUnits : List Nat → Except Error Text
  | [] => .ok []
  | high :: low :: rest =>
    if isHighUnit high && isLowUnit low then (ofUnits rest).map (joined high low :: ·)
    else do return (← charOf high) :: (← ofUnits (low :: rest))
  | [n] => (charOf n).map ([·])

/-- One character for each octet. -/
def ofOctets (char? : Nat → Option Char) (octets : List UInt8) : Except Error Text :=
  octets.mapM fun o =>
    match char? o.toNat with
    | some c => .ok c
    | none => .error .undecodable

def ofAscii (octets : List UInt8) : Except Error Text :=
  ofOctets (fun n => if n < 0x80 then some (Char.ofNat n) else none) octets

end BundleHost.Charset
