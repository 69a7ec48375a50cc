import BundleHost.Text.Charset.Basic

/-! Grids of characters, whose cells are named by two octets, and the reading of text in which some
characters take more octets than one. -/

namespace BundleHost.Charset

/-- The cells of a grid, one after another, in lines of 94. Lines are short where empty cells come
last, and the first lines may be left out. A full stop is an empty cell. -/
structure Grid where
  firstLine : Nat
  lines : List String

namespace Grid

def lineLength : Nat := 94

def cell? (g : Grid) (n : Nat) : Option Char :=
  if n / lineLength < g.firstLine then none
  else (g.lines[n / lineLength - g.firstLine]?).bind fun line =>
    (line.toList[n % lineLength]?).filter (· != '.')

/-- The rows of a plane are as long as the lines. The octets of rows and of cells start at 21. -/
def planeCell? (g : Grid) (row cell : Nat) : Option Char :=
  if 0x21 ≤ row && 0x21 ≤ cell && cell < 0x7F then g.cell? ((row - 0x21) * 94 + (cell - 0x21))
  else none

end Grid

/-! ### Reading -/

/-- The text with which octets start, and how many of them it takes. -/
structure Found where
  size : Nat
  text : Text

namespace Found

def char (size : Nat) (c : Char) : Found := ⟨size, [c]⟩

def point (size n : Nat) : Found := ⟨size, [Char.ofNat n]⟩

end Found

/-- Reads from the front, after so many octets that are read already. -/
def readAfter (first? : List Nat → Option Found) : Nat → List Nat → Except Error Text
  | _, [] => .ok []
  | skipped + 1, _ :: rest => readAfter first? skipped rest
  | 0, o :: rest =>
    match first? (o :: rest) with
    | some found => (readAfter first? (found.size - 1) rest).map (found.text ++ ·)
    | none => .error .undecodable

/-- The text of octets, of which those below 80 stand for one character each. -/
def readAll (low : Nat → Char) (first? : List Nat → Option Found) (octets : List UInt8) :
    Except Error Text :=
  readAfter (fun
    | [] => none
    | o :: rest => if o < 0x80 then some (.char 1 (low o)) else first? (o :: rest)) 0
    (octets.map UInt8.toNat)

/-! ### Kana of half width -/

/-- The character of an octet for kana of half width. -/
def kana? (o : Nat) : Option Char :=
  if 0xA1 ≤ o && o ≤ 0xDF then some (Char.ofNat (0xFF61 + (o - 0xA1))) else none

end BundleHost.Charset
