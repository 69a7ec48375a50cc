import BundleHost.Text.Charset.ChineseGrids

/-! Chinese text. On the mainland characters have two octets, in a set that was widened twice, at
last with four octets for all characters that are left. On Taiwan and in Hong Kong there is another
set of characters with two octets. -/

namespace BundleHost.Charset.Chinese

/-! ### The mainland -/

def wideCell? (a b : Nat) : Option Nat :=
  if 0x81 ≤ a && a ≤ 0xFE && 0x40 ≤ b && b ≤ 0xFE && b != 0x7F then
    some (190 * (a - 0x81) + (if b < 0x7F then b - 0x40 else b - 0x41))
  else none

def gbk? (a b : Nat) : Option Char := (wideCell? a b).bind Grid.gbk.cell?

/-- The cells of the oldest set that have characters, for each row of signs. -/
def signCells : List (Nat × List (Nat × Nat)) := [
  (0xA1, [(0xA1, 0xFE)]), (0xA2, [(0xB1, 0xE2), (0xE5, 0xEE), (0xF1, 0xFC)]),
  (0xA3, [(0xA1, 0xFE)]), (0xA4, [(0xA1, 0xF3)]), (0xA5, [(0xA1, 0xF6)]),
  (0xA6, [(0xA1, 0xB8), (0xC1, 0xD8)]), (0xA7, [(0xA1, 0xC1), (0xD1, 0xF1)]),
  (0xA8, [(0xA1, 0xBA), (0xC5, 0xE9)]), (0xA9, [(0xA4, 0xEF)])]

/-- Whether two octets are those of a cell of the oldest set. -/
def isOld (a b : Nat) : Bool :=
  if a < 0xB0 then ((signCells.lookup a).getD []).any fun r => r.1 ≤ b && b ≤ r.2
  else a ≤ 0xF7 && 0xA1 ≤ b && b ≤ 0xFE && !(a = 0xD7 && 0xFA ≤ b)

/-- A character of the oldest set. Two signs were taken for others later. -/
def gb2312? (a b : Nat) : Option Char :=
  if a = 0xA1 && b = 0xA4 then some '・'
  else if a = 0xA1 && b = 0xAA then some '―'
  else if isOld a b then gbk? a b
  else none

def private? (a b : Nat) : Option Char :=
  if 0xA1 ≤ b && b ≤ 0xFE && 0xAA ≤ a && a ≤ 0xAF then
    some (Char.ofNat (0xE000 + 94 * (a - 0xAA) + (b - 0xA1)))
  else if 0xA1 ≤ b && b ≤ 0xFE && 0xF8 ≤ a && a ≤ 0xFE then
    some (Char.ofNat (0xE234 + 94 * (a - 0xF8) + (b - 0xA1)))
  else if 0xA1 ≤ a && a ≤ 0xA7 && 0x40 ≤ b && b ≤ 0xA0 && b != 0x7F then
    some (Char.ofNat (0xE4C6 + 96 * (a - 0xA1) + (if b < 0x7F then b - 0x40 else b - 0x41)))
  else none

/-- How many code points up to U+FFFF have four octets. -/
def runEnd : Nat := 39420

def inRuns? (n : Nat) : Option Nat :=
  (Grid.gb18030Runs.reverse.find? fun r => r.1 ≤ n).map fun r => r.2 + (n - r.1)

/-- Whether octets can be the first two or the last two of four. -/
def isHalf (a b : Nat) : Bool := 0x81 ≤ a && a ≤ 0xFE && 0x30 ≤ b && b ≤ 0x39

def ofFour? (a b c d : Nat) : Option Char :=
  if isHalf a b && isHalf c d then
    let place (first : Nat) := ((a - first) * 10 + (b - 0x30)) * 1260 + (c - 0x81) * 10 + (d - 0x30)
    if a < 0x85 then
      if place 0x81 < runEnd then (inRuns? (place 0x81)).map Char.ofNat else none
    else if 0x90 ≤ a && place 0x90 < 0x100000 then some (Char.ofNat (0x10000 + place 0x90))
    else none
  else none

def gb18030? : List Nat → Option Found
  | a :: b :: rest =>
    if 0x30 ≤ b && b ≤ 0x39 then
      match rest with
      | c :: d :: _ => (ofFour? a b c d).map (.char 4)
      | _ => none
    else
      ((gbk? a b).or ((wideCell? a b).bind Grid.gb18030.cell?) |>.or (private? a b)).map (.char 2)
  | _ => none

/-- The text of octets below 80, in which a tilde and a brace switch between characters with one
octet and such with two. -/
def ofSwitched : Bool → List Nat → Except Error Text
  | _, [] => .ok []
  | wide, o :: rest =>
    match rest with
    | [] => if wide || o = 0x7E || 0x80 ≤ o then .error .undecodable else .ok [Char.ofNat o]
    | next :: rest =>
      if o = 0x7E then
        if wide then if next = 0x7D then ofSwitched false rest else .error .undecodable
        else if next = 0x7E then (ofSwitched false rest).map ('~' :: ·)
        else if next = 0x7B then ofSwitched true rest
        else if next = 0x0A then ofSwitched false rest
        else .error .undecodable
      else if 0x80 ≤ o then .error .undecodable
      else if wide then
        match gb2312? (o + 0x80) (next + 0x80) with
        | some c => (ofSwitched true rest).map (c :: ·)
        | none => .error .undecodable
      else (ofSwitched false (next :: rest)).map (Char.ofNat o :: ·)

/-! ### Taiwan and Hong Kong -/

/-- The cell of two octets in rows of 157 cells. -/
def narrowCell? (a b : Nat) : Option Nat :=
  if 0x81 ≤ a && a ≤ 0xFE && ((0x40 ≤ b && b ≤ 0x7E) || (0xA1 ≤ b && b ≤ 0xFE)) then
    some (157 * (a - 0x81) + (if b < 0x7F then b - 0x40 else b - 0x62))
  else none

def big5? (a b : Nat) : Option Char := (narrowCell? a b).bind Grid.big5.cell?

def windowsBig5? (a b : Nat) : Option Char :=
  ((narrowCell? a b).bind Grid.windowsBig5.cell?).or (big5? a b)

/-- Capital and small letters with two marks, for which there is no single code point. -/
def markedLetters : List ((Nat × Nat) × (Nat × Nat)) := [
  ((0x88, 0x62), (0xCA, 0x304)), ((0x88, 0x64), (0xCA, 0x30C)), ((0x88, 0xA3), (0xEA, 0x304)),
  ((0x88, 0xA5), (0xEA, 0x30C))]

/-- Cells that belong to the set of Hong Kong alone. -/
def isHongKong (a b : Nat) : Bool := (a = 0xC6 && 0xA1 ≤ b) || a = 0xC7 || a = 0xC8

def hongKongText? (a b : Nat) : Option Text :=
  let own := (narrowCell? a b).bind Grid.hongKong.cell?
  let shared := if isHongKong a b then none else big5? a b
  match own.or shared with
  | some c => some [c]
  | none => (markedLetters.lookup (a, b)).map fun p => [Char.ofNat p.1, Char.ofNat p.2]

def hongKong? : List Nat → Option Found
  | a :: b :: _ => (hongKongText? a b).map fun t => ⟨2, t⟩
  | _ => none

def two? (char? : Nat → Nat → Option Char) : List Nat → Option Found
  | a :: b :: _ => (char? a b).map (.char 2)
  | _ => none

end BundleHost.Charset.Chinese
