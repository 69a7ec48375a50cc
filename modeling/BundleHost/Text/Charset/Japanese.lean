import BundleHost.Text.Charset.JapaneseGrids

/-! Japanese text. The planes of the standards are written in two ways: with octets above A0, where
single octets say which plane or which kana follow, or shifted between the octets that are left free
by kana of half width. -/

namespace BundleHost.Charset.Japanese

inductive Edition
  | jis0208
  | jis0213of2000
  | jis0213of2004
deriving DecidableEq, Repr

/-! ### Planes -/

/-- The cells whose characters are only in the later edition. -/
def laterCells : List (Nat × Nat) := [
  (0x2E, 0x21), (0x2F, 0x7E), (0x4F, 0x54), (0x4F, 0x7E), (0x74, 0x27), (0x7E, 0x7A), (0x7E, 0x7B),
  (0x7E, 0x7C), (0x7E, 0x7D), (0x7E, 0x7E)]

def markedLetters : List ((Nat × Nat) × (Nat × Nat)) := [
  ((0x24, 0x77), (0x304B, 0x309A)), ((0x24, 0x78), (0x304D, 0x309A)),
  ((0x24, 0x79), (0x304F, 0x309A)), ((0x24, 0x7A), (0x3051, 0x309A)),
  ((0x24, 0x7B), (0x3053, 0x309A)), ((0x25, 0x77), (0x30AB, 0x309A)),
  ((0x25, 0x78), (0x30AD, 0x309A)), ((0x25, 0x79), (0x30AF, 0x309A)),
  ((0x25, 0x7A), (0x30B1, 0x309A)), ((0x25, 0x7B), (0x30B3, 0x309A)),
  ((0x25, 0x7C), (0x30BB, 0x309A)), ((0x25, 0x7D), (0x30C4, 0x309A)),
  ((0x25, 0x7E), (0x30C8, 0x309A)), ((0x26, 0x78), (0x31F7, 0x309A)),
  ((0x2B, 0x44), (0x00E6, 0x0300)), ((0x2B, 0x48), (0x0254, 0x0300)),
  ((0x2B, 0x49), (0x0254, 0x0301)), ((0x2B, 0x4A), (0x028C, 0x0300)),
  ((0x2B, 0x4B), (0x028C, 0x0301)), ((0x2B, 0x4C), (0x0259, 0x0300)),
  ((0x2B, 0x4D), (0x0259, 0x0301)), ((0x2B, 0x4E), (0x025A, 0x0300)),
  ((0x2B, 0x4F), (0x025A, 0x0301)), ((0x2B, 0x65), (0x02E9, 0x02E5)),
  ((0x2B, 0x66), (0x02E5, 0x02E9))]

def markedLetter? (row cell : Nat) : Option Text :=
  (markedLetters.lookup (row, cell)).map fun p => [Char.ofNat p.1, Char.ofNat p.2]

def first? (e : Edition) (row cell : Nat) : Option Text :=
  let base := (Grid.jis0208.planeCell? row cell).map fun c => [c]
  if e = .jis0208 then base
  else if e = .jis0213of2000 && laterCells.contains (row, cell) then none
  else base.or ((Grid.jis0213.planeCell? row cell).map fun c => [c]) |>.or (markedLetter? row cell)

def second? (row cell : Nat) : Option Text :=
  (Grid.jis0213Second.planeCell? row cell).map fun c => [c]

def supplementary? (row cell : Nat) : Option Text :=
  (Grid.jis0212.planeCell? row cell).map fun c => [c]

/-! ### Octets above A0 -/

/-- The octet before a kana of half width, and the one before a cell of another plane. -/
def kanaMark : Nat := 0x8E

def planeMark : Nat := 0x8F

/-- The tilde of full width has a cell of its own only here. -/
def extendedFirst? (e : Edition) (row cell : Nat) : Option Text :=
  if e != .jis0208 && row = 0x22 && cell = 0x32 then some ['\uFF5E'] else first? e row cell

/-- The later editions have a plane of their own before the supplementary one. Of one character they
give different forms. -/
def extendedSecond? (e : Edition) (row cell : Nat) : Option Text :=
  match e with
  | .jis0208 => supplementary? row cell
  | .jis0213of2000 =>
    if row = 0x7D && cell = 0x3B then some ['\u9B1D']
    else (second? row cell).or (supplementary? row cell)
  | .jis0213of2004 => (second? row cell).or (supplementary? row cell)

def extended? (e : Edition) : List Nat → Option Found
  | a :: b :: rest =>
    if a = kanaMark then (kana? b).map (.char 2)
    else if a = planeMark then
      match rest with
      | c :: _ =>
        if b < 0x80 || c < 0x80 then none
        else (extendedSecond? e (b - 0x80) (c - 0x80)).map fun t => ⟨3, t⟩
      | [] => none
    else if a < 0x80 || b < 0x80 then none
    else (extendedFirst? e (a - 0x80) (b - 0x80)).map fun t => ⟨2, t⟩
  | _ => none

/-! ### Shifted octets -/

/-- The row and the cell of two shifted octets, counted from nothing, over both planes. -/
def shiftedCell? (a b : Nat) : Option (Nat × Nat) :=
  if !((0x81 ≤ a && a ≤ 0x9F) || (0xE0 ≤ a && a ≤ 0xFC)) then none
  else if b < 0x40 || b = 0x7F || 0xFC < b then none
  else
    let pair := if a < 0xE0 then a - 0x81 else a - 0xC1
    let place := if b < 0x80 then b - 0x40 else b - 0x41
    some (2 * pair + place / 94, place % 94)

def planeRows : Nat := 94

/-- The rows of the second plane that are in use, in the order of their octets. -/
def secondRow (n : Nat) : Nat :=
  if n = 1 then 0x28
  else if n < 5 then 0x21 + n
  else if n < 9 then 0x27 + n
  else 0x65 + n

/-- What a cell over both planes stands for. The backslash keeps its width in the later editions. -/
def shiftedText? (e : Edition) (row cell : Nat) : Option Text :=
  if row < planeRows then
    if e != .jis0208 && row = 0 && cell = 0x1F then some ['\\']
    else first? e (row + 0x21) (cell + 0x21)
  else if e = .jis0208 then none
  else if e = .jis0213of2000 && secondRow (row - planeRows) = 0x7D && cell = 0x1A then
    some ['\u9B1D']
  else second? (secondRow (row - planeRows)) (cell + 0x21)

def shifted? (e : Edition) : List Nat → Option Found
  | [] => none
  | a :: rest =>
    match kana? a, rest with
    | some c, _ => some (.char 1 c)
    | none, b :: _ =>
      (shiftedCell? a b).bind fun p => (shiftedText? e p.1 p.2).map fun t => ⟨2, t⟩
    | none, [] => none

/-- The yen sign and the overline are in the place of the backslash and of the tilde. -/
def romanChar (o : Nat) : Char :=
  if o = 0x5C then '¥' else if o = 0x7E then '‾' else Char.ofNat o

/-! ### Windows -/

/-- The characters for private use that are written with two octets, after a first one. -/
def private? (a b : Nat) : Option Found :=
  if 0xF0 ≤ a && a ≤ 0xF9 && 0x40 ≤ b && b ≤ 0xFC && b != 0x7F then
    some (.point 2 (0xE000 + 188 * (a - 0xF0) + (if b < 0x80 then b - 0x40 else b - 0x41)))
  else none

/-- The octets that no standard uses stand for themselves or for characters for private use. -/
def freeOctet? (a : Nat) : Option Found :=
  if a = 0x80 then some (.point 1 0x80)
  else if a = 0xA0 then some (.point 1 0xF8F0)
  else if 0xFD ≤ a then some (.point 1 (0xF8F1 + (a - 0xFD)))
  else (kana? a).map (.char 1)

def windows? : List Nat → Option Found
  | [] => none
  | a :: rest =>
    match freeOctet? a, rest with
    | some found, _ => some found
    | none, b :: _ =>
      (private? a b).or <| (shiftedCell? a b).bind fun p =>
        ((Grid.windowsJapanese.cell? (94 * p.1 + p.2)).or
          (Grid.jis0208.cell? (94 * p.1 + p.2))).map (.char 2)
    | none, [] => none

end BundleHost.Charset.Japanese
