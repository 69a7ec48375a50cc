import BundleHost.Text.Charset.KoreanGrids

/-! Korean text. A syllable has letters in up to three places; the code points of all syllables
follow from the numbers of their letters. The old set has only the syllables that are in use; there
are three ways to write the others: as a row of letters, with further octets, and with five bits for
each place. -/

namespace BundleHost.Charset.Korean

/-! ### Letters -/

def initials : Text := "ㄱㄲㄴㄷㄸㄹㅁㅂㅃㅅㅆㅇㅈㅉㅊㅋㅌㅍㅎ"

def medials : Text := "ㅏㅐㅑㅒㅓㅔㅕㅖㅗㅘㅙㅚㅛㅜㅝㅞㅟㅠㅡㅢㅣ"

/-- The letters of the third place, which may stay empty. -/
def finals : Text := "ㄱㄲㄳㄴㄵㄶㄷㄹㄺㄻㄼㄽㄾㄿㅀㅁㅂㅄㅅㅆㅇㅈㅊㅋㅌㅍㅎ"

def firstSyllable : Nat := 0xAC00

def syllableCount : Nat := 19 * 21 * 28

/-- The syllable of the letters of these numbers; the last number is zero for an empty place. -/
def syllable (initial medial final : Nat) : Char :=
  Char.ofNat (firstSyllable + 588 * initial + 28 * medial + final)

/-! ### The old set -/

def ks1001? (row cell : Nat) : Option Char := Grid.ks1001.planeCell? row cell

/-- The row of letters, and the sign for an empty place. -/
def letterRow : Nat := 0xA4

def emptyPlace : Nat := 0xD4

def letter? (a b : Nat) : Option Char :=
  if a = letterRow && 0x80 ≤ b then ks1001? (letterRow - 0x80) (b - 0x80) else none

def final? (a b : Nat) : Option Nat :=
  if a = letterRow && b = emptyPlace then some 0
  else (letter? a b).bind fun c => (finals.idxOf? c).map (· + 1)

/-- A syllable as a row of letters, after the sign for an empty place. -/
def spelled? : List Nat → Option Found
  | a :: b :: c :: d :: e :: f :: _ => do
    let initial ← (letter? a b).bind fun l => initials.idxOf? l
    let medial ← (letter? c d).bind fun l => medials.idxOf? l
    let final ← final? e f
    return .char 8 (syllable initial medial final)
  | _ => none

def old? : List Nat → Option Found
  | a :: b :: rest =>
    if a = letterRow && b = emptyPlace then spelled? rest
    else if a < 0x80 || b < 0x80 then none
    else (ks1001? (a - 0x80) (b - 0x80)).map (.char 2)
  | _ => none

/-! ### Further octets -/

/-- The syllables of the old set, in increasing order. -/
def oldSyllables : List Nat :=
  ((Grid.ks1001.lines.flatMap String.toList).map Char.toNat).filter fun n =>
    firstSyllable ≤ n && n < firstSyllable + syllableCount

/-- The number of the same place that is left, from a start, when those of an increasing list are
taken away. -/
def nthOther : List Nat → Nat → Nat → Nat
  | [], start, n => start + n
  | taken :: rest, start, n =>
    if n < taken - start then start + n else nthOther rest (taken + 1) (n - (taken - start))

/-- The place of a second octet: there are letters, small letters, and all octets from 81. -/
def furtherPlace? (b : Nat) : Option Nat :=
  if 0x41 ≤ b && b ≤ 0x5A then some (b - 0x41)
  else if 0x61 ≤ b && b ≤ 0x7A then some (b - 0x61 + 26)
  else if 0x81 ≤ b && b ≤ 0xFE then some (b - 0x81 + 52)
  else none

/-- The place of two octets among those for further syllables. The rows are shorter beside the old
set. -/
def further? (a b : Nat) : Option Nat :=
  (furtherPlace? b).bind fun place =>
    if a < 0x81 then none
    else if a < 0xA1 then some (178 * (a - 0x81) + place)
    else if place < 84 then some (178 * 32 + 84 * (a - 0xA1) + place)
    else none

def unified? : List Nat → Option Found
  | a :: b :: _ =>
    let old := if a < 0x80 || b < 0x80 then none else ks1001? (a - 0x80) (b - 0x80)
    let further := (further? a b).bind fun n =>
      let point := nthOther oldSyllables firstSyllable n
      if point < firstSyllable + syllableCount then some (Char.ofNat point) else none
    (old.or further).map (.char 2)
  | _ => none

/-! ### Five bits for each place -/

/-- What five bits say about a place: that it is empty, or which letter is in it. -/
inductive Place
  | empty
  | letter (n : Nat)
deriving DecidableEq, Repr

def initialPlace? (n : Nat) : Option Place :=
  if n = 1 then some .empty else if 2 ≤ n && n ≤ 20 then some (.letter (n - 2)) else none

def medialPlace? (n : Nat) : Option Place :=
  if n = 2 then some .empty
  else if 3 ≤ n && n ≤ 29 && 2 ≤ n % 8 then some (.letter (n - 3 - 2 * (n / 8)))
  else none

def finalPlace? (n : Nat) : Option Place :=
  if n = 1 then some .empty
  else if 2 ≤ n && n ≤ 17 then some (.letter (n - 1))
  else if 19 ≤ n && n ≤ 29 then some (.letter (n - 2))
  else none

/-- The blank of full width. -/
def wideBlank : Char := '\u3000'

/-- The character of three places. Where there is no syllable, there may be one letter. -/
def ofPlaces? : Place → Place → Place → Option Char
  | .empty, .empty, .empty => some wideBlank
  | .letter n, .empty, .empty => initials[n]?
  | .empty, .letter n, .empty => medials[n]?
  | .empty, .empty, .letter n => finals[n - 1]?
  | .letter i, .letter m, .empty => some (syllable i m 0)
  | .letter i, .letter m, .letter f => some (syllable i m f)
  | _, _, _ => none

/-- A sign or a character that is no syllable, by the cell of the old set. -/
def combinedSign? (a b : Nat) : Option Char :=
  if a = 0xDF || 0xF9 < a || b < 0x31 || (0x80 ≤ b && b < 0x91) || b % 0x80 = 0x7F ||
      (a = 0xDA && 0xA1 ≤ b && b ≤ 0xD3) || a < 0xD9 then none
  else
    let pair := if a < 0xE0 then 2 * (a - 0xD9) else 2 * a - 0x197
    let place := if b < 0x91 then b - 0x31 else b - 0x43
    ks1001? (pair + place / 94 + 0x21) (place % 94 + 0x21)

def combined? : List Nat → Option Found
  | a :: b :: _ =>
    if a < 0xD8 then do
      let initial ← initialPlace? (a / 4 % 32)
      let medial ← medialPlace? (a % 4 * 8 + b / 32)
      let final ← finalPlace? (b % 32)
      return .char 2 (← ofPlaces? initial medial final)
    else (combinedSign? a b).map (.char 2)
  | _ => none

end BundleHost.Charset.Korean
