import BundleHost.Text.Charset.Chinese
import BundleHost.Text.Charset.Japanese
import BundleHost.Text.Charset.Korean

/-! Text in octets below 80, in which sequences that start with an escape character say which set
of characters the octets after them belong to. Such a sequence puts a set into one of three places:
the first holds at the start, the second between shifts, and the third for single characters. A way
of writing allows certain sets, shifts or no shifts, and the third place or only two. -/

namespace BundleHost.Charset

inductive Designated.Plane
  | ascii
  | roman
  | kana
  | japanese (edition : Japanese.Edition)
  | japaneseSecond
  | japaneseSupplementary
  | chinese
  | korean
  | western
  | greek
deriving DecidableEq, Repr

/-- What a way of writing allows. -/
structure Designated where
  single : List (Nat × Designated.Plane) := []
  double : List (Nat × Designated.Plane) := []
  hasShifts : Bool := false
  hasThirdPlace : Bool := false
  /-- Whether a set may be announced by a sequence before its own. -/
  hasAnnouncements : Bool := true
deriving DecidableEq, Repr

namespace Designated

/-! ### Ways of writing -/

def korean : Designated where
  double := [(0x43, .korean)]
  hasShifts := true
  hasAnnouncements := false

/-- The set of Roman letters and the two editions of the oldest plane, which all Japanese ways but
the latest ones share. -/
def japanese : Designated where
  single := [(0x4A, .roman)]
  double := [(0x42, .japanese .jis0208), (0x40, .japanese .jis0208)]

def japaneseMore : Designated :=
  { japanese with double := japanese.double ++ [(0x44, .japaneseSupplementary)] }

def japaneseKana : Designated :=
  { japaneseMore with single := japaneseMore.single ++ [(0x49, .kana)] }

def multilingual : Designated where
  single := japanese.single ++ [(0x41, .western), (0x46, .greek)]
  double := japaneseMore.double ++ [(0x43, .korean), (0x41, .chinese)]
  hasThirdPlace := true

/-- With the planes of an edition of JIS X 0213. -/
def japaneseLater (final : Nat) (edition : Japanese.Edition) : Designated where
  double := [(0x42, .japanese .jis0208), (final, .japanese edition), (0x50, .japaneseSecond)]

def japanese2000 : Designated := japaneseLater 0x4F .jis0213of2000

def japanese2004 : Designated := japaneseLater 0x51 .jis0213of2004

/-! ### Characters -/

def Plane.width : Plane → Nat
  | ascii | roman | kana | western | greek => 1
  | _ => 2

/-- A character of a plane in the first or the second place. The sets of Western and of Greek
letters have their characters only in the third. -/
def Plane.text? : Plane → Nat → Nat → Option Text
  | ascii, a, _ => some [Char.ofNat a]
  | roman, a, _ => some [Japanese.romanChar a]
  | kana, a, _ => (kana? (a + 0x80)).map fun c => [c]
  | japanese e, a, b => Japanese.first? e a b
  | japaneseSecond, a, b => Japanese.second? a b
  | japaneseSupplementary, a, b => Japanese.supplementary? a b
  | chinese, a, b => (Chinese.gb2312? (a + 0x80) (b + 0x80)).map fun c => [c]
  | korean, a, b => (Korean.ks1001? a b).map fun c => [c]
  | western, _, _ => none
  | greek, _, _ => none

/-- Signs of the Greek set that are those of the Western one. -/
def greekSigns : List Nat := [
  0xA0, 0xA3, 0xA6, 0xA7, 0xA8, 0xA9, 0xAB, 0xAC, 0xAD, 0xB0, 0xB1, 0xB2, 0xB3, 0xB7, 0xBB, 0xBD]

def greek? (o : Nat) : Option Char :=
  if o < 0xA0 || greekSigns.contains o then some (Char.ofNat o)
  else if o = 0xA1 then some '‘'
  else if o = 0xA2 then some '’'
  else if o = 0xAF then some '―'
  else if 0xB4 ≤ o && o ≤ 0xFE && o != 0xD2 then some (Char.ofNat (0x2D0 + o))
  else none

/-- A single character of the set in the third place. -/
def Plane.third? : Plane → Nat → Option Char
  | ascii, o => if o < 0x80 then some (Char.ofNat o) else none
  | western, o => if o < 0x80 then some (Char.ofNat (o + 0x80)) else none
  | greek, o => greek? (if o < 0x80 then o + 0x80 else o - 0x80)
  | _, _ => none

/-! ### Sequences -/

def escape : Nat := 0x1B

/-- Whether an octet ends a sequence. -/
def endsSequence (o : Nat) : Bool := (0x41 ≤ o && o ≤ 0x5A) || o = 0x40

structure State where
  first : Plane := .ascii
  second : Plane := .ascii
  third : Plane := .ascii
  isShifted : Bool := false
  /-- Whether a sequence that puts no set anywhere has not ended yet. -/
  isPassing : Bool := false

def State.put (s : State) (place : Nat) (p : Plane) : State :=
  if place = 0 then { s with first := p }
  else if place = 1 then { s with second := p }
  else { s with third := p }

def single? (d : Designated) (o : Nat) : Option Plane :=
  if o = 0x42 then some .ascii else d.single.lookup o

def place? (d : Designated) (o : Nat) : Option Nat :=
  if o = 0x28 then some 0
  else if o = 0x29 then some 1
  else if o = 0x2E && d.hasThirdPlace then some 2
  else none

/-- The set of a sequence and its place. An announcement may have any two octets. -/
def designation? (d : Designated) : List Nat → Option (Nat × Plane)
  | [0x24, final] => (d.double.lookup final).map fun p => (0, p)
  | [place, final] => do return (← d.place? place, ← d.single? final)
  | [0x24, place, final] => do
    let n ← d.place? place
    if n = 2 then none else return (n, ← d.double.lookup final)
  | [_, _, 0x1B, 0x24, 0x42] =>
    if d.hasAnnouncements then (d.double.lookup 0x42).map fun p => (0, p) else none
  | _ => none

/-- How long a sequence can be at most, with its escape character. -/
def longestSequence : Nat := 16

/-- How many octets a sequence has after so many of its octets. An announcement does not end it. -/
def sequenceLength? (d : Designated) : Nat → Nat → List Nat → Option Nat
  | _, _, [] => none
  | n, skipped + 1, _ :: rest => sequenceLength? d (n + 1) skipped rest
  | n, 0, o :: rest =>
    if longestSequence ≤ n then none
    else if endsSequence o then some (n + 1)
    else if d.hasAnnouncements && o = 0x26 && rest.head? = some 0x40 then
      sequenceLength? d (n + 1) 2 rest
    else sequenceLength? d (n + 1) 0 rest

def startsDesignation (o : Nat) : Bool := [0x28, 0x29, 0x24, 0x2E, 0x26].contains o

def afterEscape? (d : Designated) (s : State) : List Nat → Option (Found × State)
  | [] => none
  | o :: rest =>
    if startsDesignation o then do
      let length ← d.sequenceLength? 1 0 (o :: rest)
      let (place, plane) ← d.designation? ((o :: rest).take (length - 1))
      return (⟨length, []⟩, s.put place plane)
    else if d.hasThirdPlace && o = 0x4E then
      match rest with
      | c :: _ => (s.third.third? c).map fun c => (.char 3 c, s)
      | [] => none
    else some (.point 1 escape, { s with isPassing := true })

def first? (d : Designated) (s : State) : List Nat → Option (Found × State)
  | [] => none
  | o :: rest =>
    if s.isPassing then some (.point 1 o, { s with isPassing := !endsSequence o })
    else if o = escape then d.afterEscape? s rest
    else if o = 0x0F && d.hasShifts then some (⟨1, []⟩, { s with isShifted := false })
    else if o = 0x0E && d.hasShifts then some (⟨1, []⟩, { s with isShifted := true })
    else if o = 0x0A then some (.point 1 o, { s with isShifted := false })
    else if o < 0x20 then some (.point 1 o, s)
    else if 0x80 ≤ o then none
    else
      let plane := if s.isShifted then s.second else s.first
      match plane.width, rest with
      | 1, _ => (plane.text? o 0).map fun t => (⟨1, t⟩, s)
      | _, next :: _ => (plane.text? o next).map fun t => (⟨2, t⟩, s)
      | _, [] => none

/-- Reads from the front, after so many octets that are read already. -/
def readAfter (d : Designated) (s : State) : Nat → List Nat → Except Error Text
  | _, [] => .ok []
  | skipped + 1, _ :: rest => readAfter d s skipped rest
  | 0, o :: rest =>
    match d.first? s (o :: rest) with
    | some (found, s) => (readAfter d s (found.size - 1) rest).map (found.text ++ ·)
    | none => .error .undecodable

def read (d : Designated) (octets : List UInt8) : Except Error Text :=
  d.readAfter {} 0 (octets.map UInt8.toNat)

end Designated
end BundleHost.Charset
