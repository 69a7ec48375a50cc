import BundleHost.Text.Percent

/-! Numeric addresses of hosts, as they stand between brackets in the address of a request: eight
groups of hexadecimal digits, of which one run of zero groups may be left out, and of which the
last two may be written as four decimal numbers. An address of a later version is the number of
the version and a text of which nothing is known. -/

namespace BundleHost.NumericHost

def isHexDigit (c : Char) : Bool :=
  c.isDigit || ('a' ≤ c && c ≤ 'f') || ('A' ≤ c && c ≤ 'F')

def isGroup (t : Text) : Bool := !t.isEmpty && t.length ≤ 4 && t.all isHexDigit

/-- A decimal number of eight bits, without zeros in front of it. -/
def isOctet (t : Text) : Bool :=
  !t.isEmpty && t.length ≤ 3 && t.all Char.isDigit && (t.length = 1 || t.head? != some '0') &&
    Text.digitsValue t ≤ 255

def isQuad (t : Text) : Bool :=
  let octets := Text.split '.' t
  octets.length = 4 && octets.all isOctet

def groupCount : Nat := 8

/-- The pieces between the colons, four numbers at the end counted as two groups. Nothing if these
are not right. -/
def pieces? (t : Text) : Option (List Text) :=
  let pieces := Text.split ':' t
  match pieces.getLast? with
  | some last =>
    if last.contains '.' then
      if isQuad last then some (pieces.dropLast ++ [['0'], ['0']]) else none
    else some pieces
  | none => none

/-- The groups on both sides of the place where groups are left out. An empty piece at an end
belongs to that place if it is next to it. -/
def leavesOut (front back : List Text) : Bool :=
  let front := if front = [[]] then [] else front
  let back := if back = [[]] then [] else back
  front.all isGroup && back.all isGroup && front.length + back.length < groupCount

/-- Whether pieces make up an address: all groups are there, or some are left out at one place. -/
def areGroups (pieces : List Text) : Bool :=
  if pieces.all isGroup then pieces.length = groupCount
  else
    let inner := pieces.drop 1
    let place := 1 + inner.findIdx List.isEmpty
    place + 1 < pieces.length && leavesOut (pieces.take place) (pieces.drop (place + 1))

def isAddress (t : Text) : Bool := (pieces? t).any areGroups

def isFutureChar (c : Char) : Bool :=
  Text.isUnreserved c || ("!$&'()*+,;=:" : Text).contains c

/-- An address of a later version: a small `v`, the number of the version, a point and a text. -/
def isFutureAddress : Text → Bool
  | 'v' :: t =>
    let version := t.takeWhile isHexDigit
    match t.drop version.length with
    | '.' :: address => !version.isEmpty && !address.isEmpty && address.all isFutureChar
    | _ => false
  | _ => false

end BundleHost.NumericHost
