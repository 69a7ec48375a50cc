import BundleHost.Text.Basic

/-! Reading of octets as UTF-8, where octets that are no part of a character become the replacement
character: one for each longest start of a character that breaks off, and one for each octet that
starts none. -/

namespace BundleHost.Text

def replacement : Char := '\uFFFD'

/-- How a first octet goes on: how many octets follow it, the range of the first of these, and the
bits that it gives itself. -/
structure Lead where
  following : Nat
  least : Nat
  greatest : Nat
  bits : Nat

/-- What a first octet announces. Ranges rule out forms that are too long, surrogates, and numbers
beyond the last character. -/
def lead? (b : Nat) : Option Lead :=
  if b < 0x80 then some ⟨0, 0x80, 0xBF, b⟩
  else if b < 0xC2 then none
  else if b < 0xE0 then some ⟨1, 0x80, 0xBF, b - 0xC0⟩
  else if b = 0xE0 then some ⟨2, 0xA0, 0xBF, 0⟩
  else if b = 0xED then some ⟨2, 0x80, 0x9F, 0xD⟩
  else if b < 0xF0 then some ⟨2, 0x80, 0xBF, b - 0xE0⟩
  else if b = 0xF0 then some ⟨3, 0x90, 0xBF, 0⟩
  else if b < 0xF4 then some ⟨3, 0x80, 0xBF, b - 0xF0⟩
  else if b = 0xF4 then some ⟨3, 0x80, 0x8F, 4⟩
  else none

/-- The rest of a character whose first octets have given a number so far. -/
structure Pending where
  lead : Lead
  value : Nat

/-- The character that is complete, and what is still to come. -/
def Pending.ofLead (l : Lead) : List Char × Option Pending :=
  if l.following = 0 then ([Char.ofNat l.bits], none) else ([], some ⟨l, l.bits⟩)

/-- One octet further, inside of a character or at the start of one. -/
def utf8Step (pending : Option Pending) (b : Nat) : List Char × Option Pending :=
  let start : List Char × Option Pending :=
    match lead? b with
    | some l => Pending.ofLead l
    | none => ([replacement], none)
  match pending with
  | none => start
  | some p =>
    if p.lead.least ≤ b && b ≤ p.lead.greatest then
      let value := 64 * p.value + (b - 0x80)
      if p.lead.following = 1 then ([Char.ofNat value], none)
      else ([], some ⟨⟨p.lead.following - 1, 0x80, 0xBF, 0⟩, value⟩)
    else (replacement :: start.1, start.2)

def utf8From (pending : Option Pending) : List UInt8 → Text
  | [] => if pending.isSome then [replacement] else []
  | b :: rest =>
    let step := utf8Step pending b.toNat
    step.1 ++ utf8From step.2 rest

def ofUtf8 (octets : List UInt8) : Text := utf8From none octets

end BundleHost.Text
