import BundleHost.Text.Basic

/-! Hexadecimal digits of a fixed width. -/

namespace BundleHost.Text

def hexDigit (upperCase : Bool) (d : Nat) : Char :=
  if d < 10 then Char.ofNat ('0'.toNat + d)
  else Char.ofNat ((if upperCase then 'A' else 'a').toNat + (d - 10))

/-- The lowest `width` digits of a number, the highest of them first. -/
def hex (upperCase : Bool) : Nat → Nat → Text
  | 0, _ => []
  | width + 1, n => hex upperCase width (n / 16) ++ [hexDigit upperCase (n % 16)]

theorem length_hex (upperCase : Bool) (width n : Nat) : (hex upperCase width n).length = width := by
  induction width generalizing n with
  | zero => rfl
  | succ width ih => simp [hex, ih]

end BundleHost.Text
