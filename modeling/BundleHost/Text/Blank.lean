import BundleHost.Text.Basic

/-! The white space of Unicode text, as it is dropped around configuration values and around
the items of a list. Format characters such as the zero width space are not in it. -/

namespace BundleHost.Text

/-- The code points of white space outside the unbroken ranges. -/
def blankPoints : List Nat := [0x85, 0xA0, 0x1680, 0x2028, 0x2029, 0x202F, 0x205F, 0x3000]

def isBlank (c : Char) : Bool :=
  let n := c.toNat
  (0x09 ≤ n && n ≤ 0x0D) || (0x1C ≤ n && n ≤ 0x20) || (0x2000 ≤ n && n ≤ 0x200A) ||
    blankPoints.contains n

/-- White space around a number; separators of data are not among it. -/
def isNumberBlank (c : Char) : Bool := isBlank c && !(0x1C ≤ c.toNat && c.toNat ≤ 0x1F)

def strip (t : Text) : Text := trim isBlank t

def isSlash (c : Char) : Bool := c == '/'

theorem not_isBlank_slash : isBlank '/' = false := by decide

/-- The items between commas, trimmed, blank ones left out. -/
def commaList (t : Text) : List Text :=
  ((split ',' t).map strip).filter fun item => !item.isEmpty

end BundleHost.Text
