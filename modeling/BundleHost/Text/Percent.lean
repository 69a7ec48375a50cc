import BundleHost.Text.Hex

/-! Percent escapes in addresses. A character outside the kept ones becomes the escapes of its
octets in UTF-8. -/

namespace BundleHost.Text

/-- Letters, digits and the four marks that never need an escape. -/
def isUnreserved (c : Char) : Bool :=
  c.isAlphanum || c == '_' || c == '.' || c == '-' || c == '~'

/-- The punctuation of an address that is already in the right place. -/
def addressMarks : Text := ":/%#?=@[]!$&'()*+,;"

def percentOctet (b : UInt8) : Text := '%' :: hex true 2 b.toNat

/-- An address fit for a header: what is neither unreserved nor a mark is escaped. -/
def percentEncode (t : Text) : Text :=
  t.flatMap fun c =>
    if isUnreserved c || addressMarks.contains c then [c]
    else (utf8 [c]).toList.flatMap percentOctet

/-- The characters that would end the path of an address, or be read as a slash. -/
def endsPath (c : Char) : Bool := c == '?' || c == '#' || c == '\\'

/-- A request path as the path part of an address. -/
def escapePath (path : Text) : Text :=
  path.flatMap fun c => if endsPath c then '%' :: hex true 2 c.toNat else [c]

end BundleHost.Text
