import BundleHost.Http.NumericHost
import BundleHost.Text.Utf8

/-! The query of an address: fields with values, between ampersands. A plus sign stands for a blank,
and percent signs start the escapes of octets. -/

namespace BundleHost.Query

def hexValue (c : Char) : Nat :=
  if c.isDigit then c.toNat - '0'.toNat else c.toLower.toNat - 'a'.toNat + 10

/-- The octets of a text in which escapes stand for themselves otherwise. -/
def unescape : Text → List UInt8
  | [] => []
  | '%' :: a :: b :: r =>
    if NumericHost.isHexDigit a && NumericHost.isHexDigit b then
      (16 * hexValue a + hexValue b).toUInt8 :: unescape r
    else '%'.toNat.toUInt8 :: unescape (a :: b :: r)
  | c :: r => (Text.utf8 [c]).toList ++ unescape r

def decode (t : Text) : Text :=
  Text.ofUtf8 (unescape (t.map fun c => if c = '+' then ' ' else c))

/-- The fields in order. A field without an equals sign has an empty value. -/
def fields (query : Text) : List (Text × Text) :=
  ((Text.split '&' query).filter fun piece => !piece.isEmpty).map fun piece =>
    let name := piece.takeWhile (· != '=')
    (decode name, decode (piece.drop (name.length + 1)))

/-- The value of the last field of a name. -/
def value? (query name : Text) : Option Text :=
  ((fields query).reverse.find? fun field => field.1 = name).map Prod.snd

end BundleHost.Query
