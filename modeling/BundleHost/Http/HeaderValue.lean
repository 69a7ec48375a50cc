import BundleHost.Text.Quoted

/-! Which header values can be sent: those whose characters are all among the first 256. -/

namespace BundleHost.HeaderValue

def isSendableChar (c : Char) : Bool := c.toNat < 256

def isSendable (value : Text) : Bool := value.all isSendableChar

/-- What is said about the first characters that cannot be sent, with their place in the value. -/
def complaint (value : Text) : Text :=
  let place := (value.takeWhile isSendableChar).length
  let rest := value.drop place
  let count := (rest.takeWhile fun c => !isSendableChar c).length
  let what :=
    if count = 1 then
      ("character '" : Text) ++ rest.head?.toList.flatMap (fun c => Text.codeEscape c.toNat) ++
        ("' in position " : Text) ++ Text.ofNat place
    else
      ("characters in position " : Text) ++ Text.ofNat place ++ '-' ::
        Text.ofNat (place + count - 1)
  ("'latin-1' codec can't encode " : Text) ++ what ++ (": ordinal not in range(256)" : Text)

end BundleHost.HeaderValue
