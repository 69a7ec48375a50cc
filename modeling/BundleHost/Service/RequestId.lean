import BundleHost.Service.Exchange

/-! The identifier under which a request goes. A client may choose it, if its choice is short and
made of harmless characters; otherwise the service takes a fresh one. It is sent back with the
response. -/

namespace BundleHost.RequestId

def header : Text := "X-Request-ID"

def maxLength : Nat := 64

/-- Characters that cannot do harm in a log line or a header. -/
def isSafe (c : Char) : Bool :=
  c.isAlphanum || c == '.' || c == '_' || c == ':' || c == '-'

/-- Whether the choice of a client is used. One line break at its end is let through. -/
def accepts (candidate : Text) : Bool :=
  candidate.length ≤ maxLength && !(Text.dropLastBreak candidate).isEmpty &&
    (Text.dropLastBreak candidate).all isSafe

/-- The same about a value. Only what has a length can be refused for it, and only a text can
have the right characters. -/
def acceptsValue : Value → Except Failure Bool
  | .text t => .ok (accepts t)
  | .list items => ofLength items.length
  | .record fields => ofLength fields.length
  | _ => .error (.wrongType [])
where
  ofLength (n : Nat) : Except Failure Bool :=
    if n = 0 || maxLength < n then .ok false else .error (.wrongType [])

/-- A fresh identifier: random bits, written in eight hexadecimal digits. -/
def fresh (bits : BitVec 32) : Text := Text.hex false 8 bits.toNat

def choose (freshId : Text) (request : Request) : Text :=
  match request.headers.get? header with
  | some candidate => if accepts candidate then candidate else freshId
  | none => freshId

/-- Chooses the identifier, and sends it back with the response. -/
def layer (occasion : Occasion) : Layer := fun inner _ request =>
  let id := choose occasion.freshId request
  { (inner id request).mapHeaders fun h => h.set header id with requestId := id }

end BundleHost.RequestId
