import BundleHost.Fault
import BundleHost.Http.Message
import BundleHost.Http.NumericHost
import BundleHost.Text.Percent

/-! The addresses of a request as the service sees them: its own one, with the host that the client
named, if that is a host at all, and the path with the characters escaped that would end it; and
that of the client. -/

namespace BundleHost.Address

def fallbackHost : Text := "test"

def isHostChar (c : Char) : Bool :=
  Text.isUnreserved c || ("!$&'()*+,;=%" : Text).contains c

def highestPort : Nat := 65535

def isPort (t : Text) : Bool :=
  !t.isEmpty && t.all Char.isDigit && Text.digitsValue t ≤ highestPort

/-- What may follow the host: nothing, or a colon and a port. -/
def isPortPart : Text → Bool
  | [] => true
  | c :: port => c == ':' && isPort port

def isHost : Text → Bool
  | '[' :: rest =>
    let address := rest.takeWhile (· != ']')
    match rest.drop address.length with
    | _ :: port =>
      (NumericHost.isAddress address || NumericHost.isFutureAddress address) && isPortPart port
    | [] => false
  | t => (t.head?.any isHostChar) && isPortPart (t.dropWhile isHostChar)

def host (request : Request) : Text :=
  match request.headers.get? "host" with
  | some named => if isHost named then named else fallbackHost
  | none => fallbackHost

/-- Characters that an address loses. -/
def isDropped (c : Char) : Bool := c == '\t' || c == '\n' || c == '\r'

/-- A path as it follows a host: with the escapes that it needs, and with a slash at its start
unless it is empty. -/
def rooted (path : Text) : Text :=
  match Text.escapePath path with
  | [] => []
  | c :: r => if c = '/' then c :: r else '/' :: c :: r

def path (request : Request) : Text := (rooted request.path).filter fun c => !isDropped c

/-- The address of another path on the same host, with the query of the request. -/
def redirectTo (request : Request) (target : Text) : Text :=
  let query := if request.query = [] then [] else '?' :: request.query
  Text.percentEncode (("http://" : Text) ++ host request ++ rooted target ++ query)

/-! ### The client -/

def partsText (count : Nat) : Text :=
  ("Address.__new__() " : Text) ++
    if count = 0 then ("missing 2 required positional arguments: 'host' and 'port'" : Text)
    else if count = 1 then ("missing 1 required positional argument: 'port'" : Text)
    else ("takes 3 positional arguments but " : Text) ++ Text.ofNat (count + 1) ++
      (" were given" : Text)

def unknownClient : Text := "unknown"

/-- The host of the client, which comes before a port in its address. -/
def clientHost (request : Request) : Except Failure Value :=
  match request.client with
  | none => .ok (.text unknownClient)
  | some [host, _] => .ok host
  | some parts => .error (.wrongType (partsText parts.length))

end BundleHost.Address
