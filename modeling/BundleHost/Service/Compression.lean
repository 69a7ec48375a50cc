import BundleHost.Service.Exchange
import BundleHost.Value.Numeric

/-! The layer that has bodies compressed. Short bodies and bodies of types that are compressed
already, or that are sent bit by bit, are left as they are. The size and the level come from the
settings and may be values of any type; a size that cannot be used shows when it is compared with
that of a body, and a level only when a body is to be compressed. -/

namespace BundleHost.Compression

def excludedTypes : List Text := [
  "application/grpc", "application/gzip", "application/x-gzip", "application/zip", "font/woff",
  "font/woff2", "image/avif", "image/gif", "image/jpeg", "image/png", "image/webp",
  "text/event-stream"]

def excludedStarts : List Text := ["application/grpc+", "audio/", "video/"]

def mediaType (contentType : Text) : Text :=
  Text.lower (Text.strip (contentType.takeWhile (· != ';')))

def isExcluded (contentType : Text) : Bool :=
  let t := mediaType contentType
  excludedTypes.contains t || excludedStarts.any fun start => start.isPrefixOf t

def isBelow (size : Nat) (bound : Value) : Except Failure Bool :=
  match bound.number? with
  | some x => .ok ((Number.ofInt size).lt x)
  | none => .error (.wrongType
      (("'<' not supported between instances of 'int' and '" : Text) ++ bound.typeName ++ ['\'']))

def applies (minimumSize : Value) (r : Response) : Except Failure Bool :=
  if isExcluded ((r.headers.get? "content-type").getD []) then .ok false
  else (isBelow r.body.size minimumSize).map not

def isAccepted (request : Request) : Bool :=
  Text.occursIn "gzip" ((request.headers.get? "accept-encoding").getD [])

/-- The response with its body marked as compressed. The length of the body is then left to the
server. -/
def compress (r : Response) : Response :=
  { r with
    headers := (r.headers.erase "content-length").set "content-encoding" "gzip"
    coding := .gzip }

/-- The bounds of the numbers that a level may be written with. -/
def levelBound : Int := 2147483648

def levelFailure? : Value → Option Failure
  | .bool _ => none
  | .int n =>
    if n < -levelBound ∨ levelBound ≤ n then
      some (.outOfRange "Python int too large to convert to C int")
    else if n < -1 ∨ 9 < n then some (.badValue "Invalid initialization option")
    else none
  | v => some (.wrongType
      ('\'' :: v.typeName ++ ("' object cannot be interpreted as an integer" : Text)))

def answer (level : Value) (request : Request) (r : Response) : Except Failure Response :=
  let sent : Except Failure Response := if isAccepted request then
    match levelFailure? level with
    | some f => .error f
    | none => .ok (compress r)
  else .ok r
  sent.map fun r => { r with headers := r.headers.addVary "Accept-Encoding" }

def respond (minimumSize level : Value) (request : Request) (r : Response) :
    Except Failure Response := do
  if ← applies minimumSize r then answer level request r else return r

def layer (minimumSize level : Value) : Layer := fun inner id request =>
  (inner id request).bindResponse (respond minimumSize level request)

/-- A level from one to nine can be used. -/
theorem levelFailure?_of_mem {n : Int} (least : 1 ≤ n) (most : n ≤ 9) :
    levelFailure? (.int n) = none := by
  have bounds : ¬(n < -levelBound ∨ levelBound ≤ n) := by simp only [levelBound]; omega
  have range : ¬(n < -1 ∨ 9 < n) := by omega
  simp only [levelFailure?, if_neg bounds, if_neg range]

end BundleHost.Compression
