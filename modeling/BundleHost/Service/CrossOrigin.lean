import BundleHost.Service.Exchange

/-! The layer for requests that pages of other origins make. Before such a request a browser may
ask if it is allowed, and that question is answered here. Other requests go on, and the response
says which origin may read it. -/

namespace BundleHost.CrossOrigin

def anyOrigin : Text := "*"

def methods : List Text :=
  ["DELETE", "GET", "HEAD", "OPTIONS", "PATCH", "POST", "PUT", "QUERY"]

/-- For how many seconds a browser may keep the answer to its question. -/
def maxAge : Nat := 600

def exposedHeader : Text := "X-Request-ID"

def isAllowed (origins : List Text) (origin : Text) : Bool :=
  origins.contains anyOrigin || origins.contains origin

/-! ### Questions -/

/-- The method that a browser asks about, if the request is such a question. -/
def askedMethod? (request : Request) : Option Text :=
  if request.hasMethod "OPTIONS" && request.headers.contains "origin" then
    request.headers.get? "access-control-request-method"
  else none

def refusals (origins : List Text) (origin method : Text) (privateNetwork : Bool) : List Text :=
  (if isAllowed origins origin then [] else ["origin".toList]) ++
    (if methods.contains method then [] else ["method".toList]) ++
    (if privateNetwork then ["private-network".toList] else [])

/-- The request headers on which the answer to a question depends. -/
def questionVary : Text := Text.join ", " [
  "Origin", "Access-Control-Request-Method", "Access-Control-Request-Headers",
  "Access-Control-Request-Private-Network"]

def headerOf (name : Text) (value : Option Text) : List (Text × Text) :=
  value.toList.map fun v => (name, v)

def answer (origins : List Text) (origin method : Text) (request : Request) : Response :=
  let refused := refusals origins origin method
    (request.headers.contains "access-control-request-private-network")
  let fixed : List (Text × Text) := [
    ("vary", questionVary),
    ("access-control-allow-methods", Text.join ", " methods),
    ("access-control-max-age", Text.ofNat maxAge),
    ("access-control-allow-credentials", "true")]
  let headers := fixed ++
    headerOf "access-control-allow-origin"
      (if isAllowed origins origin then some origin else none) ++
    headerOf "access-control-allow-headers"
      (request.headers.get? "access-control-request-headers")
  if refused.isEmpty then .plainText 200 headers "OK"
  else .plainText 400 headers (("Disallowed CORS " : Text) ++ Text.join ", " refused)

/-! ### Other requests -/

def share (origins : List Text) (origin : Option Text) (h : Headers) : Headers :=
  let h := match origin with
    | none => h
    | some o =>
      let h := (h.set "access-control-allow-credentials" "true").set
        "access-control-expose-headers" exposedHeader
      if isAllowed origins o then h.set "access-control-allow-origin" o else h
  h.addVary "Origin"

def layer (origins : List Text) : Layer := fun inner id request =>
  let origin := request.headers.get? "origin"
  match askedMethod? request with
  | some method =>
    { requestId := id, result := .ok (answer origins (origin.getD []) method request) }
  | none => (inner id request).mapHeaders (share origins origin)

end BundleHost.CrossOrigin
