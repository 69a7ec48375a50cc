import BundleHost.Http.Headers
import BundleHost.Value.Json

/-! Requests and responses. A path is what the request asks for after percent escapes were
read; a response has its body as one piece. A method is a text and a status a number, unless a
server or a handler from elsewhere gave something else in their place. -/

namespace BundleHost

structure Request where
  method : Value := .text "GET"
  path : Text := "/"
  query : Text := []
  headers : Headers := []
  /-- The parts of the client's address, if it is known. -/
  client : Option (List Value) := none
deriving Repr

def Request.hasMethod (r : Request) (name : Text) : Bool :=
  match r.method with
  | .text method => method == name
  | _ => false

/-- How the body is coded when it is sent. The compressed octets are left to the server. -/
inductive Coding
  | identity
  | gzip
deriving DecidableEq, Repr

structure Response where
  status : Value
  headers : Headers := []
  body : ByteArray := .empty
  coding : Coding := .identity

instance : Inhabited Response := ⟨⟨.int 200, [], .empty, .identity⟩⟩

namespace Response

def jsonType : Text := "application/json"

/-- Texts are declared to be in UTF-8. -/
def withCharset (mediaType : Text) : Text :=
  if ("text/" : Text).isPrefixOf mediaType &&
      !Text.occursIn "charset=" (Text.lower mediaType) then
    mediaType ++ ("; charset=utf-8" : Text)
  else mediaType

/-- The headers that describe a body. -/
def contentHeaders (mediaType : Text) (body : ByteArray) : Headers :=
  [("content-length", Text.ofNat body.size), ("content-type", withCharset mediaType)]

def ofContent (status : Nat) (headers : List (Text × Text)) (mediaType : Text)
    (body : ByteArray) : Response where
  status := .int status
  headers := Headers.ofList headers ++ contentHeaders mediaType body
  body := body

def plainText (status : Nat) (headers : List (Text × Text)) (message : Text) : Response :=
  ofContent status headers "text/plain" (Text.utf8 message)

def json (status : Nat) (headers : List (Text × Text)) (v : Value) : Response :=
  ofContent status headers jsonType (Text.utf8 v.toJson)

def redirect (location : Text) : Response where
  status := .int 307
  headers := [("content-length", "0"), ("location", location)]

end Response
end BundleHost
