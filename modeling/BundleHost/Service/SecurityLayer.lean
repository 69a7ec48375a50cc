import BundleHost.Http.HeaderValue
import BundleHost.Security.Render
import BundleHost.Service.Exchange

/-! The layer that adds the security headers. A header can only be sent if all of its characters
are among the first 256; a value with other ones turns the response into a failure. -/

namespace BundleHost.Security

def logger : Text := "assetdock.middleware.security_headers"

/-- The first of the headers to be added that cannot be sent. -/
def unsendable? (rendered : List (Text × Text)) (h : Headers) : Option Text :=
  (rendered.find? fun field => !h.contains field.1 && !HeaderValue.isSendable field.2).map Prod.snd

def layer (rendered : List (Text × Text)) : Layer := fun inner id request =>
  (inner id request).bindResponse fun response =>
    match unsendable? rendered response.headers with
    | some value => .error (.unencodable (HeaderValue.complaint value))
    | none => .ok { response with headers := secure rendered response.headers }

def enabledRecord (rendered : List (Text × Text)) : Log.Record where
  level := .debug
  logger := logger
  message := ("Security headers enabled: " : Text) ++
    (if rendered.isEmpty then ("none" : Text) else Text.join ", " (rendered.map Prod.fst))

end BundleHost.Security
