import BundleHost.Fault
import BundleHost.Http.HeaderValue
import BundleHost.Http.Message
import BundleHost.Resolution.Outcome
import BundleHost.Value.Written

/-! The response to a resolved request. Files are sent with their type and cache policy; a miss
is a plain text that no cache may keep. Every one of these responses forbids the client to
guess at another type. The age up to which a file may be kept is a whole number of seconds, but
any value that can be written is put into the policy as it is. -/

namespace BundleHost.Outcome

def defaultMaxAge : Value := .int 31536000

/-- The policy of a file that does not change, with its age in writing. -/
def lasting (age : Text) : Text :=
  ("public, max-age=" : Text) ++ age ++ (", immutable" : Text)

def cacheControl (policy : CachePolicy) (maxAge : Value) : Except Failure Text :=
  match policy with
  | .immutable => maxAge.written.map lasting
  | .noCache => .ok "no-cache"

def noStore : Text := "no-store"

def noSniff : Text × Text := ("X-Content-Type-Options", "nosniff")

def unavailableMessage : Text :=
  ("Admin interface not available. " : Text) ++
    ("The UI bundle was not built into this deployment: build the admin UI and point " : Text) ++
    ("ASSET_DIR at its output directory, then restart the server." : Text)

def notFoundMessage (key : Text) : Text := ("Asset not found: " : Text) ++ key

def missMessage (key : Text) : MissReason → Text
  | .notFound => notFoundMessage key
  | .bundleUnavailable => unavailableMessage

def missStatus : MissReason → Nat
  | .notFound => 404
  | .bundleUnavailable => 503

def sendAsset (asset : ServedAsset) (policy : Text) : Response :=
  .ofContent 200 [noSniff, ("Cache-Control", policy)] asset.mimeType asset.payload

/-- The cache policy that is sent with an outcome. -/
def policy (o : Outcome) (maxAge : Value) : Except Failure Text :=
  match o.asset? with
  | some asset => cacheControl asset.cachePolicy maxAge
  | none => .ok noStore

def answer (o : Outcome) (policy : Text) : Response :=
  match o with
  | hit _ asset => sendAsset asset policy
  | fallback _ asset => sendAsset asset policy
  | miss key reason =>
    .plainText (missStatus reason) [noSniff, ("Cache-Control", policy)] (missMessage key reason)

/-- The response, if its cache policy can be written and sent. -/
def respond (o : Outcome) (maxAge : Value) : Except Failure Response :=
  (o.policy maxAge).bind fun policy =>
    if HeaderValue.isSendable policy then .ok (o.answer policy)
    else .error (.unencodable (HeaderValue.complaint policy))

theorem status_answer (o : Outcome) (policy : Text) :
    (o.answer policy).status = .int ((o.missReason?.map missStatus).getD 200 : Nat) := by
  cases o <;> rfl

end BundleHost.Outcome
