import BundleHost.Http.Headers
import BundleHost.Security.Config
import BundleHost.Value.Written

/-! The headers that a configuration stands for, and how they are added to a response. A
configuration with an age that cannot be written stands for none. A header that the response has
already is left alone. -/

namespace BundleHost.Security

/-- The value of the first header, with the age in writing. -/
def TransportSection.valueWith (t : TransportSection) (age : Text) : Text :=
  ("max-age=" : Text) ++ age ++
    (if t.includeSubdomains then ("; includeSubDomains" : Text) else []) ++
    (if t.preload then ("; preload" : Text) else [])

def TransportSection.value (t : TransportSection) : Except Failure Text :=
  (writtenNat t.maxAge).map t.valueWith

def FrameSection.value (f : FrameSection) : Text :=
  match f.policy with
  | .allowFrom => Text.strip (FramePolicy.allowFrom.label ++ ' ' :: f.allowFrom.getD [])
  | policy => policy.label

def ContentSection.headerName (c : ContentSection) : Text :=
  if c.reportOnly then "Content-Security-Policy-Report-Only" else "Content-Security-Policy"

def headerIf (condition : Bool) (name value : Text) : List (Text × Text) :=
  if condition then [(name, value)] else []

/-- The headers of the sections, in the order in which they are added, with the value of the first
one. -/
def Config.headersWith (c : Config) (transport : Text) : List (Text × Text) :=
  headerIf c.transport.enabled "Strict-Transport-Security" transport ++
  headerIf c.contentTypeOptions "X-Content-Type-Options" "nosniff" ++
  headerIf c.frame.enabled "X-Frame-Options" c.frame.value ++
  headerIf c.xssProtection "X-XSS-Protection" "1; mode=block" ++
  headerIf (c.content.enabled && !c.content.policy.isEmpty) c.content.headerName
    c.content.policy ++
  headerIf c.referrer.enabled "Referrer-Policy" c.referrer.policy.label ++
  headerIf (c.permissions.enabled && !c.permissions.policy.isEmpty) "Permissions-Policy"
    c.permissions.policy

def Config.headers (c : Config) : Except Failure (List (Text × Text)) :=
  if !c.enabled then .ok []
  else if !c.transport.enabled then .ok (c.headersWith [])
  else c.transport.value.map c.headersWith

/-- A result, with the fact that it is the result. -/
def proven {ε α : Type} : (x : Except ε α) → Except ε { a // x = .ok a }
  | .ok a => .ok ⟨a, rfl⟩
  | .error e => .error e

theorem proven_of_eq {ε α : Type} {x : Except ε α} {a : α} (h : x = .ok a) :
    proven x = .ok ⟨a, h⟩ := by
  subst h
  rfl

/-- The response headers with the headers of a configuration added. -/
def secure (rendered : List (Text × Text)) (h : Headers) : Headers :=
  rendered.foldl (fun h field => h.setNew field.1 field.2) h

end BundleHost.Security
