import BundleHost.Resolution.Resolver
import BundleHost.Value.Key
import BundleHost.Value.Use

/-! A resolver whose namespace need not be a text, and questions to it about keys and paths that
need not be texts. The namespace is written into the key of the root document, whatever it is; it
has to be a text only where a key is compared with it, which is the case for every key that is not
the key of a file. -/

namespace BundleHost

def Key.ofValues (ns path : Value) : Except Failure Text := do
  let path ← path.asText
  let ns ← ns.asStart
  return Key.ofPath ns path

structure GivenResolver where
  /-- The resolver with the namespace as it is written. -/
  resolver : Resolver
  ns : Value

namespace GivenResolver

def texts (vs : List Value) : Except Failure (List Text) := vs.mapM Value.asText

def make (registry : Registry) (ns rootDocument apiPrefixes : Value) :
    Except Failure GivenResolver := do
  let root ← rootDocument.asText
  let items ← apiPrefixes.elements
  let prefixes ← texts items
  return { resolver := Resolver.make registry ns.plain root prefixes, ns }

def isApiRoute (g : GivenResolver) (key : Value) : Except Failure Bool := do
  let key ← key.asText
  let _ ← g.ns.asStart
  return g.resolver.isApiRoute key

/-- Whether a key can be a route of the client. A value that counts as a yes is an answer by
itself. -/
def fallbackEligible (key directoryRoute : Value) : Except Failure Value :=
  if directoryRoute.holds then .ok directoryRoute
  else key.asText.map fun key => .bool (Resolver.fallbackEligible key false)

/-- Resolves a key. The key of a file is found whatever the namespace is. -/
def resolve (g : GivenResolver) (key directoryRoute : Value) : Except Failure Outcome :=
  match key with
  | .text k =>
    if g.resolver.registry.contains k then .ok (g.resolver.resolve k directoryRoute.holds)
    else g.ns.asStart.map fun _ => g.resolver.resolve k directoryRoute.holds
  | other => .error (if other.isKey then .lacking [] else .wrongType [])

def resolveRequest (g : GivenResolver) (path : Value) : Except Failure Outcome := do
  let path ← path.asText
  let _ ← g.ns.asStart
  return g.resolver.resolveRequest path

theorem resolve_of_text {g : GivenResolver} {ns : Text} (h : g.ns = .text ns) (key : Text)
    (directoryRoute : Bool) :
    g.resolve (.text key) (.bool directoryRoute) = .ok (g.resolver.resolve key directoryRoute) := by
  simp only [resolve, h, Value.asStart, Value.holds, Except.map]
  split <;> rfl

end GivenResolver
end BundleHost
