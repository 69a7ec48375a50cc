import BundleHost.Asset.Key
import BundleHost.Asset.MimeType
import BundleHost.Log
import BundleHost.Resolution.Outcome

/-! Resolution of keys against a registry. A key of a file is a hit. Any other key is taken as a
route of the client, and answered with the root document, if its last segment has no dot or the
path ended with a slash; but a key under one of the prefixes of the programming interface is
never answered with a document. -/

namespace BundleHost

structure Resolver where
  registry : Registry
  /-- The start of the keys of the bundle. -/
  ns : Text
  rootKey : Text
  /-- The prefixes of the programming interface, without slashes at their ends. -/
  apiPrefixes : List Text

namespace Resolver

def defaultNamespace : Text := "admin/"
def defaultRootDocument : Text := "index.html"
def defaultApiPrefixes : List Text := ["api/"]

def barePrefix (p : Text) : Text := Text.trim Text.isSlash p

/-- The bare prefixes; those made of slashes alone are left out. -/
def barePrefixes (ps : List Text) : List Text :=
  (ps.map barePrefix).filter fun p => !p.isEmpty

/-- The key of a root document that is named relative to the namespace. -/
def rootKeyOf (ns rootDocument : Text) : Text := ns ++ rootDocument.dropWhile Text.isSlash

def make (registry : Registry) (ns rootDocument : Text) (apiPrefixes : List Text) :
    Resolver where
  registry := registry
  ns := ns
  rootKey := rootKeyOf ns rootDocument
  apiPrefixes := barePrefixes apiPrefixes

def isAvailable (r : Resolver) : Bool := r.registry.contains r.rootKey

/-! ### Rules -/

/-- Whether a key is a prefix or continues it with a slash. -/
def underPrefix (key bare : Text) : Bool := key == bare || (bare ++ ['/']).isPrefixOf key

/-- Whether a key, with or without the namespace, is under a prefix of the interface. -/
def isApiRoute (r : Resolver) (key : Text) : Bool :=
  r.apiPrefixes.any fun bare => underPrefix key bare || underPrefix (Key.relative r.ns key) bare

def fallbackEligible (key : Text) (directoryRoute : Bool) : Bool :=
  directoryRoute || !(Key.finalSegment key).contains '.'

/-- A file under its own key. The root document is the one that a client has to ask for again. -/
def served (r : Resolver) (a : Asset) : ServedAsset where
  payload := a.data
  mimeType := MimeType.ofPath a.key
  cachePolicy := if a.key = r.rootKey then .noCache else .immutable
  isFallback := false

/-- The root document in place of a route. -/
def servedRoot (root : Asset) : ServedAsset where
  payload := root.data
  mimeType := MimeType.html
  cachePolicy := .noCache
  isFallback := true

/-! ### Resolution -/

def resolve (r : Resolver) (key : Text) (directoryRoute : Bool) : Outcome :=
  match r.registry.find? key with
  | some a => .hit key (r.served a)
  | none =>
    if r.isApiRoute key || !fallbackEligible key directoryRoute then .miss key .notFound
    else match r.registry.find? r.rootKey with
      | some root => .fallback key (servedRoot root)
      | none => .miss key .bundleUnavailable

def resolveRequest (r : Resolver) (path : Text) : Outcome :=
  r.resolve (Key.ofPath r.ns path) (Key.isDirectoryRoute path)

def logger : Text := "assetdock.services.resolver"

/-- What the log says about an outcome. A hit is not mentioned. -/
def records : Outcome → List Log.Record
  | .hit .. => []
  | .fallback key _ => [⟨.debug, logger, ("SPA fallback for " : Text) ++ key, none⟩]
  | .miss key reason =>
    [⟨.debug, logger, ("Asset miss for " : Text) ++ key ++ (" (" : Text) ++ reason.label ++ [')'],
      none⟩]

/-- A key that is registered is a hit, and no other key is. -/
theorem isHit_resolve (r : Resolver) (key : Text) (directoryRoute : Bool) :
    (r.resolve key directoryRoute).isHit = r.registry.contains key := by
  rw [← Registry.isSome_find?]
  simp only [resolve]
  split
  · next h => simp [h, Outcome.isHit]
  · next h =>
    simp only [h, Option.isSome_none]
    split
    · rfl
    · split <;> rfl

end Resolver
end BundleHost
