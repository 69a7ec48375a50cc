import BundleHost.Asset.Registry

/-! What a key resolves to: a file of the bundle, the root document in place of a route that
only the client knows, or nothing. -/

namespace BundleHost

/-- How long a client may keep an answer without asking again. -/
inductive CachePolicy
  | immutable
  | noCache
deriving DecidableEq, Repr

inductive MissReason
  | notFound
  /-- There is a route but no root document to serve it. -/
  | bundleUnavailable
deriving DecidableEq, Repr

/-- A payload with all that its response says about it. -/
structure ServedAsset where
  payload : ByteArray
  mimeType : Text
  cachePolicy : CachePolicy
  isFallback : Bool

inductive Outcome
  | hit (key : Text) (asset : ServedAsset)
  | fallback (key : Text) (asset : ServedAsset)
  | miss (key : Text) (reason : MissReason)

namespace CachePolicy

def label : CachePolicy → Text
  | immutable => "immutable"
  | noCache => "no_cache"

end CachePolicy

namespace MissReason

def label : MissReason → Text
  | notFound => "not_found"
  | bundleUnavailable => "bundle_unavailable"

end MissReason

namespace Outcome

def label : Outcome → Text
  | hit .. => "hit"
  | fallback .. => "fallback"
  | miss .. => "miss"

def key : Outcome → Text
  | hit k _ => k
  | fallback k _ => k
  | miss k _ => k

def asset? : Outcome → Option ServedAsset
  | hit _ a => some a
  | fallback _ a => some a
  | miss .. => none

def missReason? : Outcome → Option MissReason
  | miss _ reason => some reason
  | _ => none

def isHit : Outcome → Bool
  | hit .. => true
  | _ => false

def isFallback : Outcome → Bool
  | fallback .. => true
  | _ => false

def isMiss : Outcome → Bool
  | miss .. => true
  | _ => false

/-- There is an asset or a reason why not, and never both. -/
theorem asset?_eq_none_iff (o : Outcome) : o.asset? = none ↔ o.missReason?.isSome := by
  cases o <;> simp [asset?, missReason?]

end Outcome
end BundleHost
