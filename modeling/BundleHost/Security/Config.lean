import BundleHost.Fault

/-! The security headers of a service, section by section, with the named profiles. A profile
decides every section; the profile that is disabled sends none of the headers. -/

namespace BundleHost.Security

/-- How long a browser keeps to encrypted connections. -/
structure TransportSection where
  enabled : Bool := true
  maxAge : Nat := 31536000
  includeSubdomains : Bool := true
  preload : Bool := false
deriving DecidableEq, Repr

inductive FramePolicy
  | deny
  | sameOrigin
  | allowFrom
deriving DecidableEq, Repr

/-- Which pages may show a page of this service in a frame. -/
structure FrameSection where
  enabled : Bool := true
  policy : FramePolicy := .deny
  allowFrom : Option Text := none
deriving DecidableEq, Repr

def directives (ds : List Text) : Text := Text.join "; " ds

def standardContentPolicy : Text := directives [
  "default-src 'self'", "script-src 'self' 'unsafe-inline'", "style-src 'self' 'unsafe-inline'",
  "img-src 'self' data:", "connect-src 'self'"]

/-- From where a page may load its contents. -/
structure ContentSection where
  enabled : Bool := true
  policy : Text := standardContentPolicy
  reportOnly : Bool := false
deriving DecidableEq, Repr

inductive ReferrerPolicy
  | noReferrer
  | noReferrerWhenDowngrade
  | origin
  | originWhenCrossOrigin
  | sameOrigin
  | strictOrigin
  | strictOriginWhenCrossOrigin
  | unsafeUrl
deriving DecidableEq, Repr

structure ReferrerSection where
  enabled : Bool := true
  policy : ReferrerPolicy := .strictOriginWhenCrossOrigin
deriving DecidableEq, Repr

def standardPermissions : Text := "camera=(), microphone=(), geolocation=(), payment=()"

/-- Which features of the browser a page may use. -/
structure PermissionsSection where
  enabled : Bool := true
  policy : Text := standardPermissions
deriving DecidableEq, Repr

structure Config where
  enabled : Bool := true
  transport : TransportSection := {}
  contentTypeOptions : Bool := true
  frame : FrameSection := {}
  xssProtection : Bool := true
  content : ContentSection := {}
  referrer : ReferrerSection := {}
  permissions : PermissionsSection := {}
deriving DecidableEq, Repr

namespace FramePolicy

def all : List FramePolicy := [deny, sameOrigin, allowFrom]

def label : FramePolicy → Text
  | deny => "DENY"
  | sameOrigin => "SAMEORIGIN"
  | allowFrom => "ALLOW-FROM"

end FramePolicy

namespace ReferrerPolicy

def all : List ReferrerPolicy :=
  [noReferrer, noReferrerWhenDowngrade, origin, originWhenCrossOrigin, sameOrigin, strictOrigin,
    strictOriginWhenCrossOrigin, unsafeUrl]

def label : ReferrerPolicy → Text
  | noReferrer => "no-referrer"
  | noReferrerWhenDowngrade => "no-referrer-when-downgrade"
  | origin => "origin"
  | originWhenCrossOrigin => "origin-when-cross-origin"
  | sameOrigin => "same-origin"
  | strictOrigin => "strict-origin"
  | strictOriginWhenCrossOrigin => "strict-origin-when-cross-origin"
  | unsafeUrl => "unsafe-url"

end ReferrerPolicy

/-! ### Profiles -/

/-- Two years of encrypted connections, no inline scripts, and fewer features. -/
def Config.production : Config where
  transport := { maxAge := 63072000, includeSubdomains := true, preload := true }
  content := { policy := directives [
    "default-src 'self'", "script-src 'self'", "style-src 'self' 'unsafe-inline'",
    "img-src 'self' data:", "connect-src 'self'", "frame-ancestors 'none'", "base-uri 'self'",
    "form-action 'self'"] }
  permissions := { policy :=
    "camera=(), microphone=(), geolocation=(), payment=(), usb=(), bluetooth=()" }

/-- Nothing that stands in the way of a development server. -/
def Config.development : Config where
  transport := { enabled := false, maxAge := 0, includeSubdomains := false }
  frame := { policy := .sameOrigin }
  content :=
    { policy := directives [
        "default-src 'self' 'unsafe-eval' 'unsafe-inline'",
        "script-src 'self' 'unsafe-eval' 'unsafe-inline'",
        "style-src 'self' 'unsafe-inline'", "img-src 'self' data:",
        "connect-src 'self' ws: wss:"]
      reportOnly := true }
  referrer := { policy := .noReferrerWhenDowngrade }
  permissions := { enabled := false, policy := [] }

def Config.disabled : Config where
  enabled := false

def Config.ofProfile? (profile : Text) : Option Config :=
  if profile = "production".toList then some .production
  else if profile = "development".toList then some .development
  else if profile = "disabled".toList then some .disabled
  else if profile = "default".toList then some {}
  else none

/-! ### Errors -/

inductive ConfigError
  | unknownProfile (profile : Text)
  | zeroTransportAge
  | emptyContentPolicy
  | emptyPermissions
  | noFrameOrigin
deriving DecidableEq, Repr

namespace ConfigError

def message : ConfigError → Text
  | unknownProfile profile => ("Unknown security headers profile '" : Text) ++ profile ++ ['\'']
  | zeroTransportAge => "HSTS max_age must be greater than 0 when enabled"
  | emptyContentPolicy => "CSP policy cannot be empty when CSP is enabled"
  | emptyPermissions => "Permissions policy cannot be empty when enabled"
  | noFrameOrigin => "X-Frame-Options ALLOW-FROM requires an origin"

def setting : ConfigError → Text
  | unknownProfile _ => "security_headers_profile"
  | zeroTransportAge => "hsts.max_age"
  | emptyContentPolicy => "csp.policy"
  | emptyPermissions => "permissions_policy.policy"
  | noFrameOrigin => "frame_options.allow_from"

def fault (e : ConfigError) : Fault :=
  Fault.raise .configuration (some (.text e.message)) (.text e.setting) []

end ConfigError

def Config.ofProfile (profile : Text) : Except ConfigError Config :=
  match Config.ofProfile? profile with
  | some c => .ok c
  | none => .error (.unknownProfile profile)

def FrameSection.lacksOrigin (f : FrameSection) : Bool :=
  f.enabled && f.policy = .allowFrom && (f.allowFrom.getD []).isEmpty

/-- The first thing that makes a configuration unusable. -/
def Config.problem? (c : Config) : Option ConfigError :=
  if c.transport.enabled && c.transport.maxAge = 0 then some .zeroTransportAge
  else if c.content.enabled && c.content.policy.isEmpty then some .emptyContentPolicy
  else if c.permissions.enabled && c.permissions.policy.isEmpty then some .emptyPermissions
  else if c.frame.lacksOrigin then some .noFrameOrigin
  else none

/-- Every profile is usable. -/
theorem Config.problem?_of_ofProfile? {profile : Text} {c : Config}
    (h : Config.ofProfile? profile = some c) : c.problem? = none := by
  have production : Config.production.problem? = none := by decide +kernel
  have development : Config.development.problem? = none := by decide +kernel
  have disabled : Config.disabled.problem? = none := by decide +kernel
  have default : Config.problem? {} = none := by decide +kernel
  simp only [Config.ofProfile?] at h
  split at h
  · exact Option.some.inj h ▸ production
  · split at h
    · exact Option.some.inj h ▸ development
    · split at h
      · exact Option.some.inj h ▸ disabled
      · split at h
        · exact Option.some.inj h ▸ default
        · nomatch h

end BundleHost.Security
