import BundleHost.Settings.Basic
import BundleHost.Value.Use

/-! Settings as they are read when the service is made and run. Checked settings hold values of the
right types; settings that were taken over without a check may hold anything. A value of another
type goes unnoticed for as long as its use allows that. -/

namespace BundleHost

/-- The items of a value that is a list written as one text. -/
def Value.asItems (v : Value) : Except Failure (List Text) := v.asText.map Text.commaList

namespace Settings

/-- Settings whose values may be of any type. -/
structure Values where
  assetDir : Value
  ns : Value
  rootDocument : Value
  apiPrefixes : Value
  assetInclude : Value
  assetExclude : Value
  cacheMaxAge : Value
  apiOnly : Value
  securityProfile : Value
  gzipMinimumSize : Value
  gzipLevel : Value
  corsOrigins : Value
  host : Value
  port : Value
  logLevel : Value

def values (s : Settings) : Values where
  assetDir := .text s.assetDir
  ns := .text s.ns
  rootDocument := .text s.rootDocument
  apiPrefixes := .text s.apiPrefixes
  assetInclude := .text s.assetInclude
  assetExclude := .text s.assetExclude
  cacheMaxAge := .int s.cacheMaxAge
  apiOnly := .bool s.apiOnly
  securityProfile := .text s.securityProfile
  gzipMinimumSize := .int s.gzipMinimumSize
  gzipLevel := .int s.gzipLevel
  corsOrigins := .text s.corsOrigins
  host := .text s.host
  port := .int s.port
  logLevel := .text s.logLevel

namespace Values

def fields (v : Values) : Fields := [
  ("asset_dir", v.assetDir),
  ("asset_namespace", v.ns),
  ("root_document", v.rootDocument),
  ("api_prefixes", v.apiPrefixes),
  ("asset_include", v.assetInclude),
  ("asset_exclude", v.assetExclude),
  ("asset_cache_max_age", v.cacheMaxAge),
  ("api_only", v.apiOnly),
  ("security_headers_profile", v.securityProfile),
  ("gzip_minimum_size", v.gzipMinimumSize),
  ("gzip_compress_level", v.gzipLevel),
  ("cors_origins", v.corsOrigins),
  ("backend_host", v.host),
  ("backend_port", v.port),
  ("log_level", v.logLevel)]

/-- Values that are taken as they are given, with defaults for the settings that are not. -/
def assume (given : Fields) : Values :=
  let d := ({} : Settings).values
  let value (name : String) (default : Value) : Value := (given.get? name).getD default
  { assetDir := value "asset_dir" d.assetDir
    ns := value "asset_namespace" d.ns
    rootDocument := value "root_document" d.rootDocument
    apiPrefixes := value "api_prefixes" d.apiPrefixes
    assetInclude := value "asset_include" d.assetInclude
    assetExclude := value "asset_exclude" d.assetExclude
    cacheMaxAge := value "asset_cache_max_age" d.cacheMaxAge
    apiOnly := value "api_only" d.apiOnly
    securityProfile := value "security_headers_profile" d.securityProfile
    gzipMinimumSize := value "gzip_minimum_size" d.gzipMinimumSize
    gzipLevel := value "gzip_compress_level" d.gzipLevel
    corsOrigins := value "cors_origins" d.corsOrigins
    host := value "backend_host" d.host
    port := value "backend_port" d.port
    logLevel := value "log_level" d.logLevel }

/-! ### What follows from the values -/

def keyStart (v : Values) : Text := v.ns.plain

def selection (v : Values) : Except Failure Bundle.Selection := do
  let taken ← v.assetInclude.asItems
  let leftOut ← v.assetExclude.asItems
  return { taken, leftOut }

def rootDocumentKey (v : Values) : Except Failure Text :=
  v.rootDocument.asText.map fun t => v.keyStart ++ t.dropWhile Text.isSlash

def uiPrefix (v : Values) : Except Failure Text :=
  v.ns.asText.map fun t => '/' :: Text.trimEnd Text.isSlash t

def resolver (v : Values) (registry : Registry) : Except Failure Resolver := do
  let prefixes ← v.apiPrefixes.asItems
  let root ← v.rootDocument.asText
  return Resolver.make registry v.keyStart root prefixes

end Values

theorem selection_values (s : Settings) : s.values.selection = .ok s.selection := rfl

theorem rootDocumentKey_values (s : Settings) :
    s.values.rootDocumentKey = .ok s.rootDocumentKey := rfl

theorem uiPrefix_values (s : Settings) : s.values.uiPrefix = .ok s.uiPrefix := rfl

end Settings
end BundleHost
