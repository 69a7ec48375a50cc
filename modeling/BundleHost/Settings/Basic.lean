import BundleHost.Bundle.Selection
import BundleHost.Log
import BundleHost.Resolution.Resolver

/-! The settings of the service and what follows from them. Lists are written as one text with
commas between the items. -/

namespace BundleHost

structure Settings where
  assetDir : Text := "./admin-ui/dist"
  /-- The start of the keys of the bundle, with a slash at its end. -/
  ns : Text := Resolver.defaultNamespace
  rootDocument : Text := Resolver.defaultRootDocument
  apiPrefixes : Text := "api/"
  assetInclude : Text := "*.html,*.js,*.css,*.ico,*.png,*.svg,*.woff,*.woff2,*.ttf,*.eot"
  assetExclude : Text := "*.map"
  cacheMaxAge : Int := 31536000
  /-- Serve the programming interface and no bundle. -/
  apiOnly : Bool := false
  securityProfile : Text := "default"
  /-- Bodies with fewer octets are not compressed. -/
  gzipMinimumSize : Int := 1024
  gzipLevel : Int := 6
  corsOrigins : Text := "http://localhost:5173"
  host : Text := "0.0.0.0"
  port : Int := 8000
  logLevel : Text := Log.Level.info.name
deriving DecidableEq, Repr

namespace Settings

def corsOriginList (s : Settings) : List Text := Text.commaList s.corsOrigins

def apiPrefixList (s : Settings) : List Text := Text.commaList s.apiPrefixes

def includeList (s : Settings) : List Text := Text.commaList s.assetInclude

def excludeList (s : Settings) : List Text := Text.commaList s.assetExclude

def selection (s : Settings) : Bundle.Selection where
  taken := s.includeList
  leftOut := s.excludeList

def rootDocumentKey (s : Settings) : Text := s.ns ++ s.rootDocument.dropWhile Text.isSlash

/-- The start of the paths under which the interface is served. -/
def uiPrefix (s : Settings) : Text := '/' :: Text.trimEnd Text.isSlash s.ns

def resolver (s : Settings) (registry : Registry) : Resolver :=
  Resolver.make registry s.ns s.rootDocument s.apiPrefixList

end Settings
end BundleHost
