import BundleHost.Settings.Basic
import BundleHost.Validation.Scalar

/-! Checking of settings. Every setting has one name and one check. Levels and profiles may be
written in any letter case, and a namespace with or without slashes around it; they are kept in
one form. -/

namespace BundleHost.Settings

open Validation

def profiles : List Text := ["default", "production", "development", "disabled"]

/-- A namespace without white space and slashes around it, and with one slash at its end. -/
def normalNamespace? (t : Text) : Option Text :=
  let bare := Text.trim Text.isSlash (Text.strip t)
  if bare.isEmpty then none else some (bare ++ ['/'])

def checkNamespace : Check Text := fun v =>
  (checkText v).andThen fun t =>
    match normalNamespace? t with
    | some ns => .valid ns
    | none => .fail (.refused "asset_namespace must not be empty")

def checkLogLevel : Check Text := fun v =>
  (checkText v).andThen fun t =>
    match Log.Level.ofName? (Text.upper t) with
    | some level => .valid level.name
    | none => .fail (.refused (("Invalid log_level '" : Text) ++ t ++ ['\'']))

def checkProfile : Check Text := fun v =>
  (checkText v).andThen fun t =>
    let name := Text.lower t
    if profiles.contains name then .valid name
    else .fail (.refused (("Invalid security_headers_profile '" : Text) ++ t ++ ['\'']))

/-- The names of the settings, in the order in which problems are reported. -/
def names : List Text := [
  "asset_dir", "asset_namespace", "root_document", "api_prefixes", "asset_include",
  "asset_exclude", "asset_cache_max_age", "api_only", "security_headers_profile",
  "gzip_minimum_size", "gzip_compress_level", "cors_origins", "backend_host", "backend_port",
  "log_level"]

/-- Settings from a record under their names. A setting that is not given has its default, which
is not checked. -/
def check (given : Fields) : Checked Settings :=
  let d : Settings := {}
  (Checked.valid Settings.mk)
    |>.ap (fieldOr given "asset_dir" d.assetDir checkText)
    |>.ap (fieldOr given "asset_namespace" d.ns checkNamespace)
    |>.ap (fieldOr given "root_document" d.rootDocument checkText)
    |>.ap (fieldOr given "api_prefixes" d.apiPrefixes checkText)
    |>.ap (fieldOr given "asset_include" d.assetInclude checkText)
    |>.ap (fieldOr given "asset_exclude" d.assetExclude checkText)
    |>.ap (fieldOr given "asset_cache_max_age" d.cacheMaxAge (checkBetween 0 63072000))
    |>.ap (fieldOr given "api_only" d.apiOnly checkBool)
    |>.ap (fieldOr given "security_headers_profile" d.securityProfile checkProfile)
    |>.ap (fieldOr given "gzip_minimum_size" d.gzipMinimumSize (checkBetween 0 10485760))
    |>.ap (fieldOr given "gzip_compress_level" d.gzipLevel (checkBetween 1 9))
    |>.ap (fieldOr given "cors_origins" d.corsOrigins checkText)
    |>.ap (fieldOr given "backend_host" d.host checkText)
    |>.ap (fieldOr given "backend_port" d.port (checkBetween 1024 65535))
    |>.ap (fieldOr given "log_level" d.logLevel checkLogLevel)

theorem check_nil : check [] = .valid {} := rfl

end BundleHost.Settings
