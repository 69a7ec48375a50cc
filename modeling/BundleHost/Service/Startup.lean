import BundleHost.Bundle.Loading
import BundleHost.Service.Endpoints
import BundleHost.Settings.Values
import BundleHost.Value.Numeric

/-! Start of the service. The bundle is loaded before the first request, and the service starts
also if there is none, so that it can say what is wrong. It does not start if a value of the
settings is of a type that some step cannot work with. -/

namespace BundleHost.Startup

def logger : Text := "assetdock.main"

def info (message : Text) : Log.Record := ⟨.info, logger, message, none⟩

def warning (message : Text) : Log.Record := ⟨.warning, logger, message, none⟩

def install (v : Settings.Values) (registry : GivenRegistry) : Except Failure Installed :=
  (v.resolver registry.named).map fun resolver =>
    { registry, resolver, cacheMaxAge := v.cacheMaxAge, apiOnly := v.apiOnly.holds }

theorem install_values (s : Settings) (registry : GivenRegistry) :
    install s.values registry =
      .ok
        { registry
          resolver := s.resolver registry.named
          cacheMaxAge := .int s.cacheMaxAge
          apiOnly := s.apiOnly } := rfl

/-! ### Loading -/

def notLoadedRecord (f : Fault) : Log.Record where
  level := .error
  logger := logger
  message := ("Admin UI bundle failed to load: " : Text) ++ f.messageText ++
    f.contextText

def noRootRecord (v : Settings.Values) (rootKey : Text) (registry : Registry) : Log.Record :=
  warning (("Bundle in " : Text) ++ v.assetDir.plain ++ (" has " : Text) ++
    Text.ofNat registry.size ++ (" assets but no " : Text) ++ rootKey ++
    ("; client-side routes will answer 503" : Text))

def rootRecords (v : Settings.Values) (registry : Registry) : Except Failure (List Log.Record) :=
  if registry.size = 0 then .ok []
  else v.rootDocumentKey.map fun rootKey =>
    if registry.contains rootKey then [] else [noRootRecord v rootKey registry]

/-- The registry that came of loading. A fault of the bundle is logged and leaves an empty one. -/
def settle (v : Settings.Values) (loaded : Bundle.Loaded) :
    Except Failure (Registry × List Log.Record) :=
  match loaded.result with
  | .ok registry => (rootRecords v registry).map fun more => (registry, loaded.records ++ more)
  | .error e =>
    match e.failure with
    | .fault f => .ok (.empty, loaded.records ++ [notLoadedRecord f])
    | other => .error other

def bundlePlace (v : Settings.Values) : Except Failure Text :=
  match v.assetDir with
  | .text t => .ok t
  | _ => .error (.wrongType [])

/-- The registry of the bundle that the settings name, which is empty if the bundle cannot be loaded
or is not wanted. -/
def loadRegistry (v : Settings.Values) (fs : Bundle.FileSystem) :
    Except Failure (Registry × List Log.Record) :=
  if v.apiOnly.holds then .ok (.empty, [info "API-only mode: admin UI bundle not loaded"])
  else do
    let selection ← v.selection
    let place ← bundlePlace v
    settle v (Bundle.load fs place v.keyStart selection)

/-! ### Starting and stopping -/

def ruler : Log.Record := info (List.replicate 60 '=')

def startingRecord : Log.Record :=
  info (("AssetDock Backend " : Text) ++ Endpoints.version ++ (" starting up..." : Text))

def servedRecord (v : Settings.Values) (registry : GivenRegistry) (port : Int) : Log.Record :=
  info (("Admin UI: " : Text) ++ Text.ofNat registry.size ++
    (" assets, served at http://" : Text) ++ v.host.plain ++ ':' :: Text.ofInt port ++
    '/' :: v.keyStart)

def notServedRecord (r : Resolver) : Log.Record :=
  warning (("Admin UI not available: " : Text) ++ r.rootKey ++
    (" is missing. Build the admin UI and set ASSET_DIR to its output directory." : Text))

/-- What is said about the interface at the start. The port is only looked at if the log keeps
what is said about it. -/
def uiRecords (v : Settings.Values) (threshold : Nat) (i : Installed) :
    Except Failure (List Log.Record) :=
  if v.apiOnly.holds then .ok []
  else if !i.resolver.isAvailable then .ok [notServedRecord i.resolver]
  else if Log.Level.info.number < threshold then .ok []
  else v.port.asWhole.map fun port => [servedRecord v i.registry port]

/-- The bundle to serve, with what was logged about it. A bundle that was handed over when the
service was made stays, and no directory is read. -/
def installOnce (v : Settings.Values) (handedOver : Option Installed)
    (fs : Bundle.FileSystem) : Except Failure (Installed × List Log.Record) :=
  match handedOver with
  | some installed => .ok (installed, [])
  | none => do
    let (registry, records) ← loadRegistry v fs
    let installed ← install v (.ofRegistry registry)
    return (installed, records)

/-- The bundle that is served from now on, and what is logged. -/
def start (v : Settings.Values) (threshold : Nat) (handedOver : Option Installed)
    (fs : Bundle.FileSystem) : Except Failure (Installed × List Log.Record) := do
  let (installed, found) ← installOnce v handedOver fs
  let more ← uiRecords v threshold installed
  return (installed, [ruler, startingRecord] ++ found ++ more ++ [ruler])

def stopRecords : List Log.Record :=
  [info "AssetDock Backend shutting down...", info "Shutdown complete."]

end BundleHost.Startup
