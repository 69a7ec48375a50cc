import BundleHost.Service.AccessLog
import BundleHost.Service.Compression
import BundleHost.Service.CrossOrigin
import BundleHost.Service.FailureLayers
import BundleHost.Service.RequestId
import BundleHost.Service.SecurityLayer
import BundleHost.Service.Startup

/-! The service as a whole. It is made from settings, and then lives through starts, stops and
requests. Its state is the bundle that is installed, the level of its log, and whether the layers
around the endpoints have been made, which happens at the first request. -/

namespace BundleHost

structure App where
  values : Settings.Values
  pages : Endpoints.Pages
  security : Security.Config
  rendered : List (Text × Text)
  isRendered : security.headers = .ok rendered
  origins : List Text
  /-- The start of the interface's paths in the access log. -/
  uiPrefix : Text
  routes : List Routing.Route
  handedOver : Option Installed

namespace App

/-- The security headers of a profile, which has to be one that there is. -/
def securityOf (profile : Text) : Except Failure Security.Config := do
  let security ← (Security.Config.ofProfile profile).mapError fun e => .fault e.fault
  match security.problem? with
  | some e => .error (.fault e.fault)
  | none => return security

def handOver (v : Settings.Values) : Option GivenRegistry → Except Failure (Option Installed)
  | none => .ok none
  | some registry => (Startup.install v registry).map some

def make (pages : Endpoints.Pages) (v : Settings.Values) (registry : Option GivenRegistry) :
    Except Failure App := do
  let security ← securityOf v.securityProfile.plain
  let ⟨rendered, isRendered⟩ ← Security.proven security.headers
  let handedOver ← handOver v registry
  let origins ← v.corsOrigins.asItems
  let uiPrefix ← v.uiPrefix
  let routes ← Routing.routes v.apiOnly.holds uiPrefix
  return {
    values := v, pages, security, rendered, isRendered, origins, uiPrefix, routes, handedOver }

/-! ### Answering -/

def securityLayer (app : App) : Layer :=
  if app.security.enabled then Security.layer app.rendered else id

/-- The endpoints with all layers around them but the outermost one. -/
def handler (app : App) (installed : Option Installed) (fault : Option Failure)
    (occasion : Occasion) : Handler :=
  RequestId.layer occasion <|
  AccessLog.layer occasion app.uiPrefix <|
  app.securityLayer <|
  Compression.layer app.values.gzipMinimumSize app.values.gzipLevel <|
  CrossOrigin.layer app.origins <|
  FailureLayers.answerFaults <|
  Endpoints.handler app.pages app.routes installed fault occasion.uptime

def respond (app : App) (installed : Option Installed) (fault : Option Failure)
    (occasion : Occasion) (request : Request) : Reply × List Log.Record :=
  FailureLayers.answerFailures (app.handler installed fault occasion [] request)

/-! ### Running -/

structure State where
  installed : Option Installed
  threshold : Nat := Log.Level.warning.number
  layersMade : Bool := false

def initial (app : App) : State where
  installed := app.handedOver

inductive Event
  | start (fs : Bundle.FileSystem)
  | stop
  /-- A request; getting at the bundle may fail for it. -/
  | request (occasion : Occasion) (request : Request) (fault : Option Failure)

/-- What can be seen of an event from outside. -/
structure Observation where
  reply : Option Reply := none
  records : List Log.Record

def layerRecords (app : App) : List Log.Record :=
  if app.security.enabled then [Security.enabledRecord app.rendered] else []

/-- The state after a start. The log is set up first; a level that it refuses stops the start. -/
def start (app : App) (s : State) (fs : Bundle.FileSystem) :
    Except Failure (State × Observation) := do
  let setup ← Log.setup app.values.logLevel
  let (installed, records) ← Startup.start app.values setup.threshold app.handedOver fs
  return ({ s with installed := some installed, threshold := setup.threshold },
    { records := Log.kept setup.threshold records })

def answer (app : App) (s : State) (occasion : Occasion) (request : Request)
    (fault : Option Failure) : State × Observation :=
  let done := app.respond s.installed fault occasion request
  let first := if s.layersMade then [] else app.layerRecords
  ({ s with layersMade := true },
    { reply := some done.1, records := Log.kept s.threshold (first ++ done.2) })

/-- One event. There is no next state if the service cannot start. -/
def step (app : App) (s : State) : Event → Except Failure (State × Observation)
  | .start fs => app.start s fs
  | .stop => .ok (s, { records := Log.kept s.threshold Startup.stopRecords })
  | .request occasion request fault => .ok (app.answer s occasion request fault)

def run (app : App) (s : State) : List Event → Except Failure (State × List Observation)
  | [] => .ok (s, [])
  | event :: rest => do
    let (s', seen) ← app.step s event
    let (s'', more) ← run app s' rest
    return (s'', seen :: more)

/-- No request changes what is installed. -/
theorem installed_answer (app : App) (s : State) (occasion : Occasion) (request : Request)
    (fault : Option Failure) :
    (app.answer s occasion request fault).1.installed = s.installed := rfl

end App
end BundleHost
