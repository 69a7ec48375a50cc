import BundleHost.Asset.GivenRegistry
import BundleHost.Http.Query
import BundleHost.Resolution.Answer
import BundleHost.Resolution.Resolver
import BundleHost.Service.Exchange
import BundleHost.Service.Routing
import BundleHost.Validation.Report
import BundleHost.Value.Numeric

/-! The endpoints: what is answered once it is clear what a request is for. Pages about the service
are the same at all times, and what is on them is not made here. All other endpoints look at the
bundle that is installed, and fail if there is none yet. -/

namespace BundleHost

/-- What is set up once for all requests. -/
structure Installed where
  registry : GivenRegistry
  /-- The resolver of the files that can be asked for. -/
  resolver : Resolver
  cacheMaxAge : Value
  apiOnly : Bool

namespace Endpoints

def version : Text := "1.0.0"

def logger : Text := "assetdock.routes.embedded"

def uiState (i : Installed) : Text :=
  if i.apiOnly then "disabled"
  else if i.resolver.isAvailable then "available"
  else "unavailable"

/-- The seconds to two places. Only a finite number can be written down. -/
def uptimeField (seconds : Number) : Value :=
  if seconds.isFinite then .real (seconds.roundTo 2) else .null

def healthBody (i : Installed) (seconds : Number) : Value :=
  let ui := uiState i
  .record [
    ("status", .text (if ui = "unavailable".toList then "degraded" else "healthy")),
    ("version", .text version),
    ("admin_ui", .text ui),
    ("uptime_seconds", uptimeField seconds)]

def health (i : Installed) (uptime : Value) : Except Failure Response :=
  uptime.asElapsed.map fun seconds => .json 200 [] (healthBody i seconds)

def bundleHealthBody (i : Installed) : Value :=
  let available := i.resolver.isAvailable
  .record [
    ("status", .text (if available then "available" else "unavailable")),
    ("message", .text (if available then "Embedded admin assets are available"
      else "Embedded admin assets are not available")),
    ("root_document", .text i.resolver.rootKey),
    ("asset_count", .int i.registry.size)]

def missingRecord (r : Resolver) : Log.Record where
  level := .warning
  logger := logger
  message := ("Embedded asset health check: " : Text) ++ r.rootKey ++ (" missing" : Text)

def bundleHealth (i : Installed) : List Log.Record × Response :=
  if i.resolver.isAvailable then ([], .json 200 [] (bundleHealthBody i))
  else ([missingRecord i.resolver], .json 503 [] (bundleHealthBody i))

/-- The sorted keys, all of which have to be texts. -/
def assetList (i : Installed) : Except Failure Response :=
  match i.registry.sortedKeys with
  | .ok keys =>
    if (Validation.itemLines 0 keys).isEmpty then .ok (.json 200 [] (.list keys))
    else .error (.unfitAnswer (Validation.answerReport keys))
  | .error e => .error e

/-- What was logged, and a response or a failure. -/
abbrev Answer := List Log.Record × Except Failure Response

def ui (i : Installed) (path : Text) : Answer :=
  let outcome := i.resolver.resolveRequest path
  (Resolver.records outcome, outcome.respond i.cacheMaxAge)

def noPathBody : Value := .record [("detail", .list [.record [
  ("type", .text "missing"),
  ("loc", .list [.text "query", .text Routing.pathName]),
  ("msg", .text "Field required"),
  ("input", .null)]])]

def uiOfQuery (i : Installed) (query : Text) : Answer :=
  match Query.value? query Routing.pathName with
  | some path => ui i path
  | none => ([], .ok (.json 422 [] noPathBody))

/-- What the resolver is taken from: an installed bundle, unless getting at it fails. -/
def installed? (installed : Option Installed) (fault : Option Failure) :
    Except Failure Installed :=
  match fault, installed with
  | some f, _ => .error f
  | none, some i => .ok i
  | none, none => .error .notInstalled

/-- What is on the pages about the service. -/
abbrev Pages := Routing.Page → ByteArray

def page (pages : Pages) (p : Routing.Page) : Answer :=
  ([], .ok (.ofContent 200 [] p.mediaType (pages p)))

def answer (pages : Pages) (i : Installed) (uptime : Value) (request : Request) :
    Routing.Endpoint → Answer
  | .page p => page pages p
  | .health => ([], health i uptime)
  | .bundleHealth => (bundleHealth i).map id .ok
  | .assetList => ([], assetList i)
  | .ui path => ui i path
  | .uiOfQuery => uiOfQuery i request.query

/-- Whether an endpoint gets at the bundle by a way of its own, on which nothing fails. -/
def isDirect (endpoint : Routing.Endpoint) : Bool := endpoint = .health

/-- Runs an endpoint, if it needs no bundle, or if there is one and it can be got at. -/
def run (pages : Pages) (installed : Option Installed) (fault : Option Failure) (uptime : Value)
    (request : Request) (endpoint : Routing.Endpoint) : Answer :=
  match endpoint with
  | .page p => page pages p
  | _ =>
    match installed? installed (if isDirect endpoint then none else fault) with
    | .ok i => answer pages i uptime request endpoint
    | .error f => ([], .error f)

def handler (pages : Pages) (routes : List Routing.Route) (installed : Option Installed)
    (fault : Option Failure) (uptime : Value) : Handler := fun id request =>
  match Routing.decide routes request.method request.path with
  | .ok (.run endpoint) =>
    let done := run pages installed fault uptime request endpoint
    { records := done.1, requestId := id, result := done.2 }
  | .ok decision =>
    { requestId := id
      result := .ok ((Routing.refusal request decision).getD (.json 404 [] .null)) }
  | .error f => { requestId := id, result := .error f }

end Endpoints
end BundleHost
