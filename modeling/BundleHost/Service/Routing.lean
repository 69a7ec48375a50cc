import BundleHost.Fault
import BundleHost.Http.Address
import BundleHost.Http.PathTemplate
import BundleHost.Value.Key
import BundleHost.Value.Written

/-! Which endpoint a request goes to. Routes are tried in order; the first one that takes both the
path and the method decides, and otherwise the first one that takes the path. A path that no
route takes may be one with a slash too many or too few, and then the client is sent on. The
routes of the interface come from the namespace, in which parameters may stand. -/

namespace BundleHost.Routing

/-- A page about the service for programs and the people who write them: its description, a page to
try it out, the page to which a sign-in there leads back, and a page to read. -/
inductive Page
  | description
  | explorer
  | signIn
  | reference
deriving DecidableEq, Repr

namespace Page

def all : List Page := [description, explorer, signIn, reference]

def path : Page → Text
  | description => "/openapi.json"
  | explorer => "/docs"
  | signIn => "/docs/oauth2-redirect"
  | reference => "/redoc"

def mediaType : Page → Text
  | description => "application/json"
  | _ => "text/html"

end Page

/-- What a request can be for: a page, the health of the service or of its bundle, the keys of the
bundle, or a path in the interface, which may also come from the query. -/
inductive Endpoint
  | page (page : Page)
  | health
  | bundleHealth
  | assetList
  | ui (path : Text)
  | uiOfQuery
deriving DecidableEq, Repr

/-- The endpoint of a route, up to the path that is taken from the path of a request. -/
inductive Target
  | fixed (endpoint : Endpoint)
  | below
deriving DecidableEq, Repr

def pathName : Text := "path"

/-- The text of the first capture of a name. -/
def captured (captures : List Capture) (name : Text) : Text :=
  ((captures.find? fun c => c.name = name).map Capture.text).getD []

def Target.endpoint (target : Target) (captures : List Capture) : Endpoint :=
  match target with
  | fixed endpoint => endpoint
  | below => .ui (captured captures pathName)

structure Route where
  methods : List Text
  template : PathTemplate
  target : Target
deriving DecidableEq, Repr

/-- Whether a capture is a number with too many digits; zeros at its start count. -/
def isOverlong (c : Capture) : Bool := c.kind = .digits && mostDigits < c.text.length

def captureFailure (c : Capture) : Failure :=
  overlongFailure ((": value has " : Text) ++ Text.ofNat c.text.length ++ (" digits" : Text))

/-- The endpoint to which captures lead, unless one of them cannot be read. -/
def Target.read (target : Target) (captures : List Capture) : Except Failure Endpoint :=
  match captures.find? isOverlong with
  | some c => .error (captureFailure c)
  | none => .ok (target.endpoint captures)

def Route.hasMethod (r : Route) : Value → Bool
  | .text method => r.methods.contains method
  | _ => false

/-- What becomes of a path that the route takes. -/
def Route.endpoint? (r : Route) (path : Text) : Option (Except Failure Endpoint) :=
  (r.template.find? path).map r.target.read

/-! ### The routes of the service -/

def get : List Text := ["GET"]

def getOrHead : List Text := ["GET", "HEAD"]

def pageRoutes : List Route :=
  Page.all.map fun page => ⟨getOrHead, .literal page.path, .fixed (.page page)⟩

def fixedRoutes : List Route := pageRoutes ++ [
  ⟨get, .literal "/health", .fixed .health⟩,
  ⟨get, .literal "/api/embedded/health", .fixed .bundleHealth⟩,
  ⟨get, .literal "/api/embedded/assets", .fixed .assetList⟩]

def uiRoot (uiPrefix : Text) : Text := '/' :: Text.trim Text.isSlash uiPrefix

/-- What follows the start in the paths of files. -/
def belowRoot : Text := "/\x7bpath:path\x7d"

/-- Where the path in the interface is taken from: from the path of the request, unless a brace in
the namespace keeps its parameter from being seen. -/
def belowTarget (template : PathTemplate) : Target :=
  if template.isNamed pathName then .below else .fixed .uiOfQuery

def uiRoutes (root : Text) : Except PathTemplate.Error (List Route) := do
  let slashed ← PathTemplate.ofText (root ++ ['/'])
  let bare ← PathTemplate.ofText root
  let below ← PathTemplate.ofText (root ++ belowRoot)
  return [
    ⟨getOrHead, slashed, .fixed (.ui [])⟩,
    ⟨getOrHead, bare, .fixed (.ui [])⟩,
    ⟨getOrHead, below, belowTarget below⟩]

def templateFailure : PathTemplate.Error → Failure
  | .unknownKind _ => .unmet
  | .repeatedName _ => .badValue []

/-- The routes of a service, which has an interface or none. -/
def routes (apiOnly : Bool) (uiPrefix : Text) : Except Failure (List Route) :=
  if apiOnly then .ok fixedRoutes
  else ((uiRoutes (uiRoot uiPrefix)).map (fixedRoutes ++ ·)).mapError templateFailure

/-! ### Deciding -/

inductive Decision
  | run (endpoint : Endpoint)
  | wrongMethod (allowed : List Text)
  | redirect (path : Text)
  | notFound
deriving DecidableEq, Repr

/-- The path with a slash too many or too few, the other way round. -/
def otherSpelling (path : Text) : Text :=
  if path.getLast? = some '/' then Text.trimEnd Text.isSlash path else path ++ ['/']

/-- A route that takes a path, and what becomes of the path. -/
structure Taking where
  route : Route
  endpoint : Except Failure Endpoint

/-- The routes that take a path, in order. -/
def taking (routes : List Route) (path : Text) : List Taking :=
  routes.filterMap fun r => (r.endpoint? path).map fun e => ⟨r, e⟩

/-- The routes that take the other spelling of a path. -/
def takingOther (routes : List Route) (path : Text) : List Taking :=
  if path = ['/'] then [] else taking routes (otherSpelling path)

/-- Whether the request is settled: it has one of the methods, or the path cannot be read. -/
def Taking.settles (t : Taking) (method : Value) : Bool :=
  t.route.hasMethod method ||
    match t.endpoint with
    | .ok _ => false
    | .error _ => true

def choose (routes : List Route) (method : Value) (path : Text) : Except Failure Decision :=
  let found := taking routes path
  match found.find? fun t => t.settles method with
  | some t => t.endpoint.map .run
  | none =>
    match found with
    | t :: _ => .ok (.wrongMethod t.route.methods)
    | [] =>
      match takingOther routes path with
      | t :: _ => t.endpoint.map fun _ => .redirect (otherSpelling path)
      | [] => .ok .notFound

def unfitMethod (method : Value) : Failure :=
  .wrongType (("unhashable type: " : Text) ++ Text.quoted method.typeName)

/-- The decision about a request. A method that cannot be looked up is noticed as soon as a route
takes the path. -/
def decide (routes : List Route) (method : Value) (path : Text) : Except Failure Decision :=
  if method.isKey then choose routes method path
  else match taking routes path ++ takingOther routes path with
    | t :: _ => t.endpoint.bind fun _ => .error (unfitMethod method)
    | [] => .ok .notFound

theorem decide_text (routes : List Route) (method path : Text) :
    decide routes (.text method) path = choose routes (.text method) path := rfl

def detail (message : Text) : Value := .record [("detail".toList, .text message)]

def refusal (request : Request) : Decision → Option Response
  | .run _ => none
  | .wrongMethod allowed =>
    some (.json 405 [("allow", Text.join ", " allowed)] (detail "Method Not Allowed"))
  | .redirect path => some (.redirect (Address.redirectTo request path))
  | .notFound => some (.json 404 [] (detail "Not Found"))

end BundleHost.Routing
