import BundleHost.Http.Address
import BundleHost.Number.Decimal
import BundleHost.Service.Exchange
import BundleHost.Value.Numeric
import BundleHost.Value.Use

/-! The access log: one record for each answered request, except for those that only ask if the
service is alive. A missing file of the interface is nothing to worry about, and all other
answers from 400 on are. A request fails if the clock shows no time, if the address of its client
is none, or if the status of its answer is no number. -/

namespace BundleHost.AccessLog

def logger : Text := "assetdock.access"

def defaultUiPrefix : Text := "/admin"

def skippedPaths : List Text := ["/health"]

def isUiPath (uiPrefix path : Text) : Bool :=
  path == uiPrefix || (uiPrefix ++ ['/']).isPrefixOf path

/-- The level of a failed request, of one for a file of the interface that is not there, of any
other refused request, and of all others. -/
def grade (failed missing refused : Bool) : Log.Level :=
  if failed then .error else if missing then .info else if refused then .warning else .info

def level (uiPrefix path : Text) (status : Nat) : Log.Level :=
  grade (500 ≤ status) (status = 404 && isUiPath (Text.trimEnd Text.isSlash uiPrefix) path)
    (400 ≤ status)

/-- The level for values, of which the status has to be a number, and the path a text if it is
looked at. -/
def levelOfValues (uiPrefix : Text) (path status : Value) : Except Failure Log.Level := do
  let n ← status.asNumber
  let isUi ← if n.same (.ofInt 404) then
      path.asText.map (isUiPath (Text.trimEnd Text.isSlash uiPrefix))
    else .ok false
  return grade ((Number.ofInt 500).le n) isUi ((Number.ofInt 400).le n)

/-! ### Records -/

/-- What is noted of a request before it is answered. -/
structure Arrival where
  started : Number
  client : Value

def arrive (occasion : Occasion) (request : Request) : Except Failure Arrival := do
  let started ← occasion.started.asInstant
  let client ← Address.clientHost request
  return { started, client }

def duration (started finished : Number) : Number := (finished.sub started).times 1000

def access (arrival : Arrival) (finished : Number) (id : Text) (request : Request)
    (status : Value) : Log.Access where
  requestId := id
  method := request.method
  path := Address.path request
  status := status
  duration := (duration arrival.started finished).roundTo 2
  clientAddress := arrival.client

/-- The line about an answered request, with the duration to one place. -/
def line (took : Number) (status : Int) (a : Log.Access) : Text :=
  a.method.plain ++ ' ' :: a.path ++ ' ' :: Text.ofInt status ++ ' ' ::
    took.fixed 1 ++ ("ms [" : Text) ++ a.requestId ++ ("] from " : Text) ++ a.clientAddress.plain

def record (arrival : Arrival) (finished : Number) (uiPrefix id : Text) (request : Request)
    (status : Value) : Except Failure Log.Record := do
  let a := access arrival finished id request status
  let level ← levelOfValues uiPrefix (.text a.path) status
  let whole ← status.asWhole
  return {
    level
    logger := logger
    message := line (duration arrival.started finished) whole a
    access := some a }

/-- Logs a request after it was answered. A request that ends in a failure is not logged. -/
def logged (occasion : Occasion) (arrival : Arrival) (uiPrefix id : Text) (request : Request)
    (e : Exchange) : Exchange :=
  match e.result with
  | .error _ => e
  | .ok response =>
    match occasion.finished.asInstant.bind fun finished =>
        record arrival finished uiPrefix id request response.status with
    | .error f => { e with result := .error f }
    | .ok r => { e with records := e.records ++ [r] }

def isSkipped (request : Request) : Bool := skippedPaths.contains (Address.path request)

def layer (occasion : Occasion) (uiPrefix : Text) : Layer := fun inner id request =>
  if isSkipped request then inner id request
  else match arrive occasion request with
    | .error f => { requestId := id, result := .error f }
    | .ok arrival => logged occasion arrival uiPrefix id request (inner id request)

/-- The two ways to find the level agree on a text and a number. -/
theorem levelOfValues_int (uiPrefix path : Text) (status : Nat) :
    levelOfValues uiPrefix (.text path) (.int status) = .ok (level uiPrefix path status) := by
  have number : (Value.int (status : Int)).asNumber = .ok (Number.ofInt status) := rfl
  have text : (Value.text path).asText = .ok path := rfl
  have missing : (Number.ofInt status).same (Number.ofInt 404) = decide (status = 404) := by
    rw [Number.same_ofInt]; exact decide_eq_decide.2 (by omega)
  have atLeast (n : Nat) : (Number.ofInt n).le (Number.ofInt status) = decide (n ≤ status) := by
    rw [Number.le_ofInt]; exact decide_eq_decide.2 (by omega)
  have failed : (Number.ofInt 500).le (Number.ofInt status) = decide (500 ≤ status) := atLeast 500
  have refused : (Number.ofInt 400).le (Number.ofInt status) = decide (400 ≤ status) := atLeast 400
  simp only [levelOfValues, number, text, level, missing, failed, refused, bind, Except.bind]
  by_cases h : status = 404 <;> simp [h, Except.map, pure, Except.pure]

end BundleHost.AccessLog
