import BundleHost.Service.ErrorReport
import BundleHost.Service.Exchange
import BundleHost.Validation.Report

/-! Answers to failures. A fault of the service is answered close to where it happens, with its
message, and the response passes through all other layers. Any other failure is answered by the
outermost layer, with a message that says nothing, and is handed on to the server. -/

namespace BundleHost.FailureLayers

def logger : Text := "assetdock.main"

def report (code message id : Text) : Response :=
  .json 500 [] { error := code, message := message, requestId := some id : ErrorReport }.body

/-! ### Faults -/

def faultRecord (id : Text) (f : Fault) : Log.Record where
  level := .error
  logger := logger
  message := '[' :: id ++ ("] " : Text) ++ f.kind.label ++ (": " : Text) ++ f.messageText ++
    f.contextText

/-- The answer to a fault, which depends on nothing but its message and the identifier. -/
def faultResponse (id message : Text) : Response := report "server_error" message id

def badMessage (message : Value) : Text :=
  Validation.report "ErrorResponse" [(⟨["message"], .notText⟩, message)]

/-- The answer to a fault. The message has to be a text. -/
def answerFault (id : Text) (f : Fault) : Except Failure Response :=
  match f.message with
  | .text message => .ok (faultResponse id message)
  | other => .error (.invalid (badMessage other))

def answerFaults : Layer := fun inner id request =>
  let e := inner id request
  match e.result with
  | .error (.fault f) =>
    { e with
      records := e.records ++ [faultRecord e.requestId f]
      result := answerFault e.requestId f }
  | _ => e

/-! ### Other failures -/

def failureRecord (id : Text) (f : Failure) : Log.Record where
  level := .error
  logger := logger
  message := '[' :: id ++ ("] Unexpected error: " : Text) ++ f.message

def unexpectedMessage : Text :=
  "An unexpected error occurred. Please try again or contact support."

/-- The answer to a failure of any other kind, which depends on the identifier alone. -/
def failureResponse (id : Text) : Response :=
  report "internal_server_error" unexpectedMessage id

def answerFailures (e : Exchange) : Reply × List Log.Record :=
  match e.result with
  | .ok response => ({ response := some response }, e.records)
  | .error f =>
    ({ response := some (failureResponse e.requestId), raised := some f },
      e.records ++ [failureRecord e.requestId f])

end BundleHost.FailureLayers
