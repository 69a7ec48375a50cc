import BundleHost.Validation.Scalar

/-! The body of an answer that reports an error: a code, a message, and what else is known. Parts
that are not known are left out of the body. -/

namespace BundleHost

structure ErrorReport where
  error : Text
  message : Text
  details : Option Fields := none
  requestId : Option Text := none

namespace ErrorReport

open Validation

def checkFields (given : Fields) : Checked ErrorReport :=
  (Checked.valid ErrorReport.mk)
    |>.ap (field given "error" checkText)
    |>.ap (field given "message" checkText)
    |>.ap (fieldOr given "details" none (checkOptional checkDictionary))
    |>.ap (fieldOr given "request_id" none (checkOptional checkText))

def check : Check ErrorReport := checkRecord "ErrorResponse" checkFields

def fields (r : ErrorReport) : Fields := [
  ("error", .text r.error),
  ("message", .text r.message),
  ("details", (r.details.map .record).getD .null),
  ("request_id", (r.requestId.map .text).getD .null)]

/-- The fields with those left out that hold nothing. -/
def knownFields (r : ErrorReport) : Fields :=
  r.fields.filter fun f =>
    match f.2 with
    | .null => false
    | _ => true

def body (r : ErrorReport) : Value := .record r.knownFields

end ErrorReport
end BundleHost
