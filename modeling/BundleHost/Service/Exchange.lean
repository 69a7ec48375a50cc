import BundleHost.Fault
import BundleHost.Http.Message
import BundleHost.Log

/-! The parts of the service that answer a request, one around the other. A handler is told the
identifier under which the request goes, gives a response or a failure, and says what was logged
on the way and under which identifier the request went in the end. A layer makes a handler out
of the handler inside of it. -/

namespace BundleHost

/-- What a service finds out for itself when a request comes in. -/
structure Occasion where
  /-- An identifier that no other request has. -/
  freshId : Text
  /-- What the clock shows before and after the request. -/
  started : Value := .real .zero
  finished : Value := .real .zero
  /-- What it shows where the seconds are wanted for which the service has been running. -/
  uptime : Value := .real .zero

structure Exchange where
  records : List Log.Record := []
  requestId : Text
  result : Except Failure Response

namespace Exchange

def mapResponse (f : Response → Response) (e : Exchange) : Exchange :=
  { e with result := e.result.map f }

def bindResponse (f : Response → Except Failure Response) (e : Exchange) : Exchange :=
  { e with result := e.result.bind f }

def mapHeaders (f : Headers → Headers) (e : Exchange) : Exchange :=
  e.mapResponse fun r => { r with headers := f r.headers }

end Exchange

/-- Answers a request that goes under an identifier. -/
abbrev Handler := Text → Request → Exchange

abbrev Layer := Handler → Handler

/-- A response as it leaves the service. A failure that nothing answers is handed on to the
server, even if there is a response. -/
structure Reply where
  response : Option Response
  raised : Option Failure := none

end BundleHost
