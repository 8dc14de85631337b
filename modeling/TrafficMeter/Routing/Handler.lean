import TrafficMeter.Http.Body
import TrafficMeter.Http.Request
import TrafficMeter.Metric.Registry

/-!
# Handlers

A handler answers a request, given what the route's pattern captured.  On the way it may write to
the recorder of the process.  It may also crash, and then there is no response.  What a handler does
is that of one moment: an application that remembers what it was asked has other handlers later.
-/

namespace TrafficMeter.Routing

open TrafficMeter.Http (Request Headers Source Poll)

/-- What a handler answers. -/
structure Reply where
  status : Nat := 200
  headers : Headers := []
  source : Source := Source.empty
deriving DecidableEq, Repr

/-- What a handler does: its writes to the recorder, and its reply or the message of its crash. -/
structure Reaction where
  writes : List Metric.Write := []
  outcome : Except String Reply

/-- A handler. -/
abbrev Handler := Request → List (String × String) → Reaction

namespace Handler

/-- Always gives the same reply. -/
def constant (reply : Reply) : Handler := fun _ _ => { outcome := .ok reply }

/-- Sends the body of the request back. -/
def echo (status : Nat) (headers : Headers) : Handler := fun request _ =>
  { outcome := .ok { status, headers, source := .whole request.body } }

/-- Always crashes. -/
def crash (message : String) : Handler := fun _ _ => { outcome := .error message }

/-- The path is unknown. -/
def notFound : Handler := constant { status := 404 }

/-- The path does not know the method. -/
def methodNotAllowed : Handler := constant { status := 405 }

end Handler

end TrafficMeter.Routing
