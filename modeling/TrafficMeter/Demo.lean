import TrafficMeter.Http.MediaType
import TrafficMeter.Json.Reader
import TrafficMeter.Routing.RequestMeter
import TrafficMeter.Text.Percent

/-!
# The demo application

Three routes to try a meter on: one says that the application is well, one greets by name and
counts its greetings with the recorder of the process, one sends data texts back. The application
is these routes with a meter attached.
-/

namespace TrafficMeter.Demo

open TrafficMeter.Http (Request Headers)
open TrafficMeter.Routing
  (AttachError Handler Reaction Reply RequestMeter Router MethodTable Service)
open TrafficMeter.Traffic (Telemetry)

/-- The content type of plain texts. -/
def plainText : Headers := [("content-type", "text/plain; charset=utf-8")]

/-- A reply with a plain text. -/
def textReply (status : Nat) (text : String) : Reply :=
  { status, headers := plainText, source := .whole text }

/-- A reply with a data value. -/
def jsonReply (v : Json.Value) : Reply :=
  { headers := [("content-type", "application/json")], source := .whole v.print }

/-- The counter of greetings. -/
def greetings : Metric.Key := ⟨"demo_greetings_total", []⟩

/-- Says that the application is well. -/
def health : Handler := Handler.constant (textReply 200 "OK")

/-- Greets by the name in the path. -/
def hello : Handler := fun _ captures =>
  match (captures.lookup "name").bind Text.Percent.decode? with
  | some name =>
      { writes := [.add greetings 1]
        outcome := .ok (jsonReply (.object [("greeting", .string ("hello, " ++ name))])) }
  | none => { outcome := .ok (textReply 400 "Invalid URL: Invalid UTF-8 in `name`") }

/-- What an echo says to a body of another type. -/
def wrongType : Reply :=
  textReply 415 "Expected request with `Content-Type: application/json`"

/-- Sends a data text back in its shortest form. -/
def echo : Handler := fun request _ =>
  let body := Text.bytes request.body
  { outcome := .ok <|
      if request.headers.sayJson then
        match Json.read body with
        | .ok v => jsonReply v
        | .error flaw =>
            textReply 400 ("Failed to parse the request body as JSON: " ++ flaw.message body)
      else wrongType }

/-- The routes of the demo application. -/
def routes : List (String × MethodTable) :=
  [("/health", .single .get (Service.ofHandler health)),
    ("/hello/:name", .single .get (Service.ofHandler hello)),
    ("/echo", .single .post (Service.ofHandler echo))]

/-- The demo application when it has started. -/
structure App where
  telemetry : Telemetry
  meter : RequestMeter
  router : Router

/-- Starts the demo application: its registry records for the process, a subsystem is registered
there, and the meter is attached to the routes.

Two layers around the result are left out, one for cross-origin requests and one for traces. The
first answers `OPTIONS` requests by itself and adds headers to other responses; the second writes
log lines. Neither keeps a request with another method from the meter. -/
def launch (registry : Metric.Registry) (subsystem path : String)
    (accounts : Option Auth.Accounts) : Except AttachError App := do
  let (t, id) := Telemetry.addRegistry {} registry
  let (t, installed) := t.install id
  installed.mapError .meter
  let (t, made) := RequestMeter.new t id subsystem
  let meter ← made.mapError .meter
  let plain ← (Router.addAll {} routes).mapError .route
  let meter := { meter with exporterPath := path }
  let (telemetry, attached) := meter.attach accounts t plain
  let router ← attached
  return { telemetry, meter, router }

end TrafficMeter.Demo
