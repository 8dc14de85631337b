import TrafficMeter.Http.Headers
import TrafficMeter.Http.Target

/-!
# Requests

A request as it reaches a router: checked method, target and fields, and its body.
-/

namespace TrafficMeter.Http

/-- The versions of the protocol. -/
inductive Version where
  | v09
  | v10
  | v11
  | v2
  | v3
deriving DecidableEq, Repr

/-- The protocol text of a version. -/
def Version.text : Version → String
  | v09 => "HTTP/0.9"
  | v10 => "HTTP/1.0"
  | v11 => "HTTP/1.1"
  | v2 => "HTTP/2.0"
  | v3 => "HTTP/3.0"

/-- Why something is no request or response. -/
inductive MessageError where
  | badMethod
  | badTarget (cause : TargetError)
  | badField (cause : FieldError)
  | badStatus
deriving DecidableEq, Repr

/-- The text of a failure. -/
def MessageError.message : MessageError → String
  | badMethod => "invalid HTTP method"
  | badTarget cause => cause.message
  | badField .badName => "invalid HTTP header name"
  | badField .badValue => "failed to parse header value"
  | badStatus => "invalid status code"

/-- A request. -/
structure Request where
  method : String
  target : Target
  version : Version := .v11
  headers : Headers := []
  body : String := ""
deriving DecidableEq, Repr

/-- Checks a method; its case is kept. -/
def readMethod (method : String) : Except MessageError String :=
  if Text.isToken method then .ok method else .error .badMethod

/-- Checks a status code. -/
def readStatus (status : Nat) : Except MessageError Nat :=
  if 100 ≤ status ∧ status ≤ 999 then .ok status else .error .badStatus

/-- Checks header fields. -/
def readHeaders (fields : List (String × String)) : Except MessageError Headers :=
  (Headers.read fields).mapError .badField

/-- Checks the parts of a request: the method, then the target, then the fields. -/
def Request.read (method target : String) (version : Version) (fields : List (String × String))
    (body : String) : Except MessageError Request := do
  let method ← readMethod method
  let target ← (Target.read target).mapError .badTarget
  let headers ← readHeaders fields
  .ok { method, target, version, headers, body }

/-- The path of a request. -/
def Request.path (r : Request) : String := r.target.path

end TrafficMeter.Http
