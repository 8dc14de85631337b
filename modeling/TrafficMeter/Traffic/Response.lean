import TrafficMeter.Http.Body
import TrafficMeter.Traffic.Collectors

/-!
# Responses under observation

A metered body passes every answer of the body inside it on and counts the bytes of data.  When
the inner body ends, or when the metered body is closed before that, the request is done: its
observation, with the counted bytes, is handed out once.

Main statements: `Body.poll_metered_fst` and `Body.sizeHint_metered`, that metering changes
nothing that can be seen from outside.
-/

namespace TrafficMeter.Traffic

open TrafficMeter.Http (Poll Source SizeHint Headers)

/-- A request whose response is still being written. -/
structure Pending where
  collectors : Collectors
  observation : Observation

/-- The request, done with so many bytes of its response written. -/
def Pending.settle (p : Pending) (written : UInt64) : Pending :=
  { p with observation := { p.observation with responseSize := written } }

/-- A response body. -/
inductive Body where
  | plain (source : Source)
  | metered (pending : Option Pending) (written : UInt64) (inner : Body)

namespace Body

/-- The empty body. -/
def empty : Body := plain Source.empty

/-- The request of a metered body that is now done. -/
def settled (pending : Option Pending) (written : UInt64) : List Pending :=
  (pending.map (·.settle written)).toList

/-- Asks for the next piece; the last part of the answer are the requests done by it, those of
inner bodies first. -/
def poll : Body → Poll × Body × List Pending
  | plain source =>
      let (p, source) := source.poll
      (p, plain source, [])
  | metered pending written inner =>
      let (p, inner, done) := inner.poll
      match p with
      | .data text =>
          (p, metered pending (written + UInt64.ofNat text.utf8ByteSize) inner, done)
      | .finished => (p, metered none written inner, done ++ settled pending written)
      | .pending | .trailers _ | .failed _ => (p, metered pending written inner, done)

/-- Gives a body up; the requests done by it, those of outer bodies first. -/
def close : Body → List Pending
  | plain _ => []
  | metered pending written inner => settled pending written ++ inner.close

/-- What is known about the remaining size. -/
def sizeHint : Body → SizeHint
  | plain source => source.sizeHint
  | metered _ _ inner => inner.sizeHint

/-- Whether the body knows that nothing is left. -/
def isEnd : Body → Bool
  | plain source => source.isEnd
  | metered _ _ inner => inner.isEnd

/-- So often the body can be asked before it only says that it has ended. -/
def steps : Body → Nat
  | plain source => source.steps
  | metered _ _ inner => inner.steps

/-- Metering changes no answer. -/
theorem poll_metered_fst (pending : Option Pending) (written : UInt64) (inner : Body) :
    (metered pending written inner).poll.1 = inner.poll.1 := by
  simp only [poll]
  split <;> rfl

/-- Metering changes nothing of what is known about the size. -/
theorem sizeHint_metered (pending : Option Pending) (written : UInt64) (inner : Body) :
    (metered pending written inner).sizeHint = inner.sizeHint := rfl

end Body

/-- A response. -/
structure Response where
  status : Nat
  headers : Headers := []
  body : Body := Body.empty

/-- What a client has read of a body. -/
structure Delivered where
  text : String := ""
  trailers : Option (List (String × String)) := none
  failure : Option String := none
deriving DecidableEq, Repr

namespace Telemetry

/-- Observes requests that are done. -/
def settle (t : Telemetry) (done : List Pending) : Telemetry :=
  done.foldl (fun t p =>
    let o := p.observation
    (Collectors.observe (t.note (.requestRecorded o.status o.method o.path o.responseSize))
      p.collectors o)) t

/-- Asks a body for its next piece. -/
def poll (t : Telemetry) (b : Body) : Telemetry × Poll × Body :=
  let (p, b, done) := b.poll
  (t.settle done, p, b)

/-- Gives a body up. -/
def close (t : Telemetry) (b : Body) : Telemetry := t.settle b.close

/-- Reads at most so many pieces and gives the body up. -/
def readSteps (t : Telemetry) (b : Body) (seen : Delivered) : Nat → Telemetry × Delivered
  | 0 => (t.close b, seen)
  | n + 1 =>
      let (t, p, b) := t.poll b
      match p with
      | .pending => t.readSteps b seen n
      | .data text => t.readSteps b { seen with text := seen.text ++ text } n
      | .trailers fields => t.readSteps b { seen with trailers := some fields } n
      | .failed message => (t.close b, { seen with failure := some message })
      | .finished => (t.close b, seen)

/-- Reads a body until it ends or fails. -/
def read (t : Telemetry) (b : Body) : Telemetry × Delivered := t.readSteps b {} (b.steps + 1)

end Telemetry

end TrafficMeter.Traffic
