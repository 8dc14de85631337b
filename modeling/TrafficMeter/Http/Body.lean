import TrafficMeter.Http.Headers

/-!
# Sources of response bodies

A body is asked for its next piece again and again.  It may have none yet, yield data or
trailers, fail, or have ended; a body that failed or ended may still be asked.  What it says of
its size lies between a lower bound and, if it knows one, an upper bound.
-/

namespace TrafficMeter.Http

/-- The answer of a body that was asked for its next piece. -/
inductive Poll where
  | pending
  | data (text : String)
  | trailers (fields : List (String × String))
  | failed (message : String)
  | finished
deriving DecidableEq, Repr

/-- The bytes of data in an answer. -/
def Poll.dataBytes : Poll → Nat
  | data text => text.utf8ByteSize
  | _ => 0

/-- The bounds of a body's remaining size. -/
structure SizeHint where
  lower : Nat
  upper : Option Nat
deriving DecidableEq, Repr

/-- The size, if the bounds agree. -/
def SizeHint.exact? (h : SizeHint) : Option Nat :=
  if h.upper = some h.lower then h.upper else none

/-- Where a body comes from. -/
inductive Source where
  /-- A text of known length, given in one piece; the empty text has no piece. -/
  | whole (text : String)
  /-- Answers one after the other, then no more. -/
  | stream (script : List Poll)
deriving DecidableEq, Repr

namespace Source

/-- The empty body. -/
def empty : Source := whole ""

/-- Asks for the next piece. -/
def poll : Source → Poll × Source
  | whole text => if text.isEmpty then (.finished, empty) else (.data text, empty)
  | stream [] => (.finished, stream [])
  | stream (p :: rest) => (p, stream rest)

/-- What is known about the remaining size. -/
def sizeHint : Source → SizeHint
  | whole text => ⟨text.utf8ByteSize, some text.utf8ByteSize⟩
  | stream _ => ⟨0, none⟩

/-- Whether the body knows that nothing is left. -/
def isEnd : Source → Bool
  | whole text => text.isEmpty
  | stream _ => false

/-- So often the body can be asked before it only says that it has ended. -/
def steps : Source → Nat
  | whole _ => 1
  | stream script => script.length

end Source

end TrafficMeter.Http
