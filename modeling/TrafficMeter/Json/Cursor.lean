/-!
# Reading positions

A data text is read as bytes from left to right.  A flaw is found either at the byte that was
read last or at the byte that comes next, and is reported by line and column of that point.
-/

namespace TrafficMeter.Json

/-- What can be wrong with a data text. -/
inductive Fault where
  | endInList
  | endInObject
  | endInString
  | endInValue
  | expectedColon
  | expectedListSeparator
  | expectedObjectSeparator
  | expectedIdent
  | expectedValue
  | invalidEscape
  | invalidNumber
  | numberOutOfRange
  | controlCharacter
  | keyNotString
  | loneSurrogate
  | unfinishedSurrogate
  | trailingComma
  | tooDeep
deriving DecidableEq, Repr

/-- The text of a fault. -/
def Fault.message : Fault → String
  | endInList => "EOF while parsing a list"
  | endInObject => "EOF while parsing an object"
  | endInString => "EOF while parsing a string"
  | endInValue => "EOF while parsing a value"
  | expectedColon => "expected `:`"
  | expectedListSeparator => "expected `,` or `]`"
  | expectedObjectSeparator => "expected `,` or `\x7d`"
  | expectedIdent => "expected ident"
  | expectedValue => "expected value"
  | invalidEscape => "invalid escape"
  | invalidNumber => "invalid number"
  | numberOutOfRange => "number out of range"
  | controlCharacter => "control character (\\u0000-\\u001F) found while parsing a string"
  | keyNotString => "key must be a string"
  | loneSurrogate => "lone leading surrogate in hex escape"
  | unfinishedSurrogate => "unexpected end of hex escape"
  | trailingComma => "trailing comma"
  | tooDeep => "recursion limit exceeded"

/-- A step from a value into a part of it. -/
inductive Step where
  | item (index : Nat)
  | member (name : String)
  /-- A member of which no name is known yet. -/
  | unnamed
deriving DecidableEq, Repr

/-- A fault, the count of bytes up to it, and the steps to the value it was found in. -/
structure Flaw where
  fault : Fault
  offset : Nat
  path : List Step := []
deriving DecidableEq, Repr

/-- The bytes still to be read and the count of those that were. -/
structure Cursor where
  rest : List UInt8
  offset : Nat
deriving DecidableEq, Repr

namespace Cursor

/-- The next byte. -/
def peek? (c : Cursor) : Option UInt8 := c.rest.head?

/-- Passes the next byte, if there is one. -/
def skip (c : Cursor) : Cursor :=
  match c.rest with
  | [] => c
  | _ :: rest => ⟨rest, c.offset + 1⟩

/-- Passes bytes while a test holds. -/
def skipWhile (p : UInt8 → Bool) (c : Cursor) : Cursor :=
  ⟨c.rest.dropWhile p, c.offset + (c.rest.takeWhile p).length⟩

/-- A fault in what was read last. -/
def here (c : Cursor) (fault : Fault) : Flaw := { fault, offset := c.offset }

/-- A fault in the byte that comes next. -/
def ahead (c : Cursor) (fault : Fault) : Flaw := { fault, offset := c.skip.offset }

/-- Space, line feed, tab and carriage return. -/
def isBlank (b : UInt8) : Bool := b == 32 || b == 10 || b == 9 || b == 13

/-- Passes blanks. -/
def skipBlanks (c : Cursor) : Cursor := c.skipWhile isBlank

end Cursor

/-- The line and the column of a point in a text; the column counts from the line's start. -/
def lineColumn (text : List UInt8) (offset : Nat) : Nat × Nat :=
  let before := text.take offset
  ((before.filter (· == 10)).length + 1, (before.reverse.takeWhile (· != 10)).length)

/-- The text of a path; items are put in brackets and members parted by points. -/
def pathText (path : List Step) : String :=
  let written := fun (first : Bool) (s : Step) =>
    let part := if first then "" else "."
    match s with
    | .item index => "[" ++ String.ofList (Nat.toDigits 10 index) ++ "]"
    | .member name => part ++ name
    | .unnamed => part ++ "?"
  match path with
  | [] => ""
  | s :: rest => written true s ++ String.join (rest.map (written false))

/-- Whether a path tells a reader where to look. -/
def tellsPlace (path : List Step) : Bool := path.any (· != .unnamed)

/-- The text of a flaw. -/
def Flaw.message (text : List UInt8) (f : Flaw) : String :=
  let (line, column) := lineColumn text f.offset
  (if tellsPlace f.path then pathText f.path ++ ": " else "") ++ f.fault.message ++ " at line " ++
    String.ofList (Nat.toDigits 10 line) ++ " column " ++ String.ofList (Nat.toDigits 10 column)

end TrafficMeter.Json
