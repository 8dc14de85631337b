import TrafficMeter.Decimal.Layout

/-!
# Data values

The values that data texts stand for.  The members of an object are sorted by their names, each
name once.  The printer writes no blanks.
-/

namespace TrafficMeter.Json

/-- A data value.  Integers lie in the range of 64 bits, with or without sign; all other numbers
are finite floats. -/
inductive Value where
  | null
  | bool (b : Bool)
  | integer (i : Int)
  | float (x : Float)
  | string (s : String)
  | array (items : List Value)
  | object (members : List (String × Value))

namespace Value

/-- Sets a member in a sorted list of members. -/
def put (name : String) (v : Value) : List (String × Value) → List (String × Value)
  | [] => [(name, v)]
  | (n, w) :: rest =>
      if n = name then (name, v) :: rest
      else if name < n then (name, v) :: (n, w) :: rest
      else (n, w) :: put name v rest

/-- Two hexadecimal digits of a small number. -/
def hexPair (n : Nat) : List Char :=
  let digit := fun d : Nat => Char.ofNat (if d < 10 then d + 48 else d + 87)
  [digit (n / 16 % 16), digit (n % 16)]

/-- How a character is written between quotes. -/
def escapeChar (c : Char) : List Char :=
  if c = '"' then ['\\', '"']
  else if c = '\\' then ['\\', '\\']
  else if c = '\n' then ['\\', 'n']
  else if c = '\r' then ['\\', 'r']
  else if c = '\t' then ['\\', 't']
  else if c = '\x08' then ['\\', 'b']
  else if c = '\x0c' then ['\\', 'f']
  else if c.toNat < 0x20 then ['\\', 'u', '0', '0'] ++ hexPair c.toNat
  else [c]

/-- A text between quotes. -/
def quoted (s : String) : String := String.ofList ('"' :: s.toList.flatMap escapeChar ++ ['"'])

mutual

/-- The text of a value. -/
def print : Value → String
  | null => "null"
  | bool true => "true"
  | bool false => "false"
  | integer i => Decimal.integer i
  | float x => (Decimal.Binary.ofFloat x).dataText
  | string s => quoted s
  | array items => "[" ++ ",".intercalate (printItems items) ++ "]"
  | object members => "\x7b" ++ ",".intercalate (printMembers members) ++ "\x7d"

/-- The texts of the items of an array. -/
def printItems : List Value → List String
  | [] => []
  | v :: rest => print v :: printItems rest

/-- The texts of the members of an object. -/
def printMembers : List (String × Value) → List String
  | [] => []
  | (name, v) :: rest => (quoted name ++ ":" ++ print v) :: printMembers rest

end

end Value

end TrafficMeter.Json
