import TrafficMeter.Json.Number
import TrafficMeter.Json.Strings

/-!
# Reading data texts

The first value of a text is read; what follows it is not looked at.  A flaw is told with the
steps to the value in which it was found: a flaw between the items of an array belongs to the
array, a missing colon to the object, and a flaw between the members of an object or in a name to
a member that has no name yet.
-/

namespace TrafficMeter.Json

/-- So many brackets may be open at once, less one. -/
def depthLimit : Nat := 128

/-- Puts the steps to a value into a flaw. -/
def Flaw.within (path : List Step) (f : Flaw) : Flaw := { f with path }

/-- Passes the letters of a word. -/
def word (letters : List UInt8) (c : Cursor) : Except Flaw Cursor :=
  match letters with
  | [] => .ok c
  | l :: more =>
      match c.peek? with
      | none => .error (c.here .endInValue)
      | some b => if b = l then word more c.skip else .error (c.skip.here .expectedIdent)

/-- Passes the colon after a member's name. -/
def colon (c : Cursor) : Except Flaw Cursor :=
  let c := c.skipBlanks
  match c.peek? with
  | none => .error (c.ahead .endInObject)
  | some b => if b = 58 then .ok c.skip else .error (c.ahead .expectedColon)

/-- What comes next in an array or object. -/
inductive Next where
  | part
  | done
deriving DecidableEq, Repr

/-- Passes what parts the items of an array. -/
def nextItem (first : Bool) (c : Cursor) : Except Flaw (Next × Cursor) :=
  let c := c.skipBlanks
  match c.peek? with
  | none => .error (c.ahead .endInList)
  | some b =>
      if b = 93 then .ok (.done, c.skip)
      else if first then .ok (.part, c)
      else if b = 44 then
        let c := c.skip.skipBlanks
        match c.peek? with
        | none => .error (c.ahead .endInValue)
        | some d => if d = 93 then .error (c.ahead .trailingComma) else .ok (.part, c)
      else .error (c.ahead .expectedListSeparator)

/-- Passes what parts the members of an object, up to and with the opening quote of a name. -/
def nextMember (first : Bool) (c : Cursor) : Except Flaw (Next × Cursor) :=
  let c := c.skipBlanks
  match c.peek? with
  | none => .error (c.ahead .endInObject)
  | some b =>
      if b = 125 then .ok (.done, c.skip)
      else if first then
        if b = 34 then .ok (.part, c.skip) else .error (c.ahead .keyNotString)
      else if b = 44 then
        let c := c.skip.skipBlanks
        match c.peek? with
        | none => .error (c.ahead .endInValue)
        | some d =>
            if d = 34 then .ok (.part, c.skip)
            else if d = 125 then .error (c.ahead .trailingComma)
            else .error (c.ahead .keyNotString)
      else .error (c.ahead .expectedObjectSeparator)

/-- Reads a value that is neither an array nor an object, given its first byte. -/
def scalar (b : UInt8) (c : Cursor) : Except Flaw (Value × Cursor) :=
  if b = 110 then (word [117, 108, 108] c.skip).map fun c => (.null, c)
  else if b = 116 then (word [114, 117, 101] c.skip).map fun c => (.bool true, c)
  else if b = 102 then (word [97, 108, 115, 101] c.skip).map fun c => (.bool false, c)
  else if b = 45 then Number.read true c.skip
  else if Number.isDigit b then Number.read false c
  else if b = 34 then (Strings.read c.skip).map fun (s, c) => (.string s, c)
  else .error (c.ahead .expectedValue)

mutual

/-- Reads a value.  `depth` counts the brackets that are open; fuel of twice the bytes left is
enough. -/
def readValue (path : List Step) (depth : Nat) (c : Cursor) : Nat → Except Flaw (Value × Cursor)
  | 0 => .error (c.here .endInValue)
  | fuel + 1 =>
      let c := c.skipBlanks
      match c.peek? with
      | none => .error ((c.ahead .endInValue).within path)
      | some b =>
          if b = 91 ∨ b = 123 then
            if depthLimit ≤ depth + 1 then .error ((c.ahead .tooDeep).within path)
            else if b = 91 then readItems path (depth + 1) [] c.skip fuel
            else readMembers path (depth + 1) true [] c.skip fuel
          else (scalar b c).mapError (Flaw.within path)

/-- Reads the items of an array that are left; those before them come in reverse. -/
def readItems (path : List Step) (depth : Nat) (before : List Value) (c : Cursor) :
    Nat → Except Flaw (Value × Cursor)
  | 0 => .error (c.here .endInList)
  | fuel + 1 =>
      match nextItem before.isEmpty c with
      | .error f => .error (f.within path)
      | .ok (.done, c) => .ok (.array before.reverse, c)
      | .ok (.part, c) =>
          match readValue (path ++ [.item before.length]) depth c fuel with
          | .error f => .error f
          | .ok (v, c) => readItems path depth (v :: before) c fuel

/-- Reads the members of an object that are left. -/
def readMembers (path : List Step) (depth : Nat) (first : Bool) (before : List (String × Value))
    (c : Cursor) : Nat → Except Flaw (Value × Cursor)
  | 0 => .error (c.here .endInObject)
  | fuel + 1 =>
      match nextMember first c with
      | .error f => .error (f.within (path ++ [.unnamed]))
      | .ok (.done, c) => .ok (.object before, c)
      | .ok (.part, c) =>
          match Strings.read c with
          | .error f => .error (f.within (path ++ [.unnamed]))
          | .ok (name, c) =>
              match colon c with
              | .error f => .error (f.within path)
              | .ok c =>
                  match readValue (path ++ [.member name]) depth c fuel with
                  | .error f => .error f
                  | .ok (v, c) => readMembers path depth false (Value.put name v before) c fuel

end

/-- Reads the first value of a text. -/
def read (text : List UInt8) : Except Flaw Value :=
  (readValue [] 0 ⟨text, 0⟩ (2 * text.length + 2)).map Prod.fst

end TrafficMeter.Json
