import TrafficMeter.Http.Headers

/-!
# Media types

A media type is a type and a subtype with parameters.  A subtype may end in a plus sign and a
suffix that names the format underneath.  Upper and lower case are the same.

Main statement: `isJson_iff`, which media types stand for data texts.
-/

namespace TrafficMeter.Http

/-- A media type without its parameters, in lower case. -/
structure MediaType where
  type : String
  subtype : String
  suffix : Option String
deriving DecidableEq, Repr

namespace MediaType

/-- Characters of types, subtypes and parameters. -/
def isNameChar (c : Char) : Bool := Text.isTokenChar c

/-- The rest after a quoted value, whose opening quote has been passed; the closing quote is never
the first character.  What follows it may only be blanks up to the next semicolon or the end. -/
def afterQuoted? (cs : List Char) : Option (List Char) :=
  match cs with
  | [] => none
  | first :: more =>
      if first.toNat < 0x20 then none
      else if (more.takeWhile (· != '"')).any fun c => c.toNat < 0x20 then none
      else
        match more.dropWhile (· != '"') with
        | [] => none
        | _ :: rest =>
            match rest.dropWhile (· == ' ') with
            | [] => some []
            | ';' :: next => some next
            | _ => none

/-- The rest after a value without quotes. -/
def afterPlain? (cs : List Char) : Option (List Char) :=
  match cs.dropWhile isNameChar with
  | [] => some []
  | ';' :: rest => if (cs.takeWhile isNameChar).isEmpty then none else some rest
  | _ => none

/-- Whether a text is a row of parameters.  Fuel of the length of the text is enough. -/
def parameters : Nat → List Char → Bool
  | _, [] => true
  | 0, _ => false
  | fuel + 1, cs =>
      let cs := cs.dropWhile (· == ' ')
      if cs = [] then true
      else if (cs.takeWhile isNameChar).isEmpty then false
      else
        match cs.dropWhile isNameChar with
        | '=' :: '"' :: rest => (afterQuoted? rest).any (parameters fuel)
        | '=' :: rest => (afterPlain? rest).any (parameters fuel)
        | _ => false

/-- Cuts a subtype at its last plus sign, unless the sign is its first character. -/
def cutSuffix (subtype : List Char) : List Char × Option (List Char) :=
  let back := subtype.reverse
  match back.dropWhile (· != '+') with
  | _ :: front =>
      if front = [] then (subtype, none)
      else (front.reverse, some (back.takeWhile (· != '+')).reverse)
  | [] => (subtype, none)

/-- Reads a media type. -/
def read? (s : String) : Option MediaType :=
  let cs := (Text.lowerAscii s).toList
  let type := cs.takeWhile isNameChar
  match cs.dropWhile isNameChar with
  | '/' :: rest =>
      let subtype := rest.takeWhile isNameChar
      let (front, suffix) := cutSuffix subtype
      let media : MediaType := ⟨String.ofList type, String.ofList front, suffix.map String.ofList⟩
      if type = [] then none
      else
        match rest.dropWhile isNameChar with
        | [] => some media
        | ';' :: more =>
            if subtype ≠ [] && parameters (more.length + 1) more then some media else none
        | _ => none
  | _ => none

/-- Whether the media type stands for data texts. -/
def isJson (m : MediaType) : Bool :=
  m.type == "application" && (m.subtype == "json" || m.suffix == some "json")

/-- Which media types stand for data texts. -/
theorem isJson_iff (m : MediaType) :
    m.isJson = true ↔ m.type = "application" ∧ (m.subtype = "json" ∨ m.suffix = some "json") := by
  simp [isJson]

end MediaType

/-- Whether the fields say that the body is a data text. -/
def Headers.sayJson (hs : Headers) : Bool :=
  ((hs.text? "content-type").bind MediaType.read?).any MediaType.isJson

end TrafficMeter.Http
