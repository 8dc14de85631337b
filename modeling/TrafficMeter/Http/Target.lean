import TrafficMeter.Text.Token

/-!
# Request targets

A request names what it is for by a target: a path with an optional query, the same after a
scheme and an authority, an authority alone, or a star.  The text is checked, its fragment is
dropped, and nothing in it is decoded.

Main statement: `splitPath_of_clean`, that a path without marks is taken as it stands.
-/

namespace TrafficMeter.Http

/-- Why a text is no request target. -/
inductive TargetError where
  | empty
  | tooLong
  | schemeTooLong
  | badCharacter
  | badFormat
  | badAuthority
deriving DecidableEq, Repr

/-- The text of a failure. -/
def TargetError.message : TargetError → String
  | empty => "empty string"
  | tooLong => "uri too long"
  | schemeTooLong => "scheme too long"
  | badCharacter => "invalid uri character"
  | badFormat => "invalid format"
  | badAuthority => "invalid authority"

/-- A request target.  The path of an authority alone is empty. -/
structure Target where
  scheme : Option String := none
  authority : Option String := none
  path : String
  query : Option String := none
deriving DecidableEq, Repr

namespace Target

/-- The most bytes of a target. -/
def maxBytes : Nat := 65534

/-- The most characters of a scheme that is not one of the web. -/
def maxScheme : Nat := 64

/-- The most colons of an authority outside brackets and user information. -/
def maxColons : Nat := 8

/-- Characters of paths, the marks that end them included. -/
def isPathChar (c : Char) : Bool :=
  decide (0x21 ≤ c.toNat) && c.toNat != 0x7f && !"<>\x60".toList.contains c

/-- Characters of queries. -/
def isQueryChar (c : Char) : Bool :=
  decide (0x21 ≤ c.toNat) && c.toNat != 0x7f && !"\"#<>".toList.contains c

/-- Characters of schemes. -/
def isSchemeChar (c : Char) : Bool := c.isAlphanum || "+-.~".toList.contains c

/-- Characters of authorities, the percent sign not included. -/
def isAuthorityChar (c : Char) : Bool := c.isAlphanum || "!$&'()*+,-.:;=@[]_~".toList.contains c

/-- Splits the text after an authority at its first question mark; a number sign ends it. -/
def splitPath (cs : List Char) : Except TargetError (List Char × Option (List Char)) :=
  let kept := cs.takeWhile (· != '#')
  let path := kept.takeWhile (· != '?')
  if path.all isPathChar then
    match kept.dropWhile (· != '?') with
    | [] => .ok (path, none)
    | _ :: query => if query.all isQueryChar then .ok (path, some query) else .error .badCharacter
  else .error .badCharacter

/-- What has been seen of an authority. -/
structure Scan where
  colons : Nat := 0
  opened : Bool := false
  closed : Bool := false
  /-- A percent sign outside the user information and the brackets. -/
  percent : Bool := false
  /-- The last character ended the user information. -/
  afterAt : Bool := false

/-- Takes one character of an authority into account. -/
def Scan.step (s : Scan) (c : Char) : Except TargetError Scan :=
  let s := { s with afterAt := false }
  if c = ':' then
    if maxColons ≤ s.colons then .error .badAuthority else .ok { s with colons := s.colons + 1 }
  else if c = '[' then
    if s.percent || s.opened then .error .badAuthority else .ok { s with opened := true }
  else if c = ']' then
    if !s.opened || s.closed then .error .badAuthority
    else .ok { s with closed := true, colons := 0, percent := false }
  else if c = '@' then .ok { s with colons := 0, percent := false, afterAt := true }
  else if c = '%' then .ok { s with percent := true }
  else if isAuthorityChar c then .ok s
  else .error .badCharacter

/-- Whether the end of an authority may follow. -/
def Scan.complete (s : Scan) : Bool :=
  s.opened == s.closed && decide (s.colons ≤ 1) && !s.afterAt && !s.percent

/-- Splits a text where its authority ends. -/
def splitAuthority (cs : List Char) : Except TargetError (List Char × List Char) :=
  let isEnd := fun c : Char => c = '/' || c = '?' || c = '#'
  let authority := cs.takeWhile (!isEnd ·)
  match authority.foldlM Scan.step {} with
  | .error e => .error e
  | .ok s =>
      if cs = [] then .error .empty
      else if s.complete then .ok (authority, cs.dropWhile (!isEnd ·))
      else .error .badAuthority

/-- The characters after a beginning, compared without regard to case. -/
def afterWord? (word : String) (cs : List Char) : Option (List Char) :=
  let n := word.toList.length
  if (cs.take n).map Char.toLower = word.toList then some (cs.drop n) else none

/-- Splits a scheme with its colon and two slashes from a text.  Other schemes than those of the
web keep their case. -/
def splitScheme (cs : List Char) : Except TargetError (Option (String × List Char)) :=
  match afterWord? "http://" cs, afterWord? "https://" cs with
  | some rest, _ => .ok (some ("http", rest))
  | none, some rest => .ok (some ("https", rest))
  | none, none =>
      let name := cs.takeWhile isSchemeChar
      match cs.dropWhile isSchemeChar with
      | ':' :: '/' :: '/' :: rest =>
          if cs.length ≤ 3 then .ok none
          else if maxScheme < name.length then .error .schemeTooLong
          else .ok (some (String.ofList name, rest))
      | _ => .ok none

/-- A target from its path and query; an empty path is the root. -/
def ofParts (scheme authority : Option String) (path : List Char) (query : Option (List Char)) :
    Target :=
  { scheme
    authority
    path := if path = [] then "/" else String.ofList path
    query := query.map String.ofList }

/-- Reads a target that starts with neither a slash nor is a star. -/
def readFull (cs : List Char) : Except TargetError Target := do
  match ← splitScheme cs with
  | none =>
      let (authority, rest) ← splitAuthority cs
      if rest = [] then .ok { authority := some (String.ofList authority), path := "" }
      else .error (if cs.length = 1 then .badCharacter else .badFormat)
  | some (scheme, rest) =>
      let (authority, rest) ← splitAuthority rest
      if authority = [] then .error .badFormat
      else
        let (path, query) ← splitPath rest
        .ok (ofParts (some scheme) (some (String.ofList authority)) path query)

/-- Reads a request target. -/
def read (s : String) : Except TargetError Target :=
  if maxBytes < s.utf8ByteSize then .error .tooLong
  else
    match s.toList with
    | [] => .error .empty
    | ['*'] => .ok { path := "*" }
    | '/' :: rest => do
        let (path, query) ← splitPath ('/' :: rest)
        .ok (ofParts none none path query)
    | cs => readFull cs

/-- The text of a target. -/
def text (t : Target) : String :=
  (match t.scheme with
    | some scheme => scheme ++ "://"
    | none => "") ++
  t.authority.getD "" ++ t.path ++
  (match t.query with
    | some query => "?" ++ query
    | none => "")

/-- A path without marks is taken as it stands. -/
theorem splitPath_of_clean {cs : List Char} (hc : cs.all isPathChar = true) (hh : '#' ∉ cs)
    (hq : '?' ∉ cs) : splitPath cs = .ok (cs, none) := by
  have keep : ∀ (m : Char) (cs : List Char), m ∉ cs →
      cs.takeWhile (· != m) = cs ∧ cs.dropWhile (· != m) = [] := by
    intro m cs hm
    induction cs with
    | nil => exact ⟨rfl, rfl⟩
    | cons c rest ih =>
        simp only [List.mem_cons, not_or] at hm
        have hc : (c != m) = true := by simpa using Ne.symm hm.1
        simp [hc, ih hm.2]
  simp only [splitPath, (keep '#' cs hh).1, (keep '?' cs hq).1, hc, if_true, (keep '?' cs hq).2]

end Target

end TrafficMeter.Http
