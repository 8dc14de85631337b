import TrafficMeter.Http.Headers
import TrafficMeter.Text.Base64

/-!
# Credentials

A client shows who it is by a user name and a password, joined by a colon and written in base64
after the word `Basic`.  The first colon ends the user name, so a name with a colon cannot be
sent.

Main statement: `read?_write`, that credentials whose user name has no colon are read as they
were written.
-/

namespace TrafficMeter.Auth

/-- A user name and a password. -/
structure Credentials where
  user : String
  password : String
deriving DecidableEq, Repr

namespace Credentials

/-- The word before the credentials, in lower case. -/
def scheme : List Char := "basic".toList

/-- Splits a text at its first colon. -/
def split? (cs : List Char) : Option Credentials :=
  match cs.dropWhile (· != ':') with
  | _ :: password =>
      some ⟨String.ofList (cs.takeWhile (· != ':')), String.ofList password⟩
  | [] => none

/-- The base64 text of a field value: after the scheme, in any case, and one or more spaces. -/
def payload? (value : String) : Option (List Char) :=
  let cs := value.toList
  if (cs.take scheme.length).map Char.toLower = scheme then
    match cs.drop scheme.length with
    | ' ' :: rest => some (rest.dropWhile (· == ' '))
    | _ => none
  else none

/-- Reads a field value.  The empty base64 text stands for no credentials, as it has no colon. -/
def read? (value : String) : Option Credentials := do
  let letters ← payload? value
  let octets ← Text.Base64.decode letters
  let text ← Text.ofBytes? octets
  split? text.toList

/-- The credentials of a request: only the first field counts. -/
def ofHeaders? (hs : Http.Headers) : Option Credentials :=
  (hs.first? "authorization").bind read?

/-- The field value for credentials. -/
def write (c : Credentials) : String :=
  "Basic " ++ String.ofList (Text.Base64.encode (Text.bytes (c.user ++ ":" ++ c.password)))

/-- The first colon ends the user name. -/
theorem split?_join (c : Credentials) (h : ':' ∉ c.user.toList) :
    split? (c.user ++ ":" ++ c.password).toList = some c := by
  have go : ∀ us ps : List Char, ':' ∉ us →
      (us ++ ':' :: ps).takeWhile (· != ':') = us ∧
        (us ++ ':' :: ps).dropWhile (· != ':') = ':' :: ps := by
    intro us ps
    induction us with
    | nil => simp
    | cons u rest ih =>
        intro hu
        simp only [List.mem_cons, not_or] at hu
        have : (u != ':') = true := by simpa using Ne.symm hu.1
        simp [this, ih hu.2]
  have hs : (c.user ++ ":" ++ c.password).toList = c.user.toList ++ ':' :: c.password.toList := by
    simp
  simp only [split?, hs, (go _ _ h).1, (go _ _ h).2, String.ofList_toList]

/-- Base64 text does not begin with spaces. -/
theorem dropWhile_encode (bs : List UInt8) :
    (Text.Base64.encode bs).dropWhile (· == ' ') = Text.Base64.encode bs := by
  have space : ∀ n : Nat, n < 64 → (Text.Base64.letter n == ' ') = false := by decide
  have lead : ∀ (a : UInt8) (rest : List Char),
      (Text.Base64.letter (a.toNat / 4) :: rest).dropWhile (· == ' ') =
        Text.Base64.letter (a.toNat / 4) :: rest := by
    intro a rest
    have := a.toNat_lt
    rw [List.dropWhile_cons, space _ (by omega)]
    rfl
  match bs with
  | [] => rfl
  | [a] => exact lead a _
  | [a, _] => exact lead a _
  | a :: _ :: _ :: _ => exact lead a _

/-- The base64 text of written credentials is found again. -/
theorem payload?_write (c : Credentials) :
    payload? c.write =
      some (Text.Base64.encode (Text.bytes (c.user ++ ":" ++ c.password))) := by
  have hw : c.write.toList =
      "Basic ".toList ++ Text.Base64.encode (Text.bytes (c.user ++ ":" ++ c.password)) := by
    simp [write]
  simp [payload?, hw, scheme, dropWhile_encode]

/-- Credentials whose user name has no colon are read as they were written. -/
theorem read?_write (c : Credentials) (h : ':' ∉ c.user.toList) : read? c.write = some c := by
  simp only [read?, payload?_write, Text.Base64.decode_encode, Text.ofBytes?_bytes, bind,
    Option.bind_some]
  exact split?_join c h

end Credentials

end TrafficMeter.Auth
