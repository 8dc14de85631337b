import TrafficMeter.Assoc
import TrafficMeter.Auth.Credentials
import TrafficMeter.Error

/-!
# Accounts

The accounts that may read the exporter.  A user has one password, the last one given; the empty
user name is refused.

Main statement: `ofList_eq_error_iff`, that accounts are refused exactly if a user name is empty.
-/

namespace TrafficMeter.Auth

/-- User names with their passwords; each name comes once. -/
structure Accounts where
  entries : List (String × String) := []
deriving DecidableEq, Repr

namespace Accounts

/-- Sets the password of a user. -/
def insert (a : Accounts) (user password : String) : Accounts := ⟨Assoc.put user password a.entries⟩

/-- The password of a user. -/
def password? (a : Accounts) (user : String) : Option String := List.lookup user a.entries

/-- Adds pairs one after the other. -/
def insertAll (a : Accounts) : List (String × String) → Except MeterError Accounts
  | [] => .ok a
  | (user, password) :: rest =>
      if user.isEmpty then .error .emptyUsername else (a.insert user password).insertAll rest

/-- Accounts from pairs of user name and password. -/
def ofList (pairs : List (String × String)) : Except MeterError Accounts :=
  ({} : Accounts).insertAll pairs

/-- Whether there are no accounts. -/
def isEmpty (a : Accounts) : Bool := a.entries.isEmpty

/-- The user whom credentials name, if the password is right. -/
def verify (a : Accounts) (c : Credentials) : Option String :=
  if a.password? c.user = some c.password then some c.user else none

/-- The user whose credentials a request carries. -/
def authorize (a : Accounts) (hs : Http.Headers) : Option String :=
  (Credentials.ofHeaders? hs).bind a.verify

/-- What setting a password does to the passwords. -/
theorem password?_insert (a : Accounts) (user password u : String) :
    (a.insert user password).password? u = if u = user then some password else a.password? u :=
  Assoc.lookup_put user password a.entries u

/-- Accounts are refused exactly if a user name is empty. -/
theorem insertAll_eq_error_iff (a : Accounts) (pairs : List (String × String)) :
    a.insertAll pairs = .error .emptyUsername ↔ ∃ p ∈ pairs, p.1 = "" := by
  induction pairs generalizing a with
  | nil => simp [insertAll]
  | cons p rest ih =>
      obtain ⟨user, password⟩ := p
      by_cases h : user = ""
      · simp [insertAll, h]
      · simp [insertAll, h, ih]

/-- Accounts are refused exactly if a user name is empty. -/
theorem ofList_eq_error_iff (pairs : List (String × String)) :
    ofList pairs = .error .emptyUsername ↔ ∃ p ∈ pairs, p.1 = "" :=
  insertAll_eq_error_iff _ _

end Accounts

end TrafficMeter.Auth
