import TrafficMeter.Proofs.Auth.Reading
import TrafficMeter.Routing.Service

/-!
# The verdict of a gate

Whom a gate lets through is told by the pairs of user name and password that its accounts were made
of, and by the first field of the request that is meant for it.

Main statement: `gate_verdict`, which says when accounts can be made and what their gate does.
-/

namespace TrafficMeter.Routing

open TrafficMeter.Auth
open TrafficMeter.Http (Request Headers)
open TrafficMeter.Traffic (Telemetry)

/-- A request shows the password that the last pair of a user has. -/
def Admits (pairs : List (String × String)) (hs : Headers) (user : String) : Prop :=
  ∃ value password, Credentials.First hs "authorization" value ∧
    Credentials.ShownBy ⟨user, password⟩ value ∧ Accounts.LastPair pairs user password

theorem authorize_eq_some_iff {pairs : List (String × String)} {accounts : Accounts}
    (made : Accounts.ofList pairs = .ok accounts) {hs : Headers} {user : String} :
    accounts.authorize hs = some user ↔ Admits pairs hs user := by
  rw [Accounts.authorize, Option.bind_eq_some_iff]
  constructor
  · rintro ⟨⟨name, password⟩, shown, right⟩
    obtain ⟨value, first, looks⟩ := Credentials.ofHeaders?_eq_some_iff.mp shown
    rw [Accounts.verify] at right
    split at right
    · next known =>
        cases right
        exact ⟨value, password, first, looks, (Accounts.password?_ofList made _ _).mp known⟩
    · cases right
  · rintro ⟨value, password, first, looks, last⟩
    refine ⟨⟨user, password⟩, Credentials.ofHeaders?_eq_some_iff.mpr ⟨value, first, looks⟩, ?_⟩
    rw [Accounts.verify, if_pos ((Accounts.password?_ofList made _ _).mpr last)]

theorem authorize_eq_none_iff {pairs : List (String × String)} {accounts : Accounts}
    (made : Accounts.ofList pairs = .ok accounts) {hs : Headers} :
    accounts.authorize hs = none ↔ ∀ user, ¬ Admits pairs hs user := by
  rw [Option.eq_none_iff_forall_ne_some]
  constructor
  · intro none user admits
    exact none user ((authorize_eq_some_iff made).mpr admits)
  · intro none user known
    exact none user ((authorize_eq_some_iff made).mp known)

/-- Only the pairs of a user tell the last one. -/
theorem lastPair_filter (pairs : List (String × String)) (user password : String) :
    Accounts.LastPair (pairs.filter (·.1 = user)) user password ↔
      Accounts.LastPair pairs user password := by
  constructor
  · rintro ⟨before, after, own, last⟩
    obtain ⟨front, back, rfl, -, hb⟩ := List.filter_eq_append_iff.mp own
    obtain ⟨between, rest, rfl, -, -, hr⟩ := List.filter_eq_cons_iff.mp hb
    refine ⟨front ++ between, rest, by simp, ?_⟩
    intro p member same
    refine last p ?_ same
    rw [← hr]
    exact List.mem_filter.mpr ⟨member, by simpa using same⟩
  · rintro ⟨before, after, rfl, last⟩
    refine ⟨before.filter (·.1 = user), after.filter (·.1 = user), by simp, ?_⟩
    intro p member
    exact last p (List.mem_filter.mp member).1

/-- What is expected of a gate whose accounts were made of some pairs. -/
structure Guards (pairs : List (String × String)) (accounts : Accounts) : Prop where
  /-- Who shows the password of the last pair gets the answer from behind the gate. -/
  opens : ∀ core request captures elapsed inner t user, Admits pairs request.headers user →
    respondThrough core request captures elapsed (.gate accounts :: inner) t =
      respondThrough core request captures elapsed inner
        (t.note (.credentialsAccepted user request.path))
  /-- All others are asked for credentials, and nothing behind the gate acts. -/
  refuses : ∀ core request captures elapsed inner t, (∀ user, ¬ Admits pairs request.headers user) →
    respondThrough core request captures elapsed (.gate accounts :: inner) t =
      (t.note (.credentialsRejected request.path),
        .ok { status := 401, headers := [("www-authenticate", challenge)] })
  /-- The order of pairs matters for each user by itself only. -/
  order : ∀ others made, Accounts.ofList others = .ok made →
    (∀ user, others.filter (·.1 = user) = pairs.filter (·.1 = user)) →
      ∀ hs, made.authorize hs = accounts.authorize hs
  /-- A password that is not that of the last pair is of no use. -/
  overridden : ∀ hs value user password, Credentials.First hs "authorization" value →
    Credentials.ShownBy ⟨user, password⟩ value → ¬ Accounts.LastPair pairs user password →
      accounts.authorize hs = none
  nobody : pairs = [] → ∀ hs, accounts.authorize hs = none

theorem guards_ofList {pairs : List (String × String)} {accounts : Accounts}
    (made : Accounts.ofList pairs = .ok accounts) : Guards pairs accounts where
  opens := by
    intro core request captures elapsed inner t user admits
    rw [respondThrough, (authorize_eq_some_iff made).mpr admits]
  refuses := by
    intro core request captures elapsed inner t none
    exact respondThrough_gate_refused core captures elapsed inner t
      ((authorize_eq_none_iff made).mpr none)
  order := by
    intro others again remade same hs
    apply Option.ext
    intro user
    rw [authorize_eq_some_iff made, authorize_eq_some_iff remade]
    simp only [Admits, ← lastPair_filter others user, ← lastPair_filter pairs user, same]
  overridden := by
    intro hs value user password first shown wrong
    have read := Credentials.ofHeaders?_eq_some_iff.mpr ⟨value, first, shown⟩
    rw [Accounts.authorize, read, Option.bind_some, Accounts.verify, if_neg]
    intro known
    exact wrong ((Accounts.password?_ofList made user password).mp known)
  nobody := by
    rintro rfl hs
    refine (authorize_eq_none_iff made).mpr ?_
    rintro user ⟨value, password, -, -, before, after, none, -⟩
    exact List.append_ne_nil_of_right_ne_nil before (List.cons_ne_nil _ after) none.symm

/-- Accounts are made unless a user name is empty, and their gate lets through who shows the
password of the last pair. -/
theorem gate_verdict (pairs : List (String × String)) :
    match Accounts.ofList pairs with
    | .error e => e = .emptyUsername ∧ ∃ p ∈ pairs, p.1 = ""
    | .ok accounts => (∀ p ∈ pairs, p.1 ≠ "") ∧ Guards pairs accounts := by
  have named := Accounts.ofList_eq_error_iff pairs
  cases made : Accounts.ofList pairs with
  | error e =>
      have cause := Accounts.insertAll_eq_error made
      subst cause
      exact ⟨rfl, named.mp made⟩
  | ok accounts =>
      refine ⟨?_, guards_ofList made⟩
      intro p member empty
      rw [named.mpr ⟨p, member, empty⟩] at made
      cases made

end TrafficMeter.Routing
