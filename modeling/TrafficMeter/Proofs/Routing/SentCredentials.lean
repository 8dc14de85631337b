import TrafficMeter.Proofs.Routing.Gate

/-!
# Credentials on their way through a field

A client joins a user name and a password by a colon. What arrives is cut at the first colon, which
is another one if the user name has a colon itself. A gate decides on what arrives, as verifying it
decides.

Main statement: `gate_verifies_sent`.
-/

namespace TrafficMeter

namespace Auth.Credentials

/-- Credentials whose user name ends at the first colon of a text. -/
structure CutFrom (c : Credentials) (text : String) : Prop where
  joined : c.user ++ ":" ++ c.password = text
  plain : ':' ∉ c.user.toList

theorem cutFrom_iff_split? {c : Credentials} {text : String} :
    c.CutFrom text ↔ split? text.toList = some c := by
  rw [split?_eq_some_iff, String.toList_inj]
  constructor
  · rintro ⟨joined, plain⟩
    exact ⟨joined.symm, plain⟩
  · rintro ⟨joined, plain⟩
    exact ⟨joined.symm, plain⟩

/-- A text is cut in one way. -/
theorem CutFrom.unique {c d : Credentials} {text : String} (first : c.CutFrom text)
    (second : d.CutFrom text) : c = d :=
  Option.some.inj ((cutFrom_iff_split?.mp first).symm.trans (cutFrom_iff_split?.mp second))

/-- What was joined by a colon can be cut. -/
theorem exists_cutFrom (user password : String) :
    ∃ c : Credentials, c.CutFrom (user ++ ":" ++ password) := by
  have colon : ':' ∈ (user ++ ":" ++ password).toList := by simp
  cases cut : split? (user ++ ":" ++ password).toList with
  | some c => exact ⟨c, cutFrom_iff_split?.mpr cut⟩
  | none =>
      exfalso
      rw [split?] at cut
      split at cut
      · cases cut
      · next none =>
          have all := List.takeWhile_append_dropWhile (p := (· != ':'))
            (l := (user ++ ":" ++ password).toList)
          rw [none, List.append_nil] at all
          rw [← all] at colon
          have other := List.all_eq_true.mp List.all_takeWhile ':' colon
          simp at other

/-- What was written is read as what it is cut into. -/
theorem CutFrom.read?_write {c : Credentials} {user password : String}
    (cut : c.CutFrom (user ++ ":" ++ password)) : read? (write ⟨user, password⟩) = some c := by
  simp only [read?, payload?_write, Text.Base64.decode_encode, Text.ofBytes?_bytes, bind,
    Option.bind_some]
  exact cutFrom_iff_split?.mp cut

end Auth.Credentials

/-- Accounts are asked about what arrives of sent credentials. -/
theorem Auth.Accounts.authorize_of_sent (accounts : Accounts) {hs : Http.Headers}
    {user password : String}
    (first : Credentials.First hs "authorization" (Credentials.write ⟨user, password⟩))
    {arrived : Credentials} (cut : arrived.CutFrom (user ++ ":" ++ password)) :
    accounts.authorize hs = accounts.verify arrived := by
  rw [authorize, Credentials.ofHeaders?, Credentials.first?_eq_some_iff.mpr first,
    Option.bind_some, cut.read?_write, Option.bind_some]

namespace Routing

open TrafficMeter.Auth
open TrafficMeter.Http (Request)
open TrafficMeter.Traffic (Telemetry)

/-- A gate decides on sent credentials as verifying decides on what arrives of them, which is what
was sent if the user name has no colon. -/
theorem gate_verifies_sent (accounts : Accounts) (user password : String) {request : Request}
    (first : Credentials.First request.headers "authorization"
      (Credentials.write ⟨user, password⟩)) :
    ∃ arrived : Credentials, arrived.CutFrom (user ++ ":" ++ password) ∧
      (':' ∉ user.toList → arrived = ⟨user, password⟩) ∧
      ∀ core captures elapsed inner t,
        respondThrough core request captures elapsed (.gate accounts :: inner) t =
          match accounts.verify arrived with
          | some name =>
              respondThrough core request captures elapsed inner
                (t.note (.credentialsAccepted name request.path))
          | none =>
              (t.note (.credentialsRejected request.path),
                .ok { status := 401, headers := [("www-authenticate", challenge)] }) := by
  obtain ⟨arrived, cut⟩ := Credentials.exists_cutFrom user password
  refine ⟨arrived, cut, fun plain => cut.unique ⟨rfl, plain⟩, ?_⟩
  have known := accounts.authorize_of_sent first cut
  intro core captures elapsed inner t
  cases verdict : accounts.verify arrived with
  | some name => rw [respondThrough, known, verdict]
  | none =>
      exact respondThrough_gate_refused core captures elapsed inner t
        (known.trans verdict)

/-- A request with the credentials of a user whose name has a colon. -/
def colonSent : Request :=
  { method := "GET", target := { path := "/metrics" },
    headers := [("accept", "*/*"), ("authorization", Credentials.write ⟨"prom:scr", "ape"⟩),
      ("authorization", "Bearer x")] }

/-- The credentials that arrive are those of another user, whose password has the colon. -/
theorem gate_verifies_sent_colon :
    Credentials.First colonSent.headers "authorization" (Credentials.write ⟨"prom:scr", "ape"⟩) ∧
      ∃ arrived : Credentials, arrived = ⟨"prom", "scr:ape"⟩ ∧
        respondThrough (.handler Handler.notFound) colonSent [] 0
            [.gate ⟨[("ops", "x"), ("prom", "scr:ape")]⟩] {} =
          respondThrough (.handler Handler.notFound) colonSent [] 0 []
            (Telemetry.note {} (.credentialsAccepted "prom" "/metrics")) := by
  have first : Credentials.First colonSent.headers "authorization"
      (Credentials.write ⟨"prom:scr", "ape"⟩) :=
    ⟨[("accept", "*/*")], [("authorization", "Bearer x")], rfl, by decide⟩
  obtain ⟨arrived, cut, -, decides⟩ :=
    gate_verifies_sent ⟨[("ops", "x"), ("prom", "scr:ape")]⟩ "prom:scr" "ape" first
  obtain rfl := cut.unique (d := ⟨"prom", "scr:ape"⟩) ⟨rfl, by decide⟩
  have known : Accounts.verify ⟨[("ops", "x"), ("prom", "scr:ape")]⟩ ⟨"prom", "scr:ape"⟩ =
      some "prom" := by
    decide
  refine ⟨first, _, rfl, ?_⟩
  rw [decides, known]
  rfl

end Routing

end TrafficMeter
