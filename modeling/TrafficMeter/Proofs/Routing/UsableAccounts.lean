import TrafficMeter.Proofs.Routing.SentCredentials
import TrafficMeter.Proofs.Routing.Unseen

/-!
# Accounts that can be used

Any user name that is not empty can be given an account. But a user name with a colon never arrives
at a gate, as what arrives ends at the first colon. So whoever sends the user name and the password
of such an account is turned away, unless these look like the ones of another account.

Main statement: `usable_iff`, which accounts let their owners see the page.
-/

namespace TrafficMeter.Routing

open TrafficMeter.Auth
open TrafficMeter.Http (Request)
open TrafficMeter.Traffic (Telemetry Collectors Response)

/-- Whoever sends a user name and a password with GET for the path of an exporter behind the gate of
some accounts is shown the page. -/
def Usable (accounts : Accounts) (user password : String) : Prop :=
  ∀ (m : RequestMeter) (t u : Telemetry) (plain metered : Router) (request : Request)
    (elapsed : Float), plain.Built → (m.attach (some accounts) t plain).2 = .ok metered →
    request.method = "GET" → request.path = m.exporterPath →
    Credentials.First request.headers "authorization" (Credentials.write ⟨user, password⟩) →
    (metered.respond u request elapsed).2 = .ok (pageResponse (u.registry m.collectors.registry))

variable {pairs : List (String × String)} {accounts : Accounts} {user password : String}
  {arrived : Credentials}

theorem verify_eq_some_iff (made : Accounts.ofList pairs = .ok accounts) {c : Credentials}
    {name : String} :
    accounts.verify c = some name ↔ c.user = name ∧ Accounts.LastPair pairs c.user c.password := by
  rw [Accounts.verify, ← Accounts.password?_ofList made]
  split
  · next known => simp [known]
  · next unknown => simp [unknown]

/-- An account can be used if what arrives of it is an account. -/
theorem usable_of_lastPair (made : Accounts.ofList pairs = .ok accounts)
    (cut : arrived.CutFrom (user ++ ":" ++ password))
    (last : Accounts.LastPair pairs arrived.user arrived.password) :
    Usable accounts user password := by
  intro m t u plain metered request elapsed built done get own first
  refine respond_page built done own get ?_ elapsed u
  rintro guard ⟨⟩
  refine ⟨arrived.user, ?_⟩
  rw [accounts.authorize_of_sent first cut]
  exact (verify_eq_some_iff made).mpr ⟨rfl, last⟩

theorem lastPair_of_usable (made : Accounts.ofList pairs = .ok accounts)
    (cut : arrived.CutFrom (user ++ ":" ++ password)) (usable : Usable accounts user password) :
    Accounts.LastPair pairs arrived.user arrived.password := by
  by_contra missing
  -- an exporter on a router without other routes is enough
  let m : RequestMeter := ⟨Collectors.ofSubsystem 0 "http", "/metrics"⟩
  have alone : ExporterAlone "/metrics" := exporterAlone_of_no_mark (by decide) (by decide)
  obtain ⟨metered, done, -⟩ :=
    alone {} .empty (free_empty "/metrics") m.collectors (some accounts) {}
  let request : Request :=
    { method := "GET", target := { path := "/metrics" },
      headers := [("authorization", Credentials.write ⟨user, password⟩)] }
  have first : Credentials.First request.headers "authorization"
      (Credentials.write ⟨user, password⟩) := ⟨[], [], rfl, nofun⟩
  have closed : accounts.authorize request.headers = none := by
    rw [accounts.authorize_of_sent first cut, Option.eq_none_iff_forall_ne_some]
    intro name verified
    exact missing ((verify_eq_some_iff made).mp verified).2
  have page := usable m {} {} {} metered request 0 .empty done rfl rfl first
  rw [respond_closed .empty done rfl (.inl rfl) closed] at page
  cases page

/-- Nobody is let through under a name with a colon. -/
theorem authorize_ne_of_colon (made : Accounts.ofList pairs = .ok accounts)
    (colon : ':' ∈ user.toList) (hs : Http.Headers) : accounts.authorize hs ≠ some user := by
  intro known
  obtain ⟨value, password, -, shown, -⟩ := (authorize_eq_some_iff made).mp known
  obtain ⟨_, _, -, -, -, -, plain⟩ := shown
  exact plain colon

/-- An account can be used if and only if its user name and password, joined by a colon and cut at
the first one, are those of an account. All accounts can be used whose user names have no colon, and
under the other names nobody is let through. -/
theorem usable_iff (made : Accounts.ofList pairs = .ok accounts)
    (last : Accounts.LastPair pairs user password) :
    (Usable accounts user password ↔ ∃ arrived : Credentials,
      arrived.CutFrom (user ++ ":" ++ password) ∧
        Accounts.LastPair pairs arrived.user arrived.password) ∧
      (':' ∉ user.toList → Usable accounts user password) ∧
      (':' ∈ user.toList → ∀ hs, accounts.authorize hs ≠ some user) := by
  refine ⟨⟨fun usable => ?_, ?_⟩, fun plain => ?_, authorize_ne_of_colon made⟩
  · obtain ⟨arrived, cut⟩ := Credentials.exists_cutFrom user password
    exact ⟨arrived, cut, lastPair_of_usable made cut usable⟩
  · rintro ⟨arrived, cut, known⟩
    exact usable_of_lastPair made cut known
  · have cut : Credentials.CutFrom ⟨user, password⟩ (user ++ ":" ++ password) := ⟨rfl, plain⟩
    exact usable_of_lastPair made cut last

/-- A colon in a password does no harm. -/
theorem usable_colon_in_password :
    Accounts.ofList [("ops", "x"), ("prom", "old"), ("prom", "scr:ape")] =
        .ok ⟨[("ops", "x"), ("prom", "scr:ape")]⟩ ∧
      Accounts.LastPair [("ops", "x"), ("prom", "old"), ("prom", "scr:ape")] "prom" "scr:ape" ∧
      Usable ⟨[("ops", "x"), ("prom", "scr:ape")]⟩ "prom" "scr:ape" := by
  have made : Accounts.ofList [("ops", "x"), ("prom", "old"), ("prom", "scr:ape")] =
      .ok ⟨[("ops", "x"), ("prom", "scr:ape")]⟩ := rfl
  have last : Accounts.LastPair [("ops", "x"), ("prom", "old"), ("prom", "scr:ape")]
      "prom" "scr:ape" := ⟨[("ops", "x"), ("prom", "old")], [], rfl, nofun⟩
  exact ⟨made, last, (usable_iff made last).2.1 (by decide)⟩

/-- An account whose user name has a colon is accepted and of no use. -/
theorem not_usable_of_accepted :
    ¬ ∀ pairs accounts user password, Accounts.ofList pairs = .ok accounts →
      Accounts.LastPair pairs user password → Usable accounts user password := by
  intro always
  have made : Accounts.ofList [("a:b", "c")] = .ok ⟨[("a:b", "c")]⟩ := rfl
  have usable := always _ _ "a:b" "c" made ⟨[], [], rfl, nofun⟩
  have cut : Credentials.CutFrom ⟨"a", "b:c"⟩ ("a:b" ++ ":" ++ "c") := ⟨rfl, by decide⟩
  obtain ⟨before, after, same, -⟩ := lastPair_of_usable made cut usable
  have member : ("a", "b:c") ∈ [("a:b", "c")] := by
    rw [same]
    exact List.mem_append_right before List.mem_cons_self
  revert member
  decide

end TrafficMeter.Routing
