import TrafficMeter.Proofs.Attempts
import TrafficMeter.Proofs.Settings.Keys
import TrafficMeter.Proofs.Settings.Trees

/-!
# When accounts protect the exporter

An account that was set stays in the tree whatever else is set, unless the settings of the metrics
are replaced as a whole. So the exporter is open only if no variable stands for an account. But a
variable that is named for an account need not stand for one: a user name that is no key makes the
variable an unknown setting, which is ignored.

Main statements: `gate_open_iff`, when the exporter is open, and `protected_iff_readable`, for which
users naming an account is enough.
-/

namespace TrafficMeter

namespace Auth.Accounts

theorem insertAll_nonempty {pairs : List (String × String)} {a b : Accounts}
    (done : a.insertAll pairs = .ok b) (some : a.entries ≠ [] ∨ pairs ≠ []) : b.entries ≠ [] := by
  induction pairs generalizing a with
  | nil =>
      cases done
      simpa using some
  | cons p rest ih =>
      rw [insertAll] at done
      split at done
      · cases done
      · refine ih done (.inl ?_)
        rw [insert]
        cases a.entries with
        | nil => simp [Assoc.put]
        | cons e entries =>
            rw [Assoc.put]
            split <;> simp

end Auth.Accounts

namespace Settings

/-- A gate whose accounts come from a list that is not empty keeps someone out. -/
theorem MetricsSettings.gate_of_accounts {s : MetricsSettings} (full : s.accounts ≠ []) :
    (∃ e, s.gate = .error e) ∨ ∃ a, s.gate = .ok (some a) ∧ a.isEmpty = false := by
  have set : s.accounts.isEmpty = false := by simpa using full
  simp only [gate, set, Bool.false_eq_true, if_false]
  cases made : Auth.Accounts.ofList s.accounts with
  | error e => exact .inl ⟨e, rfl⟩
  | ok a =>
      have entries := Auth.Accounts.insertAll_nonempty made (.inr full)
      exact .inr ⟨a, rfl, by simpa [Auth.Accounts.isEmpty] using entries⟩

/-- A key inside the accounts. -/
def Key.InAccounts (k : Key) : Prop :=
  k.head = "metrics" ∧ ∃ rest, k.steps = .name "accounts" :: rest

/-- What is set for the metrics is a table, which has accounts exactly if some were set; accounts
that were set are not empty. -/
def Node.Holds (n : Node) (set : Prop) : Prop :=
  ∃ members, n.metrics = .table members ∧
    (members.lookup "accounts" = none ↔ ¬ set) ∧ members.lookup "accounts" ≠ some (.table [])

/-- Setting something inside a table of metrics settings changes the accounts only if it is set
inside them. -/
theorem Node.accounts_setMember {members : List (String × Node)} {before : Prop}
    (known : members.lookup "accounts" = none ↔ ¬ before)
    (some : members.lookup "accounts" ≠ some (.table [])) {v : Node} (full : v ≠ .table [])
    (first : String) :
    ((setMember first v members).lookup "accounts" = none ↔ ¬ (before ∨ first = "accounts")) ∧
      (setMember first v members).lookup "accounts" ≠ Option.some (.table []) := by
  rw [lookup_setMember]
  by_cases account : "accounts" = first
  · rw [if_pos account]
    refine ⟨?_, fun none => full (Option.some.inj none)⟩
    simp [account]
  · rw [if_neg account]
    refine ⟨known.trans (not_congr ?_), some⟩
    simp [Ne.symm account]

theorem Node.Holds.set {n : Node} {before : Prop} (h : n.Holds before) {k : Key}
    (kept : ¬ k.ReplacesMetrics) {v : Node} (full : v ≠ .table []) :
    (n.set k v).Holds (before ∨ k.InAccounts) := by
  obtain ⟨members, table, known, some⟩ := h
  by_cases own : k.head = "metrics"
  · obtain ⟨head, steps⟩ := k
    obtain rfl : head = "metrics" := own
    obtain ⟨first, rest, rfl⟩ : ∃ first rest, steps = .name first :: rest := by
      simpa [Key.ReplacesMetrics] using kept
    have inner := Node.put_ne_nil_table full rest ((members.lookup first).getD .empty)
    obtain ⟨known, some⟩ := Node.accounts_setMember known some inner first
    refine ⟨_, Node.metrics_set table v first rest, known.trans (not_congr ?_), some⟩
    simp [Key.InAccounts]
  · refine ⟨members, (Node.metrics_set_of_ne own n v).trans table, known.trans (not_congr ?_), some⟩
    simp [Key.InAccounts, own]

theorem Node.holds_foldl {entries : List (String × String)} {n : Node} {before : Prop}
    (h : n.Holds before) (kept : ∀ e ∈ entries, ¬ (Key.ofText e.1).ReplacesMetrics) :
    (entries.foldl (fun n (key, text) => n.set (Key.ofText key) (Environment.value key text))
      n).Holds (before ∨ ∃ e ∈ entries, (Key.ofText e.1).InAccounts) := by
  induction entries generalizing n before with
  | nil => simpa using h
  | cons e entries ih =>
      have one := h.set (kept e List.mem_cons_self) (Environment.value_ne_table e.1 e.2 [])
      have all := ih one fun e he => kept e (List.mem_cons_of_mem _ he)
      rw [List.foldl_cons]
      simpa [or_assoc] using all

namespace Environment

/-- A variable that stands for something inside the accounts. -/
def SetsAccount (env : Environment) : Prop :=
  ∃ name text key, (name, text) ∈ env ∧ keyText? name = some key ∧ (Key.ofText key).InAccounts

theorem holds_tree {env : Environment} (kept : env.KeepsMetrics) :
    env.tree.Holds env.SetsAccount := by
  have start : (Node.table []).Holds False := ⟨[], rfl, by simp, by simp⟩
  have keeps : ∀ e ∈ env.entries, ¬ (Key.ofText e.1).ReplacesMetrics := by
    rintro ⟨key, text⟩ member
    obtain ⟨name, value, inside, own⟩ := mem_entries_iff.mp ⟨text, member⟩
    exact kept name value key inside own
  have same : (False ∨ ∃ e ∈ env.entries, (Key.ofText e.1).InAccounts) = env.SetsAccount := by
    rw [false_or]
    apply propext
    constructor
    · rintro ⟨⟨key, text⟩, member, account⟩
      obtain ⟨name, value, inside, own⟩ := mem_entries_iff.mp ⟨text, member⟩
      exact ⟨name, value, key, inside, own, account⟩
    · rintro ⟨name, value, key, inside, own, account⟩
      obtain ⟨text, member⟩ := mem_entries_iff.mpr ⟨name, value, inside, own⟩
      exact ⟨(key, text), member, account⟩
  rw [tree, ← same]
  exact Node.holds_foldl start keeps

end Environment

theorem Node.toTexts_ne_nil {key : String} {members : List (String × Node)}
    {texts : List (String × String)} (read : toTexts key members = .ok texts)
    (some : members ≠ []) : texts ≠ [] := by
  cases members with
  | nil => exact absurd rfl some
  | cons m rest =>
      obtain ⟨name, n⟩ := m
      rw [toTexts] at read
      obtain ⟨text, -, read⟩ := Attempt.bind_eq_ok_iff.mp read
      obtain ⟨others, -, done⟩ := Attempt.bind_eq_ok_iff.mp read
      cases done
      simp

theorem MetricsSettings.accounts_of_read {members : List (String × Node)} {s : MetricsSettings}
    (done : read (.table members) = .ok s) :
    readAccounts "metrics.accounts" (members.lookup "accounts") = .ok s.accounts := by
  obtain ⟨_, -, afterSubsystem⟩ := Attempt.bind_eq_ok_iff.mp done
  obtain ⟨_, -, path⟩ := Attempt.bind_eq_ok_iff.mp afterSubsystem
  obtain ⟨_, -, afterPath⟩ := Attempt.bind_eq_ok_iff.mp path
  obtain ⟨_, -, quantiles⟩ := Attempt.bind_eq_ok_iff.mp afterPath
  obtain ⟨_, -, afterQuantiles⟩ := Attempt.bind_eq_ok_iff.mp quantiles
  obtain ⟨accounts, own, last⟩ := Attempt.bind_eq_ok_iff.mp afterQuantiles
  cases last
  exact own

theorem ServerSettings.metrics_of_read {n : Node} {members : List (String × Node)}
    {s : ServerSettings} (table : n.member? "metrics" = some (.table members))
    (done : read n = .ok s) : MetricsSettings.read (.table members) = .ok s.metrics := by
  obtain ⟨_, -, afterPort⟩ := Attempt.bind_eq_ok_iff.mp done
  obtain ⟨_, -, metrics⟩ := Attempt.bind_eq_ok_iff.mp afterPort
  obtain ⟨node, found, inside⟩ := Attempt.bind_eq_ok_iff.mp metrics
  obtain ⟨own, read, last⟩ := Attempt.bind_eq_ok_iff.mp inside
  cases last
  simp only [Node.member?] at table
  simp only [MetricsSettings.required, table, Except.ok.injEq] at found
  rw [found]
  exact read

/-- What is loaded has accounts exactly if some were set, as the defaults have none. -/
theorem ServerSettings.accounts_of_holds {env : Environment} {set : Prop} (h : env.tree.Holds set)
    {s : ServerSettings} (loaded : load env = .ok s) : s.metrics.accounts = [] ↔ ¬ set := by
  obtain ⟨members, table, known, full⟩ := h
  have metrics := metrics_applyTo env
  rw [table, Node.overlay_table] at metrics
  have accounts := MetricsSettings.accounts_of_read (metrics_of_read metrics (read_of_load loaded))
  rw [Node.lookup_overlayMembers] at accounts
  rw [← known]
  cases found : members.lookup "accounts" with
  | none =>
      rw [found] at accounts
      have none := Except.ok.inj accounts
      simp [← none]
  | some node =>
      rw [found] at accounts full
      have some : (Node.table []).overlay node ≠ .table [] :=
        Node.overlay_ne_nil_table (fun none => full (congrArg Option.some none)) []
      change MetricsSettings.readAccounts _ (Option.some ((Node.table []).overlay node)) = _
        at accounts
      cases laid : (Node.table []).overlay node with
      | empty | scalar text | list items =>
          rw [laid] at accounts
          cases accounts
      | table inner =>
          rw [laid] at accounts some
          have texts := Node.toTexts_ne_nil accounts fun none => some (by rw [none])
          simp [texts]

/-- The exporter is open exactly if no variable stands for an account, as long as none replaces the
settings of the metrics as a whole. -/
theorem gate_open_iff {env : Environment} (kept : env.KeepsMetrics) {s : ServerSettings}
    (loaded : ServerSettings.load env = .ok s) :
    s.metrics.gate = .ok none ↔ ¬ env.SetsAccount := by
  rw [MetricsSettings.gate_eq_none_iff]
  exact ServerSettings.accounts_of_holds (Environment.holds_tree kept) loaded

/-- Whatever is loaded, the exporter is not open, and its accounts are not empty. -/
def ServerSettings.Protected (env : Environment) : Prop :=
  ∀ s, load env = .ok s →
    (∃ e, s.metrics.gate = .error e) ∨ ∃ a, s.metrics.gate = .ok (some a) ∧ a.isEmpty = false

/-- The settings that hold if nothing is changed. -/
def ServerSettings.unchanged : ServerSettings :=
  { port := 8080, metrics := { subsystem := "http", path := "/metrics" } }

/-- A variable named for an account whose user is not readable is ignored. -/
theorem ServerSettings.load_of_not_readable {name user : String}
    (named : Environment.NamesAccount name user) (unreadable : ¬ Environment.Readable user)
    (text : String) : load [(name, text)] = .ok unchanged := by
  have kept : ∀ short : String, short.length < 8 →
      (Environment.applyTo defaults [(name, text)]).member? short = defaults.member? short := by
    intro short few
    rw [Environment.member?_applyTo_of_onlyOverride (Environment.onlyOverride_singleton name text)
        (Environment.keyText?_of_namesAccount named),
      Environment.ofText_of_not_readable unreadable, if_neg (Environment.ne_accountKey few user)]
  have upward : (Key.ofText (Environment.accountKey user)).Upward := by
    rw [Environment.ofText_of_not_readable unreadable]
    exact nofun
  rw [load_eq (Environment.undershoots_of_onlyOverride
      (Environment.onlyOverride_singleton name text)
      (Environment.keyText?_of_namesAccount named) upward),
    read_congr (kept "port" (by decide)) (kept "metrics" (by decide))]
  rfl

/-- Naming an account for a user protects the exporter, whatever the other variables are that keep
the settings of the metrics, exactly if the user's name is a key. -/
theorem protected_iff_readable (user : String) :
    (∀ env name text, (name, text) ∈ env → Environment.NamesAccount name user →
      env.KeepsMetrics → ServerSettings.Protected env) ↔ Environment.Readable user := by
  constructor
  · intro always
    refine Decidable.byContradiction fun unreadable => ?_
    have named : Environment.NamesAccount ("APP__METRICS__ACCOUNTS__" ++ user) user :=
      ⟨"APP__METRICS__ACCOUNTS__".toList, String.toList_append, by decide⟩
    have loaded := ServerSettings.load_of_not_readable named unreadable "secret"
    have kept : Environment.KeepsMetrics [("APP__METRICS__ACCOUNTS__" ++ user, "secret")] := by
      intro name text key member own replaces
      cases List.mem_singleton.mp member
      rw [Environment.keyText?_of_namesAccount named] at own
      cases own
      rw [Environment.ofText_of_not_readable unreadable] at replaces
      exact Environment.ne_accountKey (by decide) user replaces.1.symm
    rcases always _ _ _ List.mem_cons_self named kept _ loaded with ⟨e, failed⟩ | ⟨a, made, -⟩
    · cases failed
    · cases made
  · intro readable env name text member named kept s loaded
    obtain ⟨k, found⟩ := Option.isSome_iff_exists.mp readable
    have key := Environment.ofText_accountKey user
    rw [found] at key
    have set : env.SetsAccount := by
      refine ⟨name, text, _, member, Environment.keyText?_of_namesAccount named, ?_⟩
      rw [key]
      exact ⟨rfl, _, rfl⟩
    refine MetricsSettings.gate_of_accounts fun none => ?_
    exact (gate_open_iff kept loaded).mp ((MetricsSettings.gate_eq_none_iff _).mpr none) set

theorem not_protected_of_load {env : Environment} {s : ServerSettings}
    (loaded : ServerSettings.load env = .ok s) (none : s.metrics.accounts = []) :
    ¬ ServerSettings.Protected env := by
  intro kept
  have opened := (MetricsSettings.gate_eq_none_iff _).mpr none
  rcases kept s loaded with ⟨e, failed⟩ | ⟨a, made, -⟩
  · rw [opened] at failed
    cases failed
  · rw [opened] at made
    cases made

/-- Naming an account is not enough: not for every user, and for no user if other variables make
the settings of the metrics a list. -/
theorem open_despite_account :
    (¬ ∀ env name text user, user ≠ "" → (name, text) ∈ env →
      Environment.NamesAccount name user → ServerSettings.Protected env) ∧
    ¬ ∀ env name text user, Environment.Readable user → (name, text) ∈ env →
      Environment.NamesAccount name user → ServerSettings.Protected env := by
  constructor
  · intro always
    have named : Environment.NamesAccount "APP__METRICS__ACCOUNTS__alice@example.com"
        "alice@example.com" := ⟨"APP__METRICS__ACCOUNTS__".toList, by decide, by decide⟩
    have unreadable : ¬ Environment.Readable "alice@example.com" := by decide +kernel
    exact not_protected_of_load (ServerSettings.load_of_not_readable named unreadable "secret") rfl
      (always _ _ "secret" _ (by decide) List.mem_cons_self named)
  · intro always
    have named : Environment.NamesAccount "APP__METRICS__ACCOUNTS__PROM" "PROM" :=
      ⟨"APP__METRICS__ACCOUNTS__".toList, by decide, by decide⟩
    let env : Environment :=
      [("APP__METRICS__ACCOUNTS__PROM", "secret"), ("APP__METRICS[0]", "http"),
        ("APP__METRICS[1]", "/metrics")]
    have opened : (ServerSettings.load env).toOption.any (·.metrics.accounts.isEmpty) = true := by
      decide +kernel
    cases loaded : ServerSettings.load env with
    | error e =>
        rw [loaded] at opened
        cases opened
    | ok s =>
        rw [loaded] at opened
        exact not_protected_of_load loaded (List.isEmpty_iff.mp opened)
          (always _ _ "secret" _ (by decide +kernel) List.mem_cons_self named)

end Settings

end TrafficMeter
