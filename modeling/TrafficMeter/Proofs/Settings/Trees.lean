import TrafficMeter.Settings.Load

/-!
# Trees that variables are set in

Setting a key changes one member of the root and leaves all others as they are. What a variable sets
is never a table, and what contains it is no empty one. So where there is nothing yet below it, what
was set is laid over unchanged.

Main statements: `member?_set`, `member?_applyTo` and `mem_entries_iff`.
-/

namespace TrafficMeter

namespace Assoc

variable {α : Type}

theorem mem_keys_put {key k : String} {v : α} {l : List (String × α)} :
    k ∈ (put key v l).map Prod.fst ↔ k = key ∨ k ∈ l.map Prod.fst := by
  induction l with
  | nil => simp [put]
  | cons e rest ih =>
      obtain ⟨other, w⟩ := e
      by_cases same : other = key
      · subst same
        simp [put]
      · simp only [put, same, if_false, List.map_cons, List.mem_cons, ih]
        exact or_left_comm

/-- Setting keys one after the other sets each of them, and no others. -/
theorem mem_keys_putAll {k : String} {pairs : List (String × α)} :
    k ∈ (putAll pairs).map Prod.fst ↔ k ∈ pairs.map Prod.fst := by
  have go : ∀ done : List (String × α),
      k ∈ (pairs.foldl (fun done p => put p.1 p.2 done) done).map Prod.fst ↔
        k ∈ pairs.map Prod.fst ∨ k ∈ done.map Prod.fst := by
    induction pairs with
    | nil => simp
    | cons p rest ih =>
        intro done
        rw [List.foldl_cons, ih, mem_keys_put, List.map_cons, List.mem_cons]
        exact or_left_comm.trans or_assoc.symm
  rw [putAll, go]
  simp

/-- A pair that is set several times is set once. -/
theorem putAll_of_forall_eq {pairs : List (String × α)} {p : String × α} (full : pairs ≠ [])
    (same : ∀ q ∈ pairs, q = p) : putAll pairs = [p] := by
  have again : put p.1 p.2 [p] = [p] := by simp [put]
  have go : ∀ more : List (String × α), (∀ q ∈ more, q = p) →
      more.foldl (fun done p => put p.1 p.2 done) [p] = [p] := by
    intro more
    induction more with
    | nil => intro _; rfl
    | cons q rest ih =>
        intro all
        rw [List.foldl_cons, all q List.mem_cons_self, again]
        exact ih fun r hr => all r (List.mem_cons_of_mem q hr)
  obtain ⟨q, rest, rfl⟩ := List.exists_cons_of_ne_nil full
  rw [putAll, List.foldl_cons, same q List.mem_cons_self]
  exact go rest fun r hr => same r (List.mem_cons_of_mem q hr)

end Assoc

namespace Settings

/-- A key that replaces the settings of the metrics as a whole: it stands for them, or makes them a
list. -/
def Key.ReplacesMetrics (k : Key) : Prop :=
  k.head = "metrics" ∧ ∀ name rest, k.steps ≠ .name name :: rest

/-- A key without indices below zero. -/
def Key.Upward (k : Key) : Prop := ∀ i, .index i ∈ k.steps → 0 ≤ i

namespace Node

/-- Only an index below zero can lie below the start of a list. -/
theorem undershoots_of_upward {steps : List Step} (upward : ∀ i, .index i ∈ steps → 0 ≤ i)
    (n : Node) : n.undershoots steps = false := by
  induction steps generalizing n with
  | nil => rfl
  | cons step rest ih =>
      have later := ih fun i inside => upward i (List.mem_cons_of_mem _ inside)
      cases step with
      | name first => exact later _
      | index i =>
          have start := upward i List.mem_cons_self
          rw [undershoots, later, Bool.or_false, decide_eq_false_iff_not]
          omega

theorem undershoots_path {k : Key} (upward : k.Upward) (n : Node) :
    n.undershoots k.path = false := by
  refine undershoots_of_upward (fun i inside => upward i ?_) n
  exact List.mem_of_ne_of_mem (by simp) inside

theorem member?_set (n : Node) (k : Key) (v : Node) (name : String) :
    (n.set k v).member? name =
      if name = k.head then some (put v k.steps ((n.member? k.head).getD empty))
      else n.member? name :=
  lookup_setMember k.head _ n.members name

theorem setMember_ne_nil (name : String) (v : Node) (ms : List (String × Node)) :
    setMember name v ms ≠ [] := by
  cases ms with
  | nil => simp [setMember]
  | cons e rest =>
      rw [setMember]
      split
      · simp
      · split <;> simp

theorem overlayMembers_ne_nil (below : List (String × Node)) {above : List (String × Node)}
    (some : above ≠ []) : overlayMembers below above ≠ [] := by
  cases above with
  | nil => exact absurd rfl some
  | cons m rest =>
      rw [overlayMembers]
      exact setMember_ne_nil _ _ _

/-- What contains something that was set is not empty. -/
theorem put_ne_nil_table {v : Node} (h : v ≠ table []) (steps : List Step) (n : Node) :
    put v steps n ≠ table [] := by
  cases steps with
  | nil => exact h
  | cons step rest =>
      cases step with
      | name first =>
          intro none
          rw [put, table.injEq] at none
          exact setMember_ne_nil _ _ _ none
      | index i => simp [put]

theorem member?_set_of_ne {k : Key} {name : String} (other : k.head ≠ name) (n v : Node) :
    (n.set k v).member? name = n.member? name := by
  rw [member?_set, if_neg (Ne.symm other)]

/-- What is set for the metrics, an empty table if nothing is. -/
def metrics (n : Node) : Node := (n.member? "metrics").getD (.table [])

theorem metrics_set_of_ne {k : Key} (other : k.head ≠ "metrics") (n v : Node) :
    (n.set k v).metrics = n.metrics := by
  rw [metrics, member?_set_of_ne other]
  rfl

/-- Setting something inside the settings of the metrics changes one of their members. -/
theorem metrics_set {n : Node} {members : List (String × Node)} (table : n.metrics = .table members)
    (v : Node) (first : String) (rest : List Step) :
    (n.set ⟨"metrics", .name first :: rest⟩ v).metrics =
      .table (setMember first (put v rest ((members.lookup first).getD .empty)) members) := by
  have changed := member?_set n ⟨"metrics", .name first :: rest⟩ v "metrics"
  rw [if_pos rfl] at changed
  rw [metrics, changed, Option.getD_some]
  rw [metrics] at table
  cases found : n.member? "metrics" with
  | none =>
      rw [found] at table
      cases table
      rfl
  | some inner =>
      rw [found] at table
      cases table
      rfl

/-! ### What is laid over a tree -/

theorem overlay_of_not_table {v : Node} (h : ∀ ms, v ≠ table ms) (n : Node) : n.overlay v = v := by
  rw [overlay]
  · exact h []
  · exact fun m ms => h (m :: ms)

/-- A table with a single member changes that one. -/
theorem overlay_singleton (n : Node) (name : String) (v : Node) :
    n.overlay (table [(name, v)]) =
      table (setMember name (overlay ((n.member? name).getD (table [])) v) n.members) := by
  rw [overlay, overlayMembers, overlayMembers]
  rfl

theorem overlay_table (below above : List (String × Node)) :
    (table below).overlay (table above) = table (overlayMembers below above) := by
  cases above with
  | nil => rw [overlay, overlayMembers]
  | cons m rest =>
      rw [overlay]
      rfl

theorem overlay_ne_nil_table {v : Node} (h : v ≠ table []) (below : List (String × Node)) :
    (table below).overlay v ≠ table [] := by
  by_cases inner : ∃ above, v = table above
  · obtain ⟨above, rfl⟩ := inner
    rw [overlay_table]
    intro none
    exact overlayMembers_ne_nil below (fun same => h (congrArg table same)) (table.inj none)
  · rw [overlay_of_not_table (not_exists.mp inner)]
    exact h

/-- A node without anything inside it. -/
def Leaf (n : Node) : Prop := n.members = [] ∧ n.items = []

theorem leaf_empty : empty.Leaf := ⟨rfl, rfl⟩

theorem leaf_nil_table : (table []).Leaf := ⟨rfl, rfl⟩

/-- It makes no difference what a leaf is when something is set inside it. -/
theorem Leaf.put_eq {n : Node} (leaf : n.Leaf) (v : Node) (steps : List Step) :
    put v steps n = put v steps empty := by
  obtain ⟨members, items⟩ := leaf
  cases steps with
  | nil => rfl
  | cons step rest =>
      cases step with
      | name first =>
          rw [put, put, member?, members]
          rfl
      | index i =>
          rw [put, put, items]
          rfl

/-- Over a leaf, what was set in nothing is laid as it is. -/
theorem Leaf.overlay_put {n : Node} (leaf : n.Leaf) {v : Node} (h : ∀ ms, v ≠ table ms)
    (steps : List Step) : n.overlay (put v steps empty) = put v steps empty := by
  induction steps generalizing n with
  | nil => exact overlay_of_not_table h n
  | cons step rest ih =>
      cases step with
      | name first =>
          have inner := ih leaf_nil_table
          change n.overlay (table [(first, put v rest empty)]) = table [(first, put v rest empty)]
          rw [overlay_singleton, member?, leaf.1, List.lookup_nil, Option.getD_none, inner,
            setMember]
      | index i => exact overlay_of_not_table (by simp [put]) n

end Node

namespace Environment

theorem value_ne_table (key text : String) (ms : List (String × Node)) :
    value key text ≠ .table ms := by
  unfold value
  split
  · split <;> simp
  · simp

/-- The keys that are set are those of the variables that count. -/
theorem mem_entries_iff {env : Environment} {key : String} :
    (∃ text, (key, text) ∈ env.entries) ↔
      ∃ name text, (name, text) ∈ env ∧ keyText? name = some key := by
  have keys : ∀ entries : List (String × String),
      (∃ text, (key, text) ∈ entries) ↔ key ∈ entries.map Prod.fst := by
    intro entries
    simp
  rw [keys, entries, Assoc.mem_keys_putAll, ← keys]
  constructor
  · rintro ⟨text, member⟩
    obtain ⟨⟨name, value⟩, inside, made⟩ := List.mem_filterMap.mp member
    obtain ⟨found, own, same⟩ := Option.map_eq_some_iff.mp made
    cases same
    exact ⟨name, _, inside, own⟩
  · rintro ⟨name, text, inside, own⟩
    refine ⟨text, List.mem_filterMap.mpr ⟨(name, text), inside, ?_⟩⟩
    exact congrArg (Option.map _) own

/-- No variable replaces the settings of the metrics as a whole. -/
def KeepsMetrics (env : Environment) : Prop :=
  ∀ name text key, (name, text) ∈ env → keyText? name = some key →
    ¬ (Key.ofText key).ReplacesMetrics

/-- A single variable counts. -/
def OnlyOverride (env : Environment) (name text : String) : Prop :=
  (name, text) ∈ env ∧ ∀ other ∈ env, other = (name, text) ∨ keyText? other.1 = none

theorem onlyOverride_singleton (name text : String) : OnlyOverride [(name, text)] name text :=
  ⟨List.mem_cons_self, fun _ member => .inl (List.mem_singleton.mp member)⟩

theorem entries_of_onlyOverride {env : Environment} {name text key : String}
    (only : env.OnlyOverride name text) (own : keyText? name = some key) :
    env.entries = [(key, text)] := by
  obtain ⟨inside, others⟩ := only
  refine Assoc.putAll_of_forall_eq ?_ ?_
  · refine List.ne_nil_of_mem (a := (key, text)) (List.mem_filterMap.mpr ⟨_, inside, ?_⟩)
    exact congrArg (Option.map _) own
  · intro entry member
    obtain ⟨⟨other, value⟩, found, made⟩ := List.mem_filterMap.mp member
    rcases others _ found with same | ignored
    · cases same
      simpa [own] using made.symm
    · simp [ignored] at made

/-- A single variable that counts makes a tree unless an index of its key is below zero. -/
theorem undershoots_of_onlyOverride {env : Environment} {name text key : String}
    (only : env.OnlyOverride name text) (own : keyText? name = some key)
    (upward : (Key.ofText key).Upward) : env.undershoots = false := by
  rw [undershoots, entries_of_onlyOverride only own, undershootsFrom,
    Node.undershoots_path upward]
  rfl

/-- The variables make a table, whatever they are. -/
theorem tree_eq_table (env : Environment) : env.tree = .table env.tree.members := by
  have go : ∀ (entries : List (String × String)) (n : Node), n = .table n.members →
      let all := entries.foldl (fun n e => n.set (Key.ofText e.1) (value e.1 e.2)) n
      all = .table all.members := by
    intro entries
    induction entries with
    | nil => exact fun _ table => table
    | cons e rest ih => exact fun n _ => ih _ rfl
  exact go env.entries _ rfl

/-- A member of the defaults stays, or what the variables made of it is laid over it. -/
theorem member?_applyTo (env : Environment) (defaults : Node) (name : String) :
    (env.applyTo defaults).member? name =
      match env.tree.member? name with
      | some v => some (((defaults.member? name).getD (.table [])).overlay v)
      | none => defaults.member? name := by
  rw [applyTo, tree_eq_table, Node.member?_overlay]
  rfl

/-- A single variable that counts changes one member of the root. -/
theorem member?_applyTo_of_onlyOverride {env : Environment} {name text key : String}
    (only : env.OnlyOverride name text) (own : keyText? name = some key) (defaults : Node)
    (member : String) :
    (env.applyTo defaults).member? member =
      if member = (Key.ofText key).head then
        some (((defaults.member? (Key.ofText key).head).getD (.table [])).overlay
          (Node.put (value key text) (Key.ofText key).steps .empty))
      else defaults.member? member := by
  have single : env.tree = .table
      [((Key.ofText key).head, Node.put (value key text) (Key.ofText key).steps .empty)] := by
    rw [tree, entries_of_onlyOverride only own]
    rfl
  rw [member?_applyTo, single, Node.member?, Node.members, Assoc.lookup_cons_ite]
  by_cases same : member = (Key.ofText key).head
  · rw [if_pos same, if_pos same, same]
  · rw [if_neg same, if_neg same, List.lookup_nil]

end Environment

namespace ServerSettings

theorem load_eq {env : Environment} (made : env.undershoots = false) :
    load env = read (env.applyTo defaults) := by
  rw [load, made]
  rfl

/-- Whatever is loaded was read from a tree. -/
theorem read_of_load {env : Environment} {s : ServerSettings} (loaded : load env = .ok s) :
    read (env.applyTo defaults) = .ok s := by
  rw [load] at loaded
  split at loaded
  · cases loaded
  · exact loaded

/-- The members of the metrics settings that hold unless they are changed. -/
def metricsMembers : List (String × Node) :=
  [("path", .scalar (.text "/metrics")), ("subsystem", .scalar (.text "http"))]

/-- What is read for the metrics is what the variables set for them, over the defaults. -/
theorem metrics_applyTo (env : Environment) :
    (env.applyTo defaults).member? "metrics" =
      some ((Node.table metricsMembers).overlay env.tree.metrics) := by
  rw [Environment.member?_applyTo, Node.metrics]
  cases env.tree.member? "metrics" with
  | none =>
      rw [Option.getD_none, Node.overlay]
      rfl
  | some v => rfl

/-- Only two members of the root are read. -/
theorem read_congr {n other : Node} (port : n.member? "port" = other.member? "port")
    (metrics : n.member? "metrics" = other.member? "metrics") : read n = read other := by
  simp only [Node.member?] at port metrics
  simp only [read, MetricsSettings.required, port, metrics]

end ServerSettings

end Settings

end TrafficMeter
