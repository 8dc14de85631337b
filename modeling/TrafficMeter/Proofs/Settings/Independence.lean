import Mathlib.Data.List.Pairwise
import TrafficMeter.Proofs.Attempts
import TrafficMeter.Proofs.Settings.Trees

/-!
# What the settings depend on

Two members of the root are read, and four members of the settings of the metrics. So a variable
that stands for anything else can be taken away, with two exceptions. If other variables have
replaced the settings of the metrics as a whole, a variable for a member of a table makes them a
table again. And if another variable has an index that counts from the end of a list, a variable
that stands for something there decides whether there is such a list. Variables whose keys go
through names only, none inside another, are set in any order.

Main statement: `load_independent`; the exceptions are `load_not_independent`.
-/

namespace TrafficMeter

namespace Assoc

variable {α : Type}

/-- Leaving keys out after one was set is leaving them out before. -/
theorem filter_put (keep : String → Bool) (key : String) (v : α) (l : List (String × α)) :
    (put key v l).filter (keep ·.1) =
      if keep key then put key v (l.filter (keep ·.1)) else l.filter (keep ·.1) := by
  induction l with
  | nil => cases kept : keep key <;> simp [put, kept]
  | cons e rest ih =>
      obtain ⟨k, w⟩ := e
      by_cases same : k = key
      · subst same
        cases kept : keep k <;> simp [put, kept]
      · cases own : keep k <;> cases kept : keep key <;> simp_all [put]

theorem filter_putAll (keep : String → Bool) (pairs : List (String × α)) :
    (putAll pairs).filter (keep ·.1) = putAll (pairs.filter (keep ·.1)) := by
  have go : ∀ done : List (String × α),
      (pairs.foldl (fun done p => put p.1 p.2 done) done).filter (keep ·.1) =
        (pairs.filter (keep ·.1)).foldl (fun done p => put p.1 p.2 done)
          (done.filter (keep ·.1)) := by
    induction pairs with
    | nil => exact fun _ => rfl
    | cons p rest ih =>
        intro done
        rw [List.foldl_cons, ih, filter_put]
        cases kept : keep p.1 <;> simp [kept]
  exact go []

end Assoc

namespace Settings

/-- The members of the settings of the metrics that are read. -/
def MetricsSettings.fieldNames : List String := ["subsystem", "path", "quantiles", "accounts"]

namespace Key

/-- A key that goes through names only. -/
def Named (k : Key) : Prop := ∀ step ∈ k.path, ∃ name, step = .name name

theorem Named.upward {k : Key} (named : k.Named) : k.Upward := by
  intro i member
  obtain ⟨name, same⟩ := named _ (List.mem_cons_of_mem _ member)
  cases same

/-- A key that begins with neither of the two members of the root that are read. -/
def Foreign (k : Key) : Prop := k.head ≠ "port" ∧ k.head ≠ "metrics"

/-- A key for a member that the settings of the metrics do not have. -/
def Surplus (k : Key) : Prop :=
  k.head = "metrics" ∧ ∃ name rest, k.steps = .name name :: rest ∧ name ∉ MetricsSettings.fieldNames

/-- A key that begins with the same name, and for the settings of the metrics also goes on with the
same step. -/
def Neighbour (k other : Key) : Prop :=
  other.head = k.head ∧ (k.head = "metrics" → other.steps.head? = k.steps.head?)

theorem Surplus.not_replacesMetrics {k : Key} (surplus : k.Surplus) : ¬ k.ReplacesMetrics := by
  obtain ⟨-, name, rest, inside, -⟩ := surplus
  exact fun replaces => replaces.2 name rest inside

end Key

namespace Node

theorem setMember_comm {a b : String} (other : a ≠ b) (v w : Node) (ms : List (String × Node)) :
    setMember a v (setMember b w ms) = setMember b w (setMember a v ms) := by
  -- members are kept in the order of their names, so both ways meet the same comparisons
  have trans := @String.lt_trans
  have asymm := @String.lt_asymm
  have not_lt := @String.not_lt
  have antisymm := @String.le_antisymm
  induction ms with
  | nil => grind [setMember]
  | cons e rest ih => grind [setMember]

theorem setMember_again (name : String) (v w : Node) (ms : List (String × Node)) :
    setMember name v (setMember name w ms) = setMember name v ms := by
  have irrefl := String.lt_irrefl name
  induction ms with
  | nil => simp [setMember]
  | cons e rest ih => grind [setMember]

/-- Neither of two ways through a tree goes on where the other ends. -/
def Apart (p q : List Step) : Prop := ¬ p <+: q ∧ ¬ q <+: p

/-- What is set at different places may be set in any order. -/
theorem put_comm {p q : List Step} (named : ∀ step ∈ p, ∃ name, step = .name name)
    (alsoNamed : ∀ step ∈ q, ∃ name, step = .name name) (apart : Apart p q) (v w n : Node) :
    put v p (put w q n) = put w q (put v p n) := by
  induction p generalizing q n with
  | nil => exact absurd List.nil_prefix apart.1
  | cons step p ih =>
      cases q with
      | nil => exact absurd List.nil_prefix apart.2
      | cons first q =>
          obtain ⟨a, rfl⟩ := named step List.mem_cons_self
          obtain ⟨b, rfl⟩ := alsoNamed first List.mem_cons_self
          -- below one name the ways differ further on; two names are members of one table
          by_cases same : a = b
          · subst same
            have inner : Apart p q := by
              simpa only [Apart, List.cons_prefix_cons, true_and] using apart
            have deeper := ih (fun s hs => named s (List.mem_cons_of_mem _ hs))
              (fun s hs => alsoNamed s (List.mem_cons_of_mem _ hs)) inner
            simp only [put, member?, members, lookup_setMember, if_true, Option.getD_some,
              setMember_again]
            rw [deeper]
          · simp only [put, member?, members, lookup_setMember, if_neg same, if_neg (Ne.symm same)]
            rw [setMember_comm same]

/-- Sets variables one after the other, given by the texts of their keys. -/
def setAll (n : Node) (entries : List (String × String)) : Node :=
  entries.foldl (fun n (key, text) => n.set (Key.ofText key) (Environment.value key text)) n

/-- What relates trees, and does not see one key: it is kept by setting some keys in both trees, and
by setting that key in one of them. -/
structure Blind (R : Node → Node → Prop) (P : String → Prop) (key : String) : Prop where
  both : ∀ k value, P k → ∀ a b, R a b →
    R (a.set (Key.ofText k) (Environment.value k value))
      (b.set (Key.ofText k) (Environment.value k value))
  skip : ∀ value a b, R a b → R (a.set (Key.ofText key) (Environment.value key value)) b

namespace Blind

variable {R : Node → Node → Prop} {P : String → Prop} {key : String}
  {entries : List (String × String)} {a b : Node}

/-- What does not see one key does not see that it is left out. -/
theorem setAll (blind : Blind R P key) (allowed : ∀ e ∈ entries, P e.1) (related : R a b) :
    R (a.setAll entries) (b.setAll (entries.filter (·.1 ≠ key))) := by
  induction entries generalizing a b with
  | nil => exact related
  | cons e rest ih =>
      obtain ⟨k, value⟩ := e
      have first : P k := allowed _ List.mem_cons_self
      have later := fun {x y : Node} (r : R x y) =>
        ih (fun f hf => allowed f (List.mem_cons_of_mem _ hf)) r
      rw [List.filter_cons]
      split
      · exact later (blind.both k value first a b related)
      · next own =>
          obtain rfl : k = key := by simpa using own
          exact later (blind.skip value a b related)

/-- If moreover the indices of all other keys meet alike what it relates, leaving out the key
changes nothing about whether the variables make a tree. -/
theorem undershootsFrom (blind : Blind R P key) (allowed : ∀ e ∈ entries, P e.1)
    (alike : ∀ e ∈ entries, ∀ a b, R a b →
      a.undershoots (Key.ofText e.1).path = b.undershoots (Key.ofText e.1).path)
    (upward : (Key.ofText key).Upward) (related : R a b) :
    Environment.undershootsFrom a entries =
      Environment.undershootsFrom b (entries.filter (·.1 ≠ key)) := by
  induction entries generalizing a b with
  | nil => rfl
  | cons e rest ih =>
      obtain ⟨k, value⟩ := e
      have first : P k := allowed _ List.mem_cons_self
      have later := fun {x y : Node} (r : R x y) =>
        ih (fun f hf => allowed f (List.mem_cons_of_mem _ hf))
          (fun f hf => alike f (List.mem_cons_of_mem _ hf)) r
      rw [List.filter_cons]
      split
      · rw [Environment.undershootsFrom, Environment.undershootsFrom,
          alike _ List.mem_cons_self a b related, later (blind.both k value first a b related)]
      · next own =>
          obtain rfl : k = key := by simpa using own
          rw [Environment.undershootsFrom, undershoots_path upward, Bool.false_or,
            later (blind.skip value a b related)]

end Blind

end Node

namespace Environment

/-- The variables that count, with the texts of their keys, as they come. -/
def counted (env : Environment) : List (String × String) :=
  env.filterMap fun (name, text) => (keyText? name).map fun key => (key, text)

theorem entries_eq (env : Environment) : env.entries = Assoc.putAll env.counted := rfl

theorem tree_eq (env : Environment) : env.tree = (Node.table []).setAll env.entries := rfl

theorem counted_remove (before after : Environment) (name text : String) :
    counted (before ++ (name, text) :: after) =
      before.counted ++ ((keyText? name).map fun key => (key, text)).toList ++ after.counted := by
  simp only [counted, List.filterMap_append, List.filterMap_cons]
  cases keyText? name <;> simp

/-- Taking away a variable leaves the variables with other keys. -/
theorem filter_entries_remove {name key : String} (own : keyText? name = some key)
    (before after : Environment) (text : String) :
    (entries (before ++ (name, text) :: after)).filter (·.1 ≠ key) =
      (entries (before ++ after)).filter (·.1 ≠ key) := by
  have without := fun pairs : List (String × String) =>
    Assoc.filter_putAll (fun k => decide (k ≠ key)) pairs
  rw [entries_eq, entries_eq, without, without, counted_remove, own]
  simp [counted]

section

variable {R : Node → Node → Prop} {P : String → Prop} {name key text : String}
  {before after : Environment}

/-- What holds of the keys of all variables holds with and without one of them. -/
theorem forall_entries_remove
    (all : ∀ e ∈ before ++ (name, text) :: after, ∀ k, keyText? e.1 = some k → P k) :
    (∀ e ∈ entries (before ++ (name, text) :: after), P e.1) ∧
      ∀ e ∈ entries (before ++ after), P e.1 := by
  constructor
  · intro e member
    obtain ⟨other, value, inside, counts⟩ := mem_entries_iff.mp ⟨e.2, member⟩
    exact all _ inside e.1 counts
  · intro e member
    obtain ⟨other, value, inside, counts⟩ := mem_entries_iff.mp ⟨e.2, member⟩
    refine all (other, value) ?_ e.1 counts
    rcases List.mem_append.mp inside with early | late
    · exact List.mem_append_left _ early
    · exact List.mem_append_right _ (List.mem_cons_of_mem _ late)

variable (blind : Node.Blind R P key) (own : keyText? name = some key)
  (allowed : ∀ e ∈ before ++ (name, text) :: after, ∀ k, keyText? e.1 = some k → P k)
  (start : R (.table []) (.table []))

include blind own allowed start

/-- What does not see one key relates what the variables make with and without a variable for that
key to one and the same tree. -/
theorem related_remove :
    ∃ m, R (tree (before ++ (name, text) :: after)) m ∧ R (tree (before ++ after)) m := by
  obtain ⟨full, less⟩ := forall_entries_remove allowed
  have fewer := blind.setAll less start
  rw [← filter_entries_remove own before after text] at fewer
  exact ⟨_, blind.setAll full start, fewer⟩

/-- With and without the variable they make a tree, or neither does. -/
theorem undershoots_remove
    (alike : ∀ e ∈ before ++ (name, text) :: after, ∀ k, keyText? e.1 = some k → ∀ a b, R a b →
      a.undershoots (Key.ofText k).path = b.undershoots (Key.ofText k).path)
    (upward : (Key.ofText key).Upward) :
    undershoots (before ++ (name, text) :: after) = undershoots (before ++ after) := by
  obtain ⟨full, less⟩ := forall_entries_remove allowed
  obtain ⟨meets, also⟩ := forall_entries_remove
    (P := fun k => ∀ a b, R a b →
      a.undershoots (Key.ofText k).path = b.undershoots (Key.ofText k).path) alike
  rw [undershoots, undershoots, blind.undershootsFrom full meets upward start,
    blind.undershootsFrom less also upward start, filter_entries_remove own before after text]

end

/-- No variable that counts has an index below zero in its key, if the key is a neighbour of another
one. -/
def Upward (env : Environment) (k : Key) : Prop :=
  ∀ name text key, (name, text) ∈ env → keyText? name = some key →
    k.Neighbour (Key.ofText key) → (Key.ofText key).Upward

end Environment

/-! ## Variables that may be taken away -/

namespace Node

theorem member?_set_congr {a b : Node} {name : String} (same : a.member? name = b.member? name)
    (k : Key) (v : Node) : (a.set k v).member? name = (b.set k v).member? name := by
  rw [member?_set, member?_set]
  split
  · next own => rw [← own, same]
  · exact same

theorem member?_metrics (n : Node) (name : String) :
    ((n.member? "metrics").getD empty).member? name = n.metrics.member? name := by
  rw [metrics]
  cases n.member? "metrics" <;> rfl

/-- Two trees set the same, but for one member of the settings of the metrics, which are tables in
both. -/
structure SameBut (field : String) (n m : Node) : Prop where
  others : ∀ name, name ≠ "metrics" → n.member? name = m.member? name
  metrics : ∃ first second, n.metrics = .table first ∧ m.metrics = .table second ∧
    ∀ name, name ≠ field → first.lookup name = second.lookup name

namespace SameBut

variable {field : String} {n m k : Node}

theorem symm (h : SameBut field n m) : SameBut field m n := by
  obtain ⟨first, second, left, right, same⟩ := h.metrics
  exact ⟨fun name other => (h.others name other).symm, second, first, right, left,
    fun name other => (same name other).symm⟩

theorem trans (h : SameBut field n m) (after : SameBut field m k) : SameBut field n k := by
  obtain ⟨first, second, left, middle, same⟩ := h.metrics
  obtain ⟨again, third, found, right, others⟩ := after.metrics
  rw [middle] at found
  cases found
  exact ⟨fun name other => (h.others name other).trans (after.others name other), first, third,
    left, right, fun name other => (same name other).trans (others name other)⟩

theorem set_both (h : SameBut field n m) {k : Key} (kept : ¬ k.ReplacesMetrics) (v : Node) :
    SameBut field (n.set k v) (m.set k v) := by
  refine ⟨fun name other => member?_set_congr (h.others name other) _ _, ?_⟩
  obtain ⟨first, second, left, right, same⟩ := h.metrics
  by_cases own : k.head = "metrics"
  · obtain ⟨head, steps⟩ := k
    obtain rfl : head = "metrics" := own
    obtain ⟨name, rest, rfl⟩ : ∃ name rest, steps = .name name :: rest := by
      simpa [Key.ReplacesMetrics] using kept
    refine ⟨_, _, metrics_set left v name rest, metrics_set right v name rest, ?_⟩
    intro other apart
    rw [lookup_setMember, lookup_setMember]
    split
    · next here => rw [← here, same other apart]
    · exact same other apart
  · rw [metrics_set_of_ne own, metrics_set_of_ne own]
    exact ⟨first, second, left, right, same⟩

theorem set_field (h : SameBut field n m) (rest : List Step) (v : Node) :
    SameBut field (n.set ⟨"metrics", .name field :: rest⟩ v) m := by
  obtain ⟨first, second, left, right, same⟩ := h.metrics
  refine ⟨fun name other => (member?_set_of_ne (Ne.symm other) n v).trans (h.others name other), _,
    second, metrics_set left v field rest, right, ?_⟩
  intro name other
  rw [lookup_setMember, if_neg other]
  exact same name other

/-- Indices meet the same lists, unless they are inside that member. -/
theorem undershoots (h : SameBut field n m) {k : Key} (kept : ¬ k.ReplacesMetrics)
    (upward : k.head = "metrics" → k.steps.head? = some (.name field) → k.Upward) :
    n.undershoots k.path = m.undershoots k.path := by
  by_cases own : k.head = "metrics"
  · obtain ⟨head, steps⟩ := k
    obtain rfl : head = "metrics" := own
    obtain ⟨name, rest, rfl⟩ : ∃ name rest, steps = .name name :: rest := by
      simpa [Key.ReplacesMetrics] using kept
    by_cases inside : name = field
    · have upward := upward rfl (congrArg (fun name => some (Step.name name)) inside)
      rw [undershoots_path upward, undershoots_path upward]
    · obtain ⟨first, second, left, right, same⟩ := h.metrics
      rw [Key.path, Node.undershoots, Node.undershoots, Node.undershoots, Node.undershoots,
        member?_metrics, member?_metrics, left, right]
      exact congrArg (fun node => Node.undershoots rest (node.getD empty)) (same name inside)
  · rw [Key.path, Node.undershoots, Node.undershoots, h.others _ own]

end SameBut

end Node

theorem MetricsSettings.read_congr {first second : List (String × Node)}
    (same : ∀ name ∈ fieldNames, first.lookup name = second.lookup name) :
    read (.table first) = read (.table second) := by
  simp only [fieldNames, List.mem_cons, List.not_mem_nil, or_false, forall_eq_or_imp,
    forall_eq] at same
  simp only [read, required, same]

namespace ServerSettings

theorem load_congr {env other : Environment} (made : env.undershoots = other.undershoots)
    (port : env.tree.member? "port" = other.tree.member? "port")
    (metrics : env.tree.member? "metrics" = other.tree.member? "metrics") :
    load env = load other := by
  have same : read (env.applyTo defaults) = read (other.applyTo defaults) := by
    apply read_congr
    · rw [Environment.member?_applyTo, Environment.member?_applyTo, port]
    · rw [Environment.member?_applyTo, Environment.member?_applyTo, metrics]
  rw [load, load, made, same]

theorem load_of_sameBut {env other : Environment} (made : env.undershoots = other.undershoots)
    {field : String} (unread : field ∉ MetricsSettings.fieldNames)
    (h : env.tree.SameBut field other.tree) : load env = load other := by
  obtain ⟨first, second, left, right, same⟩ := h.metrics
  have port : (env.applyTo defaults).member? "port" = (other.applyTo defaults).member? "port" := by
    rw [Environment.member?_applyTo, Environment.member?_applyTo, h.others "port" (by decide)]
  have metrics := metrics_applyTo env
  have others := metrics_applyTo other
  rw [left, Node.overlay_table] at metrics
  rw [right, Node.overlay_table] at others
  have inside : MetricsSettings.read (.table (Node.overlayMembers metricsMembers first)) =
      MetricsSettings.read (.table (Node.overlayMembers metricsMembers second)) := by
    refine MetricsSettings.read_congr fun name known => ?_
    have apart : name ≠ field := fun equal => unread (equal ▸ known)
    rw [Node.lookup_overlayMembers, Node.lookup_overlayMembers, same name apart]
  have alike : read (env.applyTo defaults) = read (other.applyTo defaults) := by
    simp only [Node.member?] at port metrics others
    simp only [read, MetricsSettings.required, port, metrics, others]
    refine bind_congr fun node => bind_congr fun number => ?_
    change (MetricsSettings.read _).bind _ = (MetricsSettings.read _).bind _
    rw [inside]
  rw [load, load, made, alike]

section

variable {name key text : String} {before after : Environment}

/-- A variable that does not count may be taken away. -/
theorem load_remove_uncounted (silent : Environment.keyText? name = none) :
    load (before ++ (name, text) :: after) = load (before ++ after) := by
  have same : Environment.entries (before ++ (name, text) :: after) =
      Environment.entries (before ++ after) := by
    rw [Environment.entries_eq, Environment.entries_eq, Environment.counted_remove, silent]
    simp [Environment.counted]
  rw [load, load, Environment.applyTo, Environment.applyTo, Environment.tree, Environment.tree,
    Environment.undershoots, Environment.undershoots, same]

variable (own : Environment.keyText? name = some key)

include own

/-- A variable for another member of the root may be taken away. -/
theorem load_remove_foreign (foreign : (Key.ofText key).Foreign) :
    (Environment.undershoots (before ++ (name, text) :: after) =
        Environment.undershoots (before ++ after) →
      load (before ++ (name, text) :: after) = load (before ++ after)) ∧
    (Environment.Upward (before ++ (name, text) :: after) (Key.ofText key) →
      Environment.undershoots (before ++ (name, text) :: after) =
        Environment.undershoots (before ++ after)) := by
  let R : Node → Node → Prop := fun n m =>
    ∀ member, member ≠ (Key.ofText key).head → n.member? member = m.member? member
  have blind : Node.Blind R (fun _ => True) key := by
    refine ⟨?_, ?_⟩
    · intro k value _ n m same member other
      exact Node.member?_set_congr (same member other) _ _
    · intro value n m same member other
      exact (Node.member?_set_of_ne (Ne.symm other) n _).trans (same member other)
  have allowed : ∀ e ∈ before ++ (name, text) :: after, ∀ k, Environment.keyText? e.1 = some k →
      True := fun _ _ _ _ => trivial
  have start : R (.table []) (.table []) := fun _ _ => rfl
  constructor
  · intro made
    obtain ⟨m, full, less⟩ := Environment.related_remove blind own allowed start
    exact load_congr made ((full "port" foreign.1.symm).trans (less "port" foreign.1.symm).symm)
      ((full "metrics" foreign.2.symm).trans (less "metrics" foreign.2.symm).symm)
  · intro upward
    refine Environment.undershoots_remove blind own allowed start ?_
      (upward name text key (by simp) own ⟨rfl, fun _ => rfl⟩)
    intro e member k counts n m same
    by_cases here : (Key.ofText k).head = (Key.ofText key).head
    · have inside := upward e.1 e.2 k member counts
        ⟨here, fun metrics => absurd metrics foreign.2⟩
      rw [Node.undershoots_path inside, Node.undershoots_path inside]
    · rw [Key.path, Node.undershoots, Node.undershoots, same _ here]

/-- A variable for a member that the settings of the metrics do not have may be taken away, as long
as no other replaces them as a whole. -/
theorem load_remove_surplus (surplus : (Key.ofText key).Surplus)
    (kept : Environment.KeepsMetrics (before ++ after)) :
    (Environment.undershoots (before ++ (name, text) :: after) =
        Environment.undershoots (before ++ after) →
      load (before ++ (name, text) :: after) = load (before ++ after)) ∧
    (Environment.Upward (before ++ (name, text) :: after) (Key.ofText key) →
      Environment.undershoots (before ++ (name, text) :: after) =
        Environment.undershoots (before ++ after)) := by
  have stays := surplus.not_replacesMetrics
  obtain ⟨head, field, rest, steps, unread⟩ := surplus
  have place : Key.ofText key = ⟨"metrics", .name field :: rest⟩ := by
    rw [← head, ← steps]
  have blind : Node.Blind (Node.SameBut field) (fun k => ¬ (Key.ofText k).ReplacesMetrics) key := by
    refine ⟨?_, ?_⟩
    · exact fun k value stays n m same => same.set_both stays _
    · intro value n m same
      rw [place]
      exact same.set_field rest _
  have allowed : ∀ e ∈ before ++ (name, text) :: after, ∀ k, Environment.keyText? e.1 = some k →
      ¬ (Key.ofText k).ReplacesMetrics := by
    intro e member k counts
    rcases List.mem_append.mp member with early | late
    · exact kept e.1 e.2 k (List.mem_append_left _ early) counts
    · rcases List.mem_cons.mp late with rfl | late
      · cases own.symm.trans counts
        exact stays
      · exact kept e.1 e.2 k (List.mem_append_right _ late) counts
  have start : (Node.table []).SameBut field (.table []) :=
    ⟨fun _ _ => rfl, [], [], rfl, rfl, fun _ _ => rfl⟩
  constructor
  · intro made
    obtain ⟨m, full, less⟩ := Environment.related_remove blind own allowed start
    exact load_of_sameBut made unread (full.trans less.symm)
  · intro upward
    refine Environment.undershoots_remove blind own allowed start ?_
      (upward name text key (by simp) own ⟨rfl, fun _ => rfl⟩)
    intro e member k counts n m same
    refine same.undershoots (allowed e member k counts) fun inside first => ?_
    refine upward e.1 e.2 k member counts ⟨inside.trans head.symm, fun _ => ?_⟩
    rw [first, steps]
    rfl

end

end ServerSettings

/-! ## Variables in any order -/

namespace Environment

/-- The variables that count have keys of names only, none of which is another or inside another. -/
structure Apart (env : Environment) : Prop where
  named : ∀ e ∈ env.counted, ∃ k, Key.read? e.1 = some k ∧ k.Named
  apart : env.counted.Pairwise fun d e =>
    Node.Apart (Key.ofText d.1).path (Key.ofText e.1).path

namespace Apart

variable {env : Environment}

theorem named_ofText (h : env.Apart) {e : String × String} (member : e ∈ env.counted) :
    (Key.ofText e.1).Named := by
  obtain ⟨k, read, named⟩ := h.named e member
  rwa [Key.ofText, read]

theorem nodup (h : env.Apart) : (env.counted.map Prod.fst).Nodup := by
  rw [List.Nodup, List.pairwise_map]
  refine h.apart.imp ?_
  rintro d e apart same
  rw [same] at apart
  exact apart.1 List.prefix_rfl

theorem set_comm (h : env.Apart) {d e : String × String} (first : d ∈ env.counted)
    (second : e ∈ env.counted) (n : Node) :
    (n.set (Key.ofText d.1) (value d.1 d.2)).set (Key.ofText e.1) (value e.1 e.2) =
      (n.set (Key.ofText e.1) (value e.1 e.2)).set (Key.ofText d.1) (value d.1 d.2) := by
  by_cases same : d = e
  · rw [same]
  · have : Std.Symm fun d e : String × String =>
        Node.Apart (Key.ofText d.1).path (Key.ofText e.1).path := ⟨fun _ _ apart => apart.symm⟩
    exact Node.put_comm (h.named_ofText second) (h.named_ofText first)
      (h.apart.forall second first (Ne.symm same)) _ _ n

/-- Such variables make the same tree in any order. -/
theorem tree_perm (h : env.Apart) {other : Environment} (perm : env.Perm other) :
    env.tree = other.tree := by
  have counted : env.counted.Perm other.counted := perm.filterMap _
  have nodup := (counted.map Prod.fst).nodup_iff.mp h.nodup
  rw [tree_eq, tree_eq, entries_eq, entries_eq, Assoc.putAll_of_nodup h.nodup,
    Assoc.putAll_of_nodup nodup]
  exact counted.foldl_eq' (fun d first e second n => h.set_comm first second n) (.table [])

/-- No index is below the start of a list, as there are none. -/
theorem undershoots_perm (h : env.Apart) {other : Environment} (perm : env.Perm other) :
    other.undershoots = false := by
  have go : ∀ (entries : List (String × String)) (n : Node),
      (∀ e ∈ entries, (Key.ofText e.1).Upward) → undershootsFrom n entries = false := by
    intro entries
    induction entries with
    | nil => exact fun _ _ => rfl
    | cons e rest ih =>
        intro n upward
        rw [undershootsFrom, Node.undershoots_path (upward e List.mem_cons_self), Bool.false_or]
        exact ih _ fun f later => upward f (List.mem_cons_of_mem e later)
  refine go other.entries _ fun e member => ?_
  obtain ⟨name, text, inside, counts⟩ := mem_entries_iff.mp ⟨e.2, member⟩
  refine (h.named_ofText (e := (e.1, text)) (List.mem_filterMap.mpr ⟨(name, text), ?_, ?_⟩)).upward
  · exact perm.mem_iff.mpr inside
  · exact congrArg (Option.map _) counts

end Apart

end Environment

namespace ServerSettings

/-- A variable that does not count may be taken away. So may one for another member of the root, and
one for a member that the settings of the metrics do not have as long as no other replaces them as a
whole, if an index is below the start of a list with it and without it, or neither way; and this is
so where no index counts from the end of a list beside it. Variables whose keys are apart may be set
in any order. Whatever is loaded or refused stays the same. -/
theorem load_independent :
    (∀ before after name text, Environment.keyText? name = none →
      load (before ++ (name, text) :: after) = load (before ++ after)) ∧
    (∀ before after name text key, Environment.keyText? name = some key →
      (Key.ofText key).Foreign ∨
        (Key.ofText key).Surplus ∧ Environment.KeepsMetrics (before ++ after) →
      (Environment.undershoots (before ++ (name, text) :: after) =
          Environment.undershoots (before ++ after) →
        load (before ++ (name, text) :: after) = load (before ++ after)) ∧
      (Environment.Upward (before ++ (name, text) :: after) (Key.ofText key) →
        Environment.undershoots (before ++ (name, text) :: after) =
          Environment.undershoots (before ++ after))) ∧
    ∀ env other : Environment, env.Apart → env.Perm other → load env = load other := by
  refine ⟨?_, ?_, ?_⟩
  · exact fun before after name text silent => load_remove_uncounted silent
  · rintro before after name text key own (foreign | ⟨surplus, kept⟩)
    · exact load_remove_foreign own foreign
    · exact load_remove_surplus own surplus kept
  · intro env other apart perm
    rw [load_eq (apart.undershoots_perm (.refl env)), load_eq (apart.undershoots_perm perm),
      Environment.applyTo, Environment.applyTo, apart.tree_perm perm]

/-- A colour is no setting, at the root or for the metrics, where the last quantile may be replaced
beside it. A port and an account may be set in any order. -/
theorem load_independent_colour :
    Environment.keyText? "COLOUR" = none ∧
    load [("APP__PORT", "9100"), ("COLOUR", "red")] = load [("APP__PORT", "9100")] ∧
    Environment.keyText? "APP__METRICS__COLOUR" = some "metrics.colour" ∧
    ((Key.ofText "metrics.colour").Surplus ∧ Environment.KeepsMetrics
      [("APP__METRICS__QUANTILES", "0.5,0.9"), ("APP__METRICS__QUANTILES[-1]", "1")]) ∧
    Environment.Upward [("APP__METRICS__COLOUR", "red"), ("APP__METRICS__QUANTILES", "0.5,0.9"),
      ("APP__METRICS__QUANTILES[-1]", "1")] (Key.ofText "metrics.colour") ∧
    Environment.undershoots [("APP__METRICS__COLOUR", "red"),
        ("APP__METRICS__QUANTILES", "0.5,0.9"), ("APP__METRICS__QUANTILES[-1]", "1")] =
      Environment.undershoots
        [("APP__METRICS__QUANTILES", "0.5,0.9"), ("APP__METRICS__QUANTILES[-1]", "1")] ∧
    load [("APP__METRICS__COLOUR", "red"), ("APP__METRICS__QUANTILES", "0.5,0.9"),
        ("APP__METRICS__QUANTILES[-1]", "1")] =
      load [("APP__METRICS__QUANTILES", "0.5,0.9"), ("APP__METRICS__QUANTILES[-1]", "1")] ∧
    Environment.Apart [("APP__PORT", "9100"), ("APP__METRICS__ACCOUNTS__BOB", "x")] ∧
    load [("APP__PORT", "9100"), ("APP__METRICS__ACCOUNTS__BOB", "x")] =
      load [("APP__METRICS__ACCOUNTS__BOB", "x"), ("APP__PORT", "9100")] := by
  have own : Environment.keyText? "APP__METRICS__COLOUR" = some "metrics.colour" := by
    decide +kernel
  have colour : Key.ofText "metrics.colour" = ⟨"metrics", [.name "colour"]⟩ := by decide +kernel
  have surplus : (Key.ofText "metrics.colour").Surplus := by
    rw [colour]
    exact ⟨rfl, "colour", [], rfl, by decide⟩
  -- the other two variables are for the quantiles
  have quantiles : ∀ name text key,
      (name, text) ∈
          [("APP__METRICS__QUANTILES", "0.5,0.9"), ("APP__METRICS__QUANTILES[-1]", "1")] →
        Environment.keyText? name = some key →
          ∃ rest, Key.ofText key = ⟨"metrics", .name "quantiles" :: rest⟩ := by
    intro name text key member counts
    simp only [List.mem_cons, Prod.mk.injEq, List.not_mem_nil, or_false] at member
    rcases member with ⟨rfl, rfl⟩ | ⟨rfl, rfl⟩
    · cases counts.symm.trans (show _ = some "metrics.quantiles" by decide +kernel)
      exact ⟨[], by decide +kernel⟩
    · cases counts.symm.trans (show _ = some "metrics.quantiles[-1]" by decide +kernel)
      exact ⟨[.index (-1)], by decide +kernel⟩
  have kept : Environment.KeepsMetrics
      [("APP__METRICS__QUANTILES", "0.5,0.9"), ("APP__METRICS__QUANTILES[-1]", "1")] := by
    intro name text key member counts replaces
    obtain ⟨rest, place⟩ := quantiles name text key member counts
    rw [place] at replaces
    exact replaces.2 _ _ rfl
  have upward : Environment.Upward
      [("APP__METRICS__COLOUR", "red"), ("APP__METRICS__QUANTILES", "0.5,0.9"),
        ("APP__METRICS__QUANTILES[-1]", "1")] (Key.ofText "metrics.colour") := by
    intro name text key member counts beside
    rcases List.mem_cons.mp member with same | same
    · cases same
      cases counts.symm.trans own
      rw [colour]
      exact fun i inside => by simp at inside
    · obtain ⟨rest, place⟩ := quantiles name text key same counts
      rw [place, colour] at beside
      have step := beside.2 rfl
      simp at step
  have apart : Environment.Apart [("APP__PORT", "9100"), ("APP__METRICS__ACCOUNTS__BOB", "x")] := by
    have counted : Environment.counted
        [("APP__PORT", "9100"), ("APP__METRICS__ACCOUNTS__BOB", "x")] =
          [("port", "9100"), ("metrics.accounts.bob", "x")] := by decide +kernel
    have port : Key.read? "port" = some ⟨"port", []⟩ := by decide +kernel
    have account : Key.read? "metrics.accounts.bob" =
        some ⟨"metrics", [.name "accounts", .name "bob"]⟩ := by decide +kernel
    constructor
    · rw [counted]
      simp [port, account, Key.Named, Key.path]
    · rw [counted]
      simp [Key.ofText, port, account, Node.Apart, Key.path]
  have silent : Environment.keyText? "COLOUR" = none := by decide +kernel
  have removal := load_independent.2.1 [] _ "APP__METRICS__COLOUR" "red" "metrics.colour" own
    (.inr ⟨surplus, kept⟩)
  exact ⟨silent, load_independent.1 [("APP__PORT", "9100")] [] _ "red" silent, own,
    ⟨surplus, kept⟩, upward, removal.2 upward, removal.1 (removal.2 upward),
    apart, load_independent.2.2 _ _ apart (.swap _ _ _)⟩

/-- A variable for a member that the settings of the metrics do not have makes them a table again,
if they were replaced by a text. One for another member of the root can take away the list that an
index counts from the end of. -/
theorem load_not_independent :
    (¬ ∀ before after name text key k, Environment.keyText? name = some key →
      Key.read? key = some k → k.Named → k.Surplus →
        (load (before ++ (name, text) :: after)).toOption = (load (before ++ after)).toOption) ∧
    ¬ ∀ before after name text key k, Environment.keyText? name = some key →
      Key.read? key = some k → k.Named → k.Foreign →
        (load (before ++ (name, text) :: after)).toOption = (load (before ++ after)).toOption := by
  constructor
  · intro independent
    have same := independent [("APP__METRICS", "x")] [] "APP__METRICS__COLOUR" "red"
      "metrics.colour" ⟨"metrics", [.name "colour"]⟩ (by decide +kernel) (by decide +kernel)
      (by simp [Key.Named, Key.path]) ⟨rfl, "colour", [], rfl, by decide⟩
    have loaded : (load [("APP__METRICS", "x"),
        ("APP__METRICS__COLOUR", "red")]).toOption.isSome = true := by
      decide +kernel
    have failed : (load [("APP__METRICS", "x")]).toOption.isSome = false := by
      decide +kernel
    have both := loaded.symm.trans ((congrArg Option.isSome same).trans failed)
    cases both
  · intro independent
    have same := independent [("APP__COLOURS[0]", "red")] [("APP__COLOURS[-1]", "blue")]
      "APP__COLOURS__SKY" "grey" "colours.sky" ⟨"colours", [.name "sky"]⟩ (by decide +kernel)
      (by decide +kernel) (by simp [Key.Named, Key.path]) ⟨by decide, by decide⟩
    have failed : (load [("APP__COLOURS[0]", "red"), ("APP__COLOURS__SKY", "grey"),
        ("APP__COLOURS[-1]", "blue")]).toOption.isSome = false := by
      decide +kernel
    have loaded : (load [("APP__COLOURS[0]", "red"),
        ("APP__COLOURS[-1]", "blue")]).toOption.isSome = true := by
      decide +kernel
    have both := failed.symm.trans ((congrArg Option.isSome same).trans loaded)
    cases both

end ServerSettings

end Settings

end TrafficMeter
