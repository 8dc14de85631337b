import TrafficMeter.Proofs.Decimal.Spelling
import TrafficMeter.Proofs.Settings.Overrides
import TrafficMeter.Proofs.Settings.Protection
import TrafficMeter.Text.Token

/-!
# Texts that are loaded as they were set

A variable has a value before it has a place, so also a subsystem, a path or a password that looks
like a truth value or a number is taken for one, and is written anew at its place. It comes out as
it was set exactly if it is spelled as such a value is written.

Main statement: `loadsAs_respelled`, what a text is loaded as, and for which texts that is the text
itself.
-/

namespace TrafficMeter.Settings

namespace Scalar

/-- A text as it comes out at a place for a text. -/
def respelled (text : String) : String := (read text).toText

/-- A text that is spelled as the value that it stands for is written. -/
def Kept (text : String) : Prop :=
  match read text with
  | bool _ => text = "true" ∨ text = "false"
  | integer _ => Decimal.PlainInteger text.toList
  | float x => text = x.plain
  | Scalar.text _ => True

theorem read_spec (text : String) :
    match read text with
    | bool b => bool? text = some b
    | integer i => Decimal.signed64? text.toList = some i
    | float x => Decimal.number? text.toList = some x
    | Scalar.text s => s = text := by
  unfold read
  cases truth : bool? text with
  | some b => rfl
  | none =>
      cases whole : Decimal.signed64? text.toList with
      | some i => rfl
      | none =>
          cases number : Decimal.number? text.toList with
          | some x => rfl
          | none => rfl

/-- A text is kept exactly if it is spelled as its value is written. -/
theorem respelled_eq_iff (text : String) : respelled text = text ↔ Kept text := by
  have spec := read_spec text
  unfold respelled Kept
  cases value : read text with
  | bool b =>
      rw [value] at spec
      constructor
      · intro same
        rw [← same]
        cases b with
        | true => exact .inl rfl
        | false => exact .inr rfl
      · rintro (rfl | rfl)
        · cases spec
          rfl
        · cases spec
          rfl
  | integer i =>
      rw [value] at spec
      rw [← Decimal.integer_eq_iff spec, toText, String.toList_inj]
  | float x => exact eq_comm
  | text s =>
      rw [value] at spec
      exact iff_of_true spec trivial

end Scalar

/-- Letters and digits of ASCII, and hyphens. -/
def isPlain (c : Char) : Bool := c.isAlphanum || c == '-'

theorem toNat_lt_of_isPlain {c : Char} (plain : isPlain c = true) : c.toNat < 128 := by
  change (((decide ('A' ≤ c ∧ c ≤ 'Z') || decide ('a' ≤ c) && decide (c ≤ 'z')) ||
    decide ('0' ≤ c) && decide (c ≤ '9')) || c == '-') = true at plain
  simp only [Bool.or_eq_true, Bool.and_eq_true, decide_eq_true_eq, beq_iff_eq] at plain
  have below : ∀ {last : Char}, c ≤ last → c.toNat ≤ last.toNat := fun le => le
  rcases plain with ((⟨-, upper⟩ | ⟨-, lower⟩) | ⟨-, digit⟩) | rfl
  · exact Nat.lt_of_le_of_lt (below upper) (by decide)
  · exact Nat.lt_of_le_of_lt (below lower) (by decide)
  · exact Nat.lt_of_le_of_lt (below digit) (by decide)
  · decide

theorem isNameChar_toLower {c : Char} (plain : isPlain c = true) :
    Key.isNameChar c.toLower = true ∧ c.toLower ≠ '_' := by
  have all : ∀ n < 128, isPlain (Char.ofNat n) = true →
      Key.isNameChar (Char.ofNat n).toLower = true ∧ (Char.ofNat n).toLower ≠ '_' := by
    decide
  have own := all c.toNat (toNat_lt_of_isPlain plain)
  rw [Char.ofNat_toNat] at own
  exact own plain

theorem lower_of_isPlain {c : Char} (plain : isPlain c = true) :
    Environment.lower c = c.toLower := by
  have other : c ≠ '\u212a' := by
    rintro rfl
    exact absurd plain (by decide)
  rw [Environment.lower, if_neg other]

theorem points_of_not_mem {cs : List Char} (none : '_' ∉ cs) : Environment.points cs = cs := by
  fun_induction Environment.points cs with
  | case1 rest ih => exact absurd List.mem_cons_self none
  | case2 c rest other ih => rw [ih fun member => none (List.mem_cons_of_mem c member)]
  | case3 => rfl

/-- A user name of letters, digits and hyphens. -/
structure UserName where
  text : String
  nonempty : text ≠ ""
  plain : ∀ c ∈ text.toList, isPlain c = true

namespace UserName

/-- The name in lower case. -/
def lowered (user : UserName) : String := Text.lowerAscii user.text

theorem lowered_ne_empty (user : UserName) : user.lowered ≠ "" := by
  intro empty
  have chars := congrArg String.toList empty
  rw [lowered, Text.lowerAscii, String.toList_ofList] at chars
  exact user.nonempty (String.toList_eq_nil_iff.mp (List.map_eq_nil_iff.mp chars))

theorem userKey_eq (user : UserName) : Environment.userKey user.text = user.lowered := by
  have chars : user.text.toList.map Environment.lower = user.text.toList.map Char.toLower :=
    List.map_congr_left fun c hc => lower_of_isPlain (user.plain c hc)
  have none : '_' ∉ user.text.toList.map Char.toLower := by
    intro member
    obtain ⟨c, hc, same⟩ := List.mem_map.mp member
    exact (isNameChar_toLower (user.plain c hc)).2 same
  rw [Environment.userKey, chars, points_of_not_mem none]
  rfl

/-- The variable of such a user's account stands for a member of the accounts. -/
theorem ofText_accountKey (user : UserName) :
    Key.ofText (Environment.accountKey user.text) =
      ⟨"metrics", [.name "accounts", .name user.lowered]⟩ := by
  have name : Key.read? user.lowered = some ⟨user.lowered, []⟩ := by
    refine Key.read?_name (fun empty => user.lowered_ne_empty ?_) ?_
    · exact String.toList_eq_nil_iff.mp empty
    · rw [lowered, Text.lowerAscii, String.toList_ofList, List.all_map, List.all_eq_true]
      exact fun c hc => (isNameChar_toLower (user.plain c hc)).1
  rw [Environment.ofText_accountKey, userKey_eq, name]

end UserName

/-- What a text is loaded as if it is the only thing that is set: as the subsystem, as the path, and
as the one password of a user. -/
def ServerSettings.LoadsAs (text loaded : String) : Prop :=
  (∀ env : Environment, env.OnlyOverride "APP__METRICS__SUBSYSTEM" text →
    ∃ s, load env = .ok s ∧ s.metrics.subsystem = loaded) ∧
  (∀ env : Environment, env.OnlyOverride "APP__METRICS__PATH" text →
    ∃ s, load env = .ok s ∧ s.metrics.path = loaded) ∧
  ∀ (user : UserName) (env : Environment),
    env.OnlyOverride ("APP__METRICS__ACCOUNTS__" ++ user.text) text →
      ∃ s accounts, load env = .ok s ∧ s.metrics.gate = .ok (some accounts) ∧
        ∀ password, accounts.verify ⟨user.lowered, password⟩ = some user.lowered ↔
          password = loaded

theorem MetricsSettings.gate_of_account {s : MetricsSettings} {user password : String}
    (nonempty : user ≠ "") (single : s.accounts = [(user, password)]) :
    s.gate = .ok (some ⟨[(user, password)]⟩) := by
  have given : user.isEmpty = false := by simpa using nonempty
  simp only [gate, single, Auth.Accounts.ofList, Auth.Accounts.insertAll, given]
  rfl

namespace ServerSettings

theorem load_subsystem {env : Environment} {text : String}
    (only : env.OnlyOverride "APP__METRICS__SUBSYSTEM" text) :
    load env = .ok { port := 8080,
                     metrics := { subsystem := Scalar.respelled text, path := "/metrics" } } := by
  have own : Environment.keyText? "APP__METRICS__SUBSYSTEM" = some "metrics.subsystem" := by
    decide +kernel
  have inside : Key.ofText "metrics.subsystem" = ⟨"metrics", [.name "subsystem"]⟩ := by
    decide +kernel
  rw [load_of_metrics only own inside (by simp), Environment.value_of_ne (by decide)]
  rfl

theorem load_path {env : Environment} {text : String}
    (only : env.OnlyOverride "APP__METRICS__PATH" text) :
    load env = .ok { port := 8080,
                     metrics := { subsystem := "http", path := Scalar.respelled text } } := by
  have own : Environment.keyText? "APP__METRICS__PATH" = some "metrics.path" := by
    decide +kernel
  have inside : Key.ofText "metrics.path" = ⟨"metrics", [.name "path"]⟩ := by
    decide +kernel
  rw [load_of_metrics only own inside (by simp), Environment.value_of_ne (by decide)]
  rfl

theorem load_account {env : Environment} {user : UserName} {text : String}
    (only : env.OnlyOverride ("APP__METRICS__ACCOUNTS__" ++ user.text) text) :
    load env = .ok { port := 8080,
                     metrics := { subsystem := "http", path := "/metrics",
                                  accounts := [(user.lowered, Scalar.respelled text)] } } := by
  have named : Environment.NamesAccount ("APP__METRICS__ACCOUNTS__" ++ user.text) user.text :=
    ⟨"APP__METRICS__ACCOUNTS__".toList, String.toList_append, by decide⟩
  have other : Environment.accountKey user.text ≠ Environment.listKey := by
    intro same
    have eighth := congrArg (fun key => key.toList[8]?) same
    simp [Environment.accountKey, Environment.listKey] at eighth
  rw [load_of_metrics only (Environment.keyText?_of_namesAccount named) user.ofText_accountKey
    (by simp), Environment.value_of_ne other]
  rfl

/-- A text is loaded as it is respelled, and so as it was set exactly if it is spelled as its value
is written. -/
theorem loadsAs_respelled (text : String) :
    LoadsAs text (Scalar.respelled text) ∧ (LoadsAs text text ↔ Scalar.Kept text) := by
  have loads : LoadsAs text (Scalar.respelled text) := by
    refine ⟨fun env only => ⟨_, load_subsystem only, rfl⟩,
      fun env only => ⟨_, load_path only, rfl⟩, fun user env only => ?_⟩
    refine ⟨_, _, load_account only,
      MetricsSettings.gate_of_account user.lowered_ne_empty rfl, fun password => ?_⟩
    simp [Auth.Accounts.verify, Auth.Accounts.password?, eq_comm]
  refine ⟨loads, ?_⟩
  rw [← Scalar.respelled_eq_iff]
  constructor
  · intro verbatim
    obtain ⟨s, loaded, same⟩ := verbatim.1 _ (Environment.onlyOverride_singleton _ _)
    rw [load_subsystem (Environment.onlyOverride_singleton _ _)] at loaded
    cases loaded
    exact same
  · intro same
    rw [same] at loads
    exact loads

/-- A password of digits loses its leading zeros. -/
theorem not_loadsAs_itself : ¬ ∀ text, LoadsAs text text := by
  intro verbatim
  let bob : UserName := ⟨"BOB", by decide, List.all_eq_true.mp (by decide)⟩
  obtain ⟨s, accounts, loaded, gate, opens⟩ :=
    (verbatim "007").2.2 bob _ (Environment.onlyOverride_singleton _ _)
  rw [load_account (Environment.onlyOverride_singleton _ _)] at loaded
  cases loaded
  rw [MetricsSettings.gate_of_account bob.lowered_ne_empty rfl] at gate
  cases gate
  have written : Scalar.respelled "007" = "7" := by decide +kernel
  have opened := (opens "007").mpr rfl
  simp [Auth.Accounts.verify, Auth.Accounts.password?, written] at opened

end ServerSettings

end TrafficMeter.Settings
