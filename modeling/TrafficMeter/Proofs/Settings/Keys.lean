import TrafficMeter.Settings.Environment

/-!
# Which texts are keys

A text that goes on after a name and a point is a key exactly if what comes after the point is one.
The variables of accounts have such keys: what follows the two fixed names in a variable must be a
key by itself, or else the whole text is an unknown name.

Main statement: `ofText_accountKey`, what the key of an account's variable stands for.
-/

namespace TrafficMeter.Settings

namespace Key

/-- More fuel than the text is long changes nothing. -/
theorem steps?_fuel (fuel more : Nat) {cs : List Char} (enough : cs.length ≤ fuel)
    (also : cs.length ≤ more) : steps? fuel cs = steps? more cs := by
  induction fuel generalizing more cs with
  | zero =>
      have none := List.length_eq_zero_iff.mp (Nat.le_zero.mp enough)
      rw [none, steps?, steps?]
  | succ fuel ih =>
      cases cs with
      | nil => rw [steps?, steps?]
      | cons c rest =>
          obtain ⟨more, rfl⟩ := Nat.exists_eq_add_one_of_ne_zero
            (show more ≠ 0 by
              rintro rfl
              cases also)
          have shorter : ∀ p : Char → Bool, (rest.dropWhile p).length ≤ fuel ∧
              (rest.dropWhile p).length ≤ more := by
            intro p
            have suffix := (List.dropWhile_suffix p (l := rest)).length_le
            simp only [List.length_cons] at enough also
            omega
          by_cases point : c = '.'
          · subst point
            rw [steps?, steps?, ih more (shorter _).1 (shorter _).2]
          · by_cases bracket : c = '['
            · subst bracket
              rw [steps?, steps?]
              split
              · next after found =>
                  have less := shorter (· != ']')
                  rw [found, List.length_cons] at less
                  rw [ih more (by omega) (by omega)]
              · rfl
            · rw [steps?, steps?]
              all_goals simp_all

/-- What follows a name and a point must be a key. -/
theorem read?_join {name : String} (some : name ≠ "") (plain : ∀ c ∈ name.toList, isNameChar c)
    (rest : String) :
    read? (name ++ "." ++ rest) =
      (read? rest).map fun k => ⟨name, .name k.head :: k.steps⟩ := by
  have text : (name ++ "." ++ rest).toList = name.toList ++ '.' :: rest.toList := by simp
  have point : isNameChar '.' = false := by decide
  have head : (name.toList ++ '.' :: rest.toList).takeWhile isNameChar = name.toList := by
    rw [List.takeWhile_append_of_pos plain, List.takeWhile_cons_of_neg (by simp [point]),
      List.append_nil]
  have tail : (name.toList ++ '.' :: rest.toList).dropWhile isNameChar = '.' :: rest.toList := by
    rw [List.dropWhile_append_of_pos plain, List.dropWhile_cons_of_neg (by simp [point])]
  have named : name.toList ≠ [] := fun none => some (String.toList_eq_nil_iff.mp none)
  have length : (name.toList ++ '.' :: rest.toList).length =
      name.toList.length + rest.toList.length + 1 := by
    simp only [List.length_append, List.length_cons]
    omega
  simp only [read?, text, head, tail, length, String.ofList_toList]
  rw [if_neg named, steps?]
  by_cases first : rest.toList.takeWhile isNameChar = []
  · simp [first]
  · have suffix := (List.dropWhile_suffix isNameChar (l := rest.toList)).length_le
    rw [if_neg first, if_neg first,
      steps?_fuel _ rest.toList.length (by omega) (by omega)]
    simp [Option.map_map, Function.comp_def]

end Key

namespace Environment

/-- What the name of an account's variable starts with, in lower case. -/
def accountStart : List Char := "app__metrics__accounts__".toList

/-- A variable that is named for the account of a user, in any case. -/
def NamesAccount (name user : String) : Prop :=
  ∃ start, name.toList = start ++ user.toList ∧ start.map lower = accountStart

/-- The part of a key that comes from the user. -/
def userKey (user : String) : String := String.ofList (points (user.toList.map lower))

/-- The text of the key of an account's variable. -/
def accountKey (user : String) : String := "metrics" ++ "." ++ ("accounts" ++ "." ++ userKey user)

/-- A user whose name, as it appears in a key, is a key by itself. -/
def Readable (user : String) : Prop := (Key.read? (userKey user)).isSome = true

instance (user : String) : Decidable (Readable user) := inferInstanceAs (Decidable (_ = true))

theorem keyText?_of_namesAccount {name user : String} (h : NamesAccount name user) :
    keyText? name = some (accountKey user) := by
  obtain ⟨first, text, lowered⟩ := h
  have all : name.toList.map lower =
      start ++ ("metrics__accounts__".toList ++ user.toList.map lower) := by
    rw [text, List.map_append, lowered]
    rfl
  have begins :
      start.isPrefixOf (start ++ ("metrics__accounts__".toList ++ user.toList.map lower)) := by
    rw [List.isPrefixOf_iff_prefix]
    exact List.prefix_append _ _
  have rest : points ("metrics__accounts__".toList ++ user.toList.map lower) =
      (accountKey user).toList := by
    simp [points, accountKey, userKey]
  simp only [keyText?]
  rw [all, if_pos begins, List.drop_left, rest, String.ofList_toList]

/-- The key of an account's variable stands for a member of the accounts if its user is readable,
and is an unknown name otherwise. -/
theorem ofText_accountKey (user : String) :
    Key.ofText (accountKey user) =
      match Key.read? (userKey user) with
      | some k => ⟨"metrics", .name "accounts" :: .name k.head :: k.steps⟩
      | none => ⟨accountKey user, []⟩ := by
  have outer := List.all_eq_true.mp (show "metrics".toList.all Key.isNameChar = true by decide)
  have inner := List.all_eq_true.mp (show "accounts".toList.all Key.isNameChar = true by decide)
  rw [Key.ofText, accountKey, Key.read?_join (by decide) outer, Key.read?_join (by decide) inner]
  cases Key.read? (userKey user) with
  | none => rfl
  | some k => rfl

theorem ofText_of_not_readable {user : String} (h : ¬ Readable user) :
    Key.ofText (accountKey user) = ⟨accountKey user, []⟩ := by
  have none : Key.read? (userKey user) = none := by
    simpa [Readable] using h
  rw [ofText_accountKey, none]

theorem ne_accountKey {short : String} (few : short.length < 8) (user : String) :
    short ≠ accountKey user := by
  rintro rfl
  have fixed : "metrics".length + ".".length = 8 := rfl
  simp only [accountKey, String.length_append] at few
  omega

end Environment

end TrafficMeter.Settings
