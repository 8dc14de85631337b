import TrafficMeter.Auth.Accounts
import TrafficMeter.Proofs.Text.Decoding

/-!
# Which credentials are read

What a field value must look like so that credentials are read from it, and which password an
account has after pairs were added to it one after the other.

Main statements: `read?_eq_some_iff`, `ofHeaders?_eq_some_iff` and `password?_ofList`.
-/

namespace TrafficMeter.Auth

namespace Credentials

/-- A field value that shows credentials: the scheme in any case, spaces, and the base64 text of the
user name, a colon and the password. -/
def ShownBy (c : Credentials) (value : String) : Prop :=
  ∃ word spaces, word.map Char.toLower = scheme ∧ spaces ≠ [] ∧ (∀ s ∈ spaces, s = ' ') ∧
    value.toList =
      word ++ spaces ++ Text.Base64.encode (Text.bytes (c.user ++ ":" ++ c.password)) ∧
    ':' ∉ c.user.toList

/-- A value is the first one of a name. -/
def First (hs : Http.Headers) (name value : String) : Prop :=
  ∃ before after, hs = before ++ (name, value) :: after ∧ ∀ h ∈ before, h.1 ≠ name

theorem split?_eq_some_iff {cs : List Char} {c : Credentials} :
    split? cs = some c ↔
      cs = (c.user ++ ":" ++ c.password).toList ∧ ':' ∉ c.user.toList := by
  constructor
  · intro h
    rw [split?] at h
    split at h
    · next mark password rest =>
        cases h
        have own : mark = ':' := by
          have stop := List.head?_dropWhile_not (· != ':') cs
          rw [rest] at stop
          simpa using stop
        have all := List.takeWhile_append_dropWhile (p := (· != ':')) (l := cs)
        rw [rest, own] at all
        refine ⟨?_, ?_⟩
        · simp [all]
        · intro member
          rw [String.toList_ofList] at member
          have other := List.all_eq_true.mp (List.all_takeWhile (l := cs)) ':' member
          simp at other
    · cases h
  · rintro ⟨rfl, plain⟩
    exact split?_join c plain

theorem payload?_eq_some_iff {value : String} {bs : List UInt8} :
    payload? value = some (Text.Base64.encode bs) ↔
      ∃ word spaces, word.map Char.toLower = scheme ∧ spaces ≠ [] ∧ (∀ s ∈ spaces, s = ' ') ∧
        value.toList = word ++ spaces ++ Text.Base64.encode bs := by
  constructor
  · intro h
    unfold payload? at h
    simp only at h
    split at h
    · next word =>
        split at h
        · next rest after =>
            rw [Option.some.injEq] at h
            refine ⟨value.toList.take scheme.length, ' ' :: rest.takeWhile (· == ' '), word,
              List.cons_ne_nil _ _, ?_, ?_⟩
            · intro s member
              rcases List.mem_cons.mp member with rfl | member
              · rfl
              · exact eq_of_beq (List.all_eq_true.mp List.all_takeWhile s member)
            · rw [← h, List.append_assoc, List.cons_append, List.takeWhile_append_dropWhile,
                ← after, List.take_append_drop]
        · cases h
    · cases h
  · rintro ⟨word, spaces, lowered, some, blank, text⟩
    have length : word.length = scheme.length := by
      rw [← lowered, List.length_map]
    obtain ⟨first, more, rfl⟩ := List.exists_cons_of_ne_nil some
    have space : first = ' ' := blank first List.mem_cons_self
    have passed : (more ++ Text.Base64.encode bs).dropWhile (· == ' ') =
        Text.Base64.encode bs := by
      rw [List.dropWhile_append_of_pos, dropWhile_encode]
      intro s member
      exact beq_of_eq (blank s (List.mem_cons_of_mem first member))
    unfold payload?
    simp only [text, space, List.append_assoc, ← length, List.take_left, List.drop_left, lowered,
      if_true, List.cons_append, passed]

/-- Credentials are read from the values that show them, and from no others. -/
theorem read?_eq_some_iff {value : String} {c : Credentials} :
    read? value = some c ↔ c.ShownBy value := by
  have steps : read? value = some c ↔
      ∃ letters, payload? value = some letters ∧ ∃ bs, Text.Base64.decode letters = some bs ∧
        ∃ text, Text.ofBytes? bs = some text ∧ split? text.toList = some c := by
    simp only [read?, Option.bind_eq_bind, Option.bind_eq_some_iff]
  rw [steps]
  constructor
  · rintro ⟨letters, payload, bs, decoded, text, read, parts⟩
    obtain rfl := Text.Base64.decode_eq_some_iff.mp decoded
    obtain rfl := Text.ofBytes?_eq_some_iff.mp read
    obtain ⟨joined, plain⟩ := split?_eq_some_iff.mp parts
    obtain rfl := String.toList_inj.mp joined
    obtain ⟨word, spaces, lowered, some, blank, value⟩ := payload?_eq_some_iff.mp payload
    exact ⟨word, spaces, lowered, some, blank, value, plain⟩
  · rintro ⟨word, spaces, lowered, some, blank, value, plain⟩
    refine ⟨_, payload?_eq_some_iff.mpr ⟨word, spaces, lowered, some, blank, value⟩, _,
      Text.Base64.decode_encode _, _, Text.ofBytes?_bytes _, split?_join c plain⟩

theorem first?_eq_some_iff {hs : Http.Headers} {name value : String} :
    hs.first? name = some value ↔ First hs name value := by
  rw [Http.Headers.first?, List.lookup_eq_some_iff]
  constructor
  · rintro ⟨before, after, split, others⟩
    exact ⟨before, after, split, fun h member => (bne_iff_ne.mp (others h member)).symm⟩
  · rintro ⟨before, after, split, others⟩
    exact ⟨before, after, split, fun h member => bne_iff_ne.mpr (others h member).symm⟩

/-- The credentials of a request are those that its first field shows. -/
theorem ofHeaders?_eq_some_iff {hs : Http.Headers} {c : Credentials} :
    ofHeaders? hs = some c ↔ ∃ value, First hs "authorization" value ∧ c.ShownBy value := by
  simp only [ofHeaders?, Option.bind_eq_some_iff, first?_eq_some_iff, read?_eq_some_iff]

end Credentials

namespace Accounts

/-- The last pair of a user has a password. -/
def LastPair (pairs : List (String × String)) (user password : String) : Prop :=
  ∃ before after, pairs = before ++ (user, password) :: after ∧ ∀ p ∈ after, p.1 ≠ user

theorem insertAll_eq_error {pairs : List (String × String)} {a : Accounts} {e : MeterError}
    (failed : a.insertAll pairs = .error e) : e = .emptyUsername := by
  induction pairs generalizing a with
  | nil => cases failed
  | cons p rest ih =>
      rw [insertAll] at failed
      split at failed
      · cases failed
        rfl
      · exact ih failed

theorem password?_insertAll {pairs : List (String × String)} {a b : Accounts}
    (done : a.insertAll pairs = .ok b) (user : String) :
    b.password? user = (pairs.reverse.lookup user).or (a.password? user) := by
  induction pairs generalizing a with
  | nil =>
      cases done
      rfl
  | cons p rest ih =>
      obtain ⟨name, password⟩ := p
      rw [insertAll] at done
      split at done
      · cases done
      · rw [ih done, password?_insert, List.reverse_cons, List.lookup_append, Option.or_assoc,
          Assoc.lookup_cons_ite, List.lookup_nil]
        split <;> rfl

/-- The password of a user is that of the last pair. -/
theorem password?_ofList {pairs : List (String × String)} {a : Accounts}
    (done : ofList pairs = .ok a) (user password : String) :
    a.password? user = some password ↔ LastPair pairs user password := by
  rw [password?_insertAll done user]
  simp only [password?, List.lookup_nil, Option.or_none]
  rw [List.lookup_eq_some_iff]
  constructor
  · rintro ⟨after, before, reversed, others⟩
    refine ⟨before.reverse, after.reverse, ?_, ?_⟩
    · rw [← List.reverse_reverse pairs, reversed]
      simp
    · intro p member
      exact (bne_iff_ne.mp (others p (List.mem_reverse.mp member))).symm
  · rintro ⟨before, after, rfl, others⟩
    refine ⟨after.reverse, before.reverse, by simp, ?_⟩
    intro p member
    exact bne_iff_ne.mpr (others p (List.mem_reverse.mp member)).symm

end Accounts

end TrafficMeter.Auth
