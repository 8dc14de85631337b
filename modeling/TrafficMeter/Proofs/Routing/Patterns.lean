import TrafficMeter.Proofs.Attempts
import TrafficMeter.Routing.Router

/-!
# Texts and their patterns

Which texts are read as patterns without captures, when such a pattern can stand beside others, and
what becomes of a text in which a capture starts within a segment.

Main statements: `check_plain`, that a pattern without captures clashes with no other pattern, and
`find?_swap`, that the byte at which a capture starts can be any but a slash.
-/

namespace TrafficMeter.Routing

/-- A byte of seven bits is part of no other character than its own. -/
theorem ascii_mem_utf8EncodeChar {c : Char} {b : UInt8} (small : b.toNat < 0x80)
    (h : b ∈ String.utf8EncodeChar c) : c.val.toNat = b.toNat := by
  have high : ∀ n, 0x80 ≤ n → n < 0x100 → b ≠ UInt8.ofNat n := by
    intro n lower upper equal
    have same := congrArg UInt8.toNat equal
    rw [UInt8.toNat_ofNat_of_lt' upper] at same
    omega
  revert h
  fun_cases String.utf8EncodeChar c with
  | case1 v single =>
      intro h
      have same := congrArg UInt8.toNat (List.mem_singleton.mp h)
      rw [UInt8.toNat_ofNat_of_lt' (by change v < 256; omega)] at same
      exact same.symm
  | case2 =>
      intro h
      simp only [List.mem_cons, List.not_mem_nil, or_false] at h
      rcases h with h | h <;> exact absurd h (high _ (by omega) (by omega))
  | case3 =>
      intro h
      simp only [List.mem_cons, List.not_mem_nil, or_false] at h
      rcases h with h | h | h <;> exact absurd h (high _ (by omega) (by omega))
  | case4 =>
      intro h
      simp only [List.mem_cons, List.not_mem_nil, or_false] at h
      rcases h with h | h | h | h <;> exact absurd h (high _ (by omega) (by omega))

/-- A slash is part of no other character. -/
theorem slash_mem_utf8EncodeChar {c : Char} (h : slash ∈ String.utf8EncodeChar c) : c = '/' := by
  apply Char.ext
  apply UInt32.toNat_inj.mp
  exact ascii_mem_utf8EncodeChar (by decide) h

namespace Piece

/-- The marks are the colon and the star. -/
theorem no_mark_iff {cs : List Char} : cs.any isMark = false ↔ ':' ∉ cs ∧ '*' ∉ cs := by
  simp only [List.any_eq_false, isMark]
  constructor
  · intro none
    exact ⟨fun h => none _ h rfl, fun h => none _ h rfl⟩
  · rintro ⟨colon, star⟩ c hc mark
    rcases Bool.or_eq_true _ _ ▸ mark with h | h
    · exact colon (eq_of_beq h ▸ hc)
    · exact star (eq_of_beq h ▸ hc)

theorem drop_plain (n : Nat) (bs : List UInt8) : (plain bs).drop n = plain (bs.drop n) :=
  List.map_drop.symm

theorem plain_injective {as bs : List UInt8} (h : plain as = plain bs) : as = bs := by
  refine (List.map_inj_right ?_).mp h
  intro a b equal
  exact byte.inj equal

/-- What is read where a capture starts. -/
theorem readFrom_mark {fuel room : Nat} {c : Char} {cs : List Char} {ps : List Piece}
    (hc : isMark c = true) (h : readFrom (fuel + 1) room (c :: cs) = .ok ps) :
    ∃ name more, ps = (if c = '*' then rest name else segment name) :: more := by
  rw [readFrom, if_pos hc] at h
  simp only at h
  split at h
  · cases h
  · split at h
    · cases h
    · split at h
      · next star =>
          obtain ⟨more, -, rfl⟩ := Attempt.map_eq_ok_iff.mp h
          exact ⟨_, more, by rw [if_pos star]⟩
      · next colon =>
          cases room with
          | zero => cases h
          | succ room =>
              obtain ⟨more, -, rfl⟩ := Attempt.map_eq_ok_iff.mp h
              exact ⟨_, more, by rw [if_neg colon]⟩

/-- Reading knows of no other patterns. -/
theorem readFrom_ne_conflict (fuel room : Nat) (cs : List Char) (other : String) :
    readFrom fuel room cs ≠ .error (.conflict other) := by
  have mapped : ∀ {e : Except PatternError (List Piece)} {f : List Piece → List Piece},
      e ≠ .error (.conflict other) → e.map f ≠ .error (.conflict other) :=
    fun h failed => h (Attempt.map_eq_error_iff.mp failed)
  induction fuel generalizing room cs with
  | zero => simp [readFrom]
  | succ fuel ih =>
      cases cs with
      | nil => simp [readFrom]
      | cons c cs =>
          rw [readFrom]
          simp only
          split
          · split
            · simp
            · split
              · simp
              · split
                · exact mapped (ih room _)
                · cases room with
                  | zero => simp
                  | succ room => exact mapped (ih room _)
          · exact mapped (ih room _)

/-- Characters before the first mark are read as their bytes. -/
theorem readFrom_append {before : List Char} (h : before.any isMark = false) (fuel room : Nat)
    (cs : List Char) :
    readFrom (before.length + fuel) room (before ++ cs) =
      (readFrom fuel room cs).map (plain (before.flatMap String.utf8EncodeChar) ++ ·) := by
  induction before with
  | nil =>
      rw [List.length_nil, Nat.zero_add, List.nil_append]
      cases readFrom fuel room cs <;> rfl
  | cons c before ih =>
      simp only [List.any_cons, Bool.or_eq_false_iff] at h
      rw [List.length_cons, Nat.add_right_comm, List.cons_append, readFrom, h.1,
        if_neg Bool.false_ne_true, ih h.2]
      cases readFrom fuel room cs with
      | error e => rfl
      | ok ps => simp [Except.map, plain]

/-- A text in which a capture starts is read as the bytes before it and a capture. -/
theorem read_mark {before after : List Char} {c : Char} {ps : List Piece}
    (hb : before.any isMark = false) (hc : isMark c = true)
    (h : read (before ++ c :: after) = .ok ps) :
    ∃ name more, ps = plain (before.flatMap String.utf8EncodeChar) ++
      (if c = '*' then rest name else segment name) :: more := by
  rw [read, List.length_append, List.length_cons, readFrom_append hb] at h
  obtain ⟨own, hr, rfl⟩ := Attempt.map_eq_ok_iff.mp h
  obtain ⟨name, more, rfl⟩ := readFrom_mark hc hr
  exact ⟨name, more, rfl⟩

/-- The characters of a text before its first mark. -/
theorem exists_first_mark {cs : List Char} (h : cs.any isMark = true) :
    ∃ before c after, cs = before ++ c :: after ∧ before.any isMark = false ∧ isMark c = true := by
  obtain ⟨d, member, mark⟩ := List.any_eq_true.mp h
  obtain ⟨c, found⟩ := Option.isSome_iff_exists.mp (List.find?_isSome.mpr ⟨d, member, mark⟩)
  obtain ⟨hc, before, after, split, none⟩ := List.find?_eq_some_iff_append.mp found
  refine ⟨before, c, after, split, ?_, hc⟩
  rw [List.any_eq_false]
  intro a ha
  simpa using none a ha

/-- Only a text without marks is read as a pattern without captures. -/
theorem no_mark_of_read_plain {cs : List Char} {bs : List UInt8} (h : read cs = .ok (plain bs)) :
    cs.any isMark = false := by
  rw [Bool.eq_false_iff]
  intro marked
  obtain ⟨before, c, after, rfl, hb, hc⟩ := exists_first_mark marked
  obtain ⟨name, more, pieces⟩ := read_mark hb hc h
  have member : (if c = '*' then rest name else segment name) ∈ plain bs := by
    rw [pieces]
    simp
  obtain ⟨b, -, equal⟩ := List.mem_map.mp member
  split at equal <;> cases equal

/-- A capture of the rest that follows another byte than a slash is out of place. -/
theorem restsPlaced_within (as : List UInt8) {b : UInt8} (hb : b ≠ slash) (name : String)
    (more : List Piece) : restsPlaced (plain (as ++ [b]) ++ rest name :: more) = false := by
  induction as with
  | nil =>
      have other : (byte b == byte slash) = false := by simpa using hb
      simp [plain, restsPlaced, startsWithRest, other]
  | cons a as ih =>
      have unfolded : restsPlaced (plain (a :: as ++ [b]) ++ rest name :: more) =
          ((byte a == byte slash || !startsWithRest (plain (as ++ [b]) ++ rest name :: more)) &&
            restsPlaced (plain (as ++ [b]) ++ rest name :: more)) := rfl
      rw [unfolded, ih, Bool.and_false]

end Piece

namespace Bundle

variable {α : Type}

/-- The byte at which a capture of a segment starts can be any but a slash. -/
theorem capture_swap {go : Bundle α → List UInt8 → Outcome α} {node : Bundle α}
    (goesOn : node.segments.isEmpty = false) {v : α} {a b : UInt8} (ha : a ≠ slash) (hb : b ≠ slash)
    {path : List UInt8} {captures : List (List UInt8)}
    (h : capture go node (a :: path) = .found v captures) :
    ∃ others, capture go node (b :: path) = .found v others := by
  have drops : ∀ c, c ≠ slash →
      (c :: path).dropWhile (· != slash) = path.dropWhile (· != slash) := by
    intro c hc
    rw [List.dropWhile_cons, if_pos (by simpa using hc)]
  unfold capture at h ⊢
  generalize node.segments = under at *
  simp only [goesOn, drops a ha, drops b hb, Bool.false_eq_true, if_false] at h ⊢
  split at h
  · cases h
    exact ⟨_, rfl⟩
  · split at h <;> cases h
  · split at h
    · cases h
    · next going =>
        obtain ⟨more, found, -⟩ := prepend_eq_found h
        rw [if_neg going, found]
        exact ⟨_, rfl⟩

theorem lead_plain_append (as : List UInt8) (ps : List Piece) :
    lead (Piece.plain as ++ ps) = as ++ lead ps := by
  induction as with
  | nil => rfl
  | cons a as ih => exact congrArg (a :: ·) ih

/-- In a path that is found, the byte at which the first capture starts can be any but a slash. -/
theorem find?_swap {as : List UInt8} {name : String} {ps : List Piece} {v : α} {a b : UInt8}
    (ha : a ≠ slash) (hb : b ≠ slash) {path : List UInt8}
    (h : (find? [(Piece.plain as ++ .segment name :: ps, v)] (as ++ a :: path)).isSome = true) :
    (find? [(Piece.plain as ++ .segment name :: ps, v)] (as ++ b :: path)).isSome = true := by
  have own : label [(Piece.plain as ++ .segment name :: ps, v)] = as := by
    have none : lead (.segment name :: ps) = [] := rfl
    rw [label, lead_plain_append, none, List.append_nil]
  have node : after as.length [(Piece.plain as ++ .segment name :: ps, v)] =
      [(.segment name :: ps, v)] := by
    simp [after, Piece.plain]
  have step : ∀ fuel c, search (fuel + 1) [(Piece.plain as ++ .segment name :: ps, v)]
      (as ++ c :: path) = capture (search fuel) [(.segment name :: ps, v)] (c :: path) := by
    intro fuel c
    rw [search]
    simp only [own, node, strip?_append]
    rfl
  unfold find? at h ⊢
  rw [List.length_append, List.length_cons, step] at h ⊢
  cases found : capture (search (as.length + (path.length + 1) + 1)) [(.segment name :: ps, v)]
      (a :: path) with
  | retry | stop =>
      rw [found] at h
      cases h
  | found w captures =>
      obtain ⟨others, other⟩ := capture_swap rfl ha hb found
      rw [other]
      rfl

end Bundle

namespace Clash

open Piece

/-- A pattern without captures stands beside all patterns but itself. -/
theorem follow_plain {fuel : Nat} {b : Bundle (List Piece)} {before : List Piece} {bs : List UInt8}
    (new : ∀ v, (plain bs, v) ∉ b) : follow fuel b before (plain bs) = .ok () := by
  induction fuel generalizing b before bs with
  | zero => rfl
  | succ fuel ih =>
      have free : ∀ more : List UInt8, checkRests (plain more) = .ok () := by
        intro more
        rw [checkRests, if_pos (restsPlaced_plain more)]
      rw [follow]
      simp only [Bundle.lead_plain, drop_plain]
      split
      · exact free _
      · next shared =>
          simp only [Bool.or_eq_true, decide_eq_true_eq, not_or, Nat.not_lt] at shared
          -- the whole label was passed
          have whole : Bundle.common b.label bs = b.label :=
            (Bundle.common_prefix_left ..).eq_of_length_le shared.2
          obtain ⟨more, rfl⟩ : b.label <+: bs := whole ▸ Bundle.common_prefix_right ..
          have gone : ∀ v, (plain more, v) ∉ b.after b.label.length := by
            intro v member
            obtain ⟨qs, hq, left⟩ := Bundle.mem_after.mp member
            exact new v (Bundle.eq_plain_append (Bundle.label_begins hq) left ▸ hq)
          rw [whole, List.drop_left]
          cases more with
          | nil =>
              have unended : (b.after b.label.length).ended? = none := by
                rw [Option.eq_none_iff_forall_not_mem]
                intro v ended
                exact gone v (Bundle.mem_of_ended? ended)
              simp [plain, unended]
          | cons c more =>
              simp only [plain, List.map_cons]
              split
              · exact free (c :: more)
              · have further : ∀ v, (plain (c :: more), v) ∉
                    (b.after b.label.length).branch c := by
                  intro v member
                  exact gone v (List.mem_filter.mp member).1
                exact ih further

theorem check_plain {others : List (List Piece)} {bs : List UInt8} (new : plain bs ∉ others) :
    check others (plain bs) = .ok () := by
  refine follow_plain ?_
  intro v member
  obtain ⟨p, hp, equal⟩ := List.mem_map.mp member
  cases equal
  exact new hp

/-- A pattern that is the first one only needs to have its captures of the rest in place. -/
theorem check_nil (ps : List Piece) : check [] ps = checkRests ps := by
  simp [check, follow, Bundle.label, Bundle.common]

end Clash

end TrafficMeter.Routing
