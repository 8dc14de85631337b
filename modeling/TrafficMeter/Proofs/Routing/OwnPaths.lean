import Mathlib.Data.List.Pairwise
import TrafficMeter.Proofs.Routing.ExporterPath

/-!
# The own path of a route

The text of a route is a path as well, and its marks are bytes like any others there. Patterns that
stand in one router part at a byte or where one of them ends, never at two captures. So the text of
a pattern, followed through all of them at once, leads to no other pattern: its captures take what
they are written as.

Main statement: `Built.find?_own`, that every route is found at its own path.
-/

namespace TrafficMeter.Routing

namespace Piece

/-- Two patterns part at a byte, at an end, or where one has a capture and the other has none. -/
def Apart : List Piece → List Piece → Prop
  | byte a :: ps, byte b :: qs => a ≠ b ∨ Apart ps qs
  | segment _ :: ps, segment _ :: qs => Apart ps qs
  | [], [] => False
  | rest _ :: _, rest _ :: _ => False
  | segment _ :: _, rest _ :: _ => False
  | rest _ :: _, segment _ :: _ => False
  | _, _ => True

/-- Nothing follows, or a slash does. -/
def AtSlash : List Piece → Prop
  | [] => True
  | p :: _ => p = byte slash

/-- A pattern as it can be read: no byte is a mark, and a name goes on to the end of its segment. -/
def Regular : List Piece → Prop
  | [] => True
  | byte b :: ps => b ≠ 0x3a ∧ b ≠ 0x2a ∧ Regular ps
  | segment name :: ps | rest name :: ps =>
      slash ∉ Text.bytes name ∧ AtSlash ps ∧ Regular ps

/-- A capture of the rest ends its pattern. -/
def RestLast : List Piece → Prop
  | [] => True
  | rest _ :: ps => ps = []
  | byte _ :: ps | segment _ :: ps => RestLast ps

theorem Apart.symm {ps qs : List Piece} (h : Apart ps qs) : Apart qs ps := by
  induction ps generalizing qs with
  | nil =>
      cases qs with
      | nil => exact h
      | cons q qs => cases q <;> trivial
  | cons p ps ih =>
      cases qs with
      | nil => cases p <;> trivial
      | cons q qs =>
          cases p <;> cases q <;> first | trivial | exact h.imp Ne.symm ih | exact ih h

/-- Bytes with which both patterns begin do not matter. -/
theorem apart_drop {as : List UInt8} {ps qs : List Piece} (hp : as <+: Bundle.lead ps)
    (hq : as <+: Bundle.lead qs) :
    Apart (ps.drop as.length) (qs.drop as.length) ↔ Apart ps qs := by
  induction as generalizing ps qs with
  | nil => exact Iff.rfl
  | cons a as ih =>
      match ps, qs with
      | .byte p :: ps, .byte q :: qs =>
          simp only [Bundle.lead, List.cons_prefix_cons] at hp hq
          simp [Apart, ← hp.1, ← hq.1, ih hp.2 hq.2]
      | [], _ | .segment _ :: _, _ | .rest _ :: _, _ => simp [Bundle.lead] at hp
      | _, [] | _, .segment _ :: _ | _, .rest _ :: _ => simp [Bundle.lead] at hq

theorem Regular.tail {p : Piece} {ps : List Piece} (h : Regular (p :: ps)) : Regular ps := by
  cases p <;> exact h.2.2

theorem Regular.drop {ps : List Piece} (h : Regular ps) (n : Nat) : Regular (ps.drop n) := by
  induction n generalizing ps with
  | zero => exact h
  | succ n ih =>
      cases ps with
      | nil => exact h
      | cons p ps => exact ih h.tail

theorem RestLast.tail {p : Piece} {ps : List Piece} (h : RestLast (p :: ps)) : RestLast ps := by
  cases p with
  | byte b => exact h
  | segment name => exact h
  | rest name =>
      rw [show ps = [] from h]
      trivial

theorem RestLast.drop {ps : List Piece} (h : RestLast ps) (n : Nat) : RestLast (ps.drop n) := by
  induction n generalizing ps with
  | zero => exact h
  | succ n ih =>
      cases ps with
      | nil => exact h
      | cons p ps => exact ih h.tail

/-- Bytes with which a pattern begins are no captures. -/
theorem RestLast.of_drop {as : List UInt8} {ps : List Piece} (hp : as <+: Bundle.lead ps)
    (h : RestLast (ps.drop as.length)) : RestLast ps := by
  induction as generalizing ps with
  | nil => exact h
  | cons a as ih =>
      match ps with
      | .byte p :: ps =>
          simp only [Bundle.lead, List.cons_prefix_cons] at hp
          have further : RestLast ps := ih hp.2 h
          exact further
      | [] | .segment _ :: _ | .rest _ :: _ => simp [Bundle.lead] at hp

theorem restLast_of_restsPlaced {ps : List Piece} (h : restsPlaced ps = true) : RestLast ps := by
  induction ps with
  | nil => trivial
  | cons p ps ih =>
      cases p with
      | byte b | segment name =>
          rw [restsPlaced, Bool.and_eq_true] at h
          exact ih h.2
          all_goals simp
      | rest name => exact List.isEmpty_iff.mp h

/-! ## Patterns that are read -/

/-- The bytes of a character that is no mark are no marks. -/
theorem regular_append {c : Char} (unmarked : isMark c = false) {ps : List Piece}
    (h : Regular ps) : Regular ((String.utf8EncodeChar c).map byte ++ ps) := by
  have marks : ∀ b ∈ String.utf8EncodeChar c, b ≠ 0x3a ∧ b ≠ 0x2a := by
    intro b member
    constructor
    · rintro rfl
      have colon : c = ':' := Char.ext (UInt32.toNat_inj.mp
        (ascii_mem_utf8EncodeChar (by decide) member))
      subst colon
      cases unmarked
    · rintro rfl
      have star : c = '*' := Char.ext (UInt32.toNat_inj.mp
        (ascii_mem_utf8EncodeChar (by decide) member))
      subst star
      cases unmarked
  generalize String.utf8EncodeChar c = bs at marks
  induction bs with
  | nil => exact h
  | cons b bs ih =>
      obtain ⟨colon, star⟩ := marks b List.mem_cons_self
      exact ⟨colon, star, ih fun d member => marks d (List.mem_cons_of_mem b member)⟩

/-- Where a name ends there is nothing, or a slash. -/
theorem atSlash_of_readFrom {fuel room : Nat} {cs : List Char} {ps : List Piece}
    (h : readFrom fuel room (cs.dropWhile (· != '/')) = .ok ps) : AtSlash ps := by
  cases fuel with
  | zero =>
      cases h
      trivial
  | succ fuel =>
      cases more : cs.dropWhile (· != '/') with
      | nil =>
          rw [more] at h
          cases h
          trivial
      | cons d others =>
          have stopped : d = '/' := by
            have := List.head?_dropWhile_not (· != '/') cs
            simpa [more] using this
          subst stopped
          rw [more, readFrom] at h
          obtain ⟨tail, -, rfl⟩ := Attempt.map_eq_ok_iff.mp h
          rfl

theorem slash_not_mem_name (cs : List Char) :
    slash ∉ Text.bytes (String.ofList (cs.takeWhile (· != '/'))) := by
  rw [Text.bytes_ofList, List.mem_flatMap]
  rintro ⟨c, member, inside⟩
  rw [slash_mem_utf8EncodeChar inside] at member
  have other := List.all_eq_true.mp (List.all_takeWhile (l := cs)) '/' member
  cases other

/-- What is read is written as the text. -/
theorem readFrom_regular {fuel room : Nat} {cs : List Char} {ps : List Piece}
    (enough : cs.length ≤ fuel) (h : readFrom fuel room cs = .ok ps) :
    Regular ps ∧ Clash.whole ps = cs.flatMap String.utf8EncodeChar := by
  induction fuel generalizing room cs ps with
  | zero =>
      cases List.length_eq_zero_iff.mp (Nat.le_zero.mp enough)
      cases h
      exact ⟨trivial, rfl⟩
  | succ fuel ih =>
      cases cs with
      | nil =>
          cases h
          exact ⟨trivial, rfl⟩
      | cons c cs =>
          rw [List.length_cons] at enough
          rw [readFrom] at h
          simp only at h
          split at h
          · next mark =>
              have shorter : (cs.dropWhile (· != '/')).length ≤ fuel := by
                have := (List.dropWhile_sublist (· != '/') (l := cs)).length_le
                omega
              have parts : cs.flatMap String.utf8EncodeChar =
                  Text.bytes (String.ofList (cs.takeWhile (· != '/'))) ++
                    (cs.dropWhile (· != '/')).flatMap String.utf8EncodeChar := by
                rw [Text.bytes_ofList, ← List.flatMap_append, List.takeWhile_append_dropWhile]
              have named := slash_not_mem_name cs
              rw [List.flatMap_cons, parts]
              split at h
              · cases h
              · split at h
                · cases h
                · split at h
                  · next star =>
                      obtain ⟨more, read, rfl⟩ := Attempt.map_eq_ok_iff.mp h
                      obtain ⟨regular, spelled⟩ := ih shorter read
                      subst star
                      rw [← spelled]
                      exact ⟨⟨named, atSlash_of_readFrom read, regular⟩, rfl⟩
                  · next other =>
                      have colon : c = ':' := by simpa [isMark, other] using mark
                      subst colon
                      cases room with
                      | zero => cases h
                      | succ room =>
                          obtain ⟨more, read, rfl⟩ := Attempt.map_eq_ok_iff.mp h
                          obtain ⟨regular, spelled⟩ := ih shorter read
                          rw [← spelled]
                          exact ⟨⟨named, atSlash_of_readFrom read, regular⟩, rfl⟩
          · next unmarked =>
              obtain ⟨more, read, rfl⟩ := Attempt.map_eq_ok_iff.mp h
              obtain ⟨regular, spelled⟩ := ih (by omega) read
              refine ⟨regular_append (Bool.eq_false_iff.mpr unmarked) regular, ?_⟩
              rw [List.flatMap_cons, ← spelled, Clash.whole, List.flatMap_append]
              simp [Clash.whole, List.flatMap_map, written]

/-- What is read of the text of a path is written as the bytes of the path. -/
theorem read_regular {path : String} {ps : List Piece} (h : read path.toList = .ok ps) :
    Regular ps ∧ Clash.whole ps = Text.bytes path := by
  have all := readFrom_regular (Nat.le_refl _) h
  rwa [← Text.bytes_eq_flatMap] at all

end Piece

/-! ## Patterns beside each other -/

namespace Bundle

variable {α : Type}

/-- Patterns that can be told apart wherever a search leads. -/
structure Orderly (b : Bundle α) : Prop where
  apart : ∀ e ∈ b, ∀ f ∈ b, e = f ∨ Piece.Apart e.1 f.1
  regular : ∀ e ∈ b, Piece.Regular e.1
  last : ∀ e ∈ b, Piece.RestLast e.1

theorem mem_segments_iff {b : Bundle α} {ps : List Piece} {v : α} :
    (ps, v) ∈ b.segments ↔ ∃ name, (.segment name :: ps, v) ∈ b := by
  refine ⟨mem_segments, ?_⟩
  rintro ⟨name, member⟩
  exact List.mem_filterMap.mpr ⟨_, member, rfl⟩

namespace Orderly

variable {b : Bundle α}

theorem sub (h : b.Orderly) {c : Bundle α} (within : c ⊆ b) : c.Orderly where
  apart := fun e he f hf => h.apart e (within he) f (within hf)
  regular := fun e he => h.regular e (within he)
  last := fun e he => h.last e (within he)

/-- Patterns stay in order behind a beginning that they share. -/
theorem after_beginning (h : b.Orderly) {as : List UInt8} (begins : as <+: b.label) :
    (b.after as.length).Orderly where
  apart := by
    rintro ⟨_, v⟩ he ⟨_, w⟩ hf
    obtain ⟨ps, hp, rfl⟩ := mem_after.mp he
    obtain ⟨qs, hq, rfl⟩ := mem_after.mp hf
    rcases h.apart _ hp _ hq with same | apart
    · cases same
      exact .inl rfl
    · refine .inr ((Piece.apart_drop ?_ ?_).mpr apart)
      · exact begins.trans (label_begins hp)
      · exact begins.trans (label_begins hq)
  regular := by
    rintro ⟨_, v⟩ he
    obtain ⟨ps, hp, rfl⟩ := mem_after.mp he
    exact (h.regular _ hp).drop _
  last := by
    rintro ⟨_, v⟩ he
    obtain ⟨ps, hp, rfl⟩ := mem_after.mp he
    exact (h.last _ hp).drop _

theorem after_label (h : b.Orderly) : (b.after b.label.length).Orderly :=
  h.after_beginning (List.prefix_refl _)

theorem branch (h : b.Orderly) (c : UInt8) : (b.branch c).Orderly :=
  h.sub List.filter_sublist.subset

theorem deeper (h : b.Orderly) : b.deeper.Orderly := h.sub List.filter_sublist.subset

theorem segments (h : b.Orderly) : b.segments.Orderly where
  apart := by
    rintro ⟨ps, v⟩ he ⟨qs, w⟩ hf
    obtain ⟨name, hp⟩ := mem_segments he
    obtain ⟨other, hq⟩ := mem_segments hf
    rcases h.apart _ hp _ hq with same | apart
    · cases same
      exact .inl rfl
    · exact .inr apart
  regular := by
    rintro ⟨ps, v⟩ he
    obtain ⟨name, hp⟩ := mem_segments he
    exact (h.regular _ hp).tail
  last := by
    rintro ⟨ps, v⟩ he
    obtain ⟨name, hp⟩ := mem_segments he
    exact (h.last _ hp).tail

/-- No other pattern ends where one ends. -/
theorem ended? (h : b.Orderly) {v : α} (member : ([], v) ∈ b) : b.ended? = some v := by
  obtain ⟨w, found⟩ := exists_ended? member
  rcases h.apart _ member _ (mem_of_ended? found) with same | apart
  · cases same
    exact found
  · exact apart.elim

/-- No pattern goes on with a mark. -/
theorem branch_mark (h : b.Orderly) {c : UInt8} (mark : c = 0x3a ∨ c = 0x2a) :
    b.branch c = [] := by
  refine List.filter_eq_nil_iff.mpr ?_
  rintro ⟨ps, v⟩ member starts
  have regular : Piece.Regular ps := h.regular _ member
  cases ps with
  | nil => cases starts
  | cons p more =>
      cases (show p = .byte c by simpa using starts)
      exact mark.elim regular.1 regular.2.1

/-- Where a pattern captures the rest no other has a capture. -/
theorem no_segments (h : b.Orderly) {name : String} {more : List Piece} {v : α}
    (member : (.rest name :: more, v) ∈ b) : b.segments = [] := by
  refine List.eq_nil_iff_forall_not_mem.mpr ?_
  rintro ⟨ps, w⟩ inside
  obtain ⟨other, there⟩ := mem_segments inside
  rcases h.apart _ member _ there with same | apart
  · cases same
  · exact apart

/-- Behind the capture of a segment every pattern that goes on does so with a slash. -/
theorem slash_begins (h : b.Orderly) {ps : List Piece} {v : α}
    (member : (ps, v) ∈ b.segments.deeper) : ∃ more, ps = .byte slash :: more := by
  obtain ⟨inside, goesOn⟩ := List.mem_filter.mp member
  obtain ⟨name, own⟩ := mem_segments inside
  have ends : Piece.AtSlash ps := (h.regular _ own).2.1
  cases ps with
  | nil => cases goesOn
  | cons p more =>
      cases (show p = .byte slash from ends)
      exact ⟨more, rfl⟩

theorem label_segments (h : b.Orderly) (some : b.segments.deeper ≠ []) :
    [slash] <+: b.segments.deeper.label := by
  refine prefix_label some ?_
  intro ps v member
  obtain ⟨more, rfl⟩ := h.slash_begins member
  simp [lead]

theorem label_segments_ne_nil (h : b.Orderly) (some : b.segments.deeper ≠ []) :
    b.segments.deeper.label ≠ [] :=
  (h.label_segments some).ne_nil (List.cons_ne_nil _ _)

end Orderly

theorem label_branch {b : Bundle α} {c : UInt8} (some : b.branch c ≠ []) :
    [c] <+: (b.branch c).label := by
  refine prefix_label some ?_
  intro ps v member
  have starts := (List.mem_filter.mp member).2
  cases ps with
  | nil => cases starts
  | cons p more =>
      cases (show p = .byte c by simpa using starts)
      simp [lead]

theorem label_branch_ne_nil {b : Bundle α} {c : UInt8} (some : b.branch c ≠ []) :
    (b.branch c).label ≠ [] :=
  (label_branch some).ne_nil (List.cons_ne_nil _ _)

/-! ## Searching for the text of a pattern -/

open Clash (whole)

theorem whole_of_begins {as : List UInt8} {ps : List Piece} (h : as <+: lead ps) :
    whole ps = as ++ whole (ps.drop as.length) := by
  induction as generalizing ps with
  | nil => rfl
  | cons a as ih =>
      match ps with
      | .byte p :: ps =>
          simp only [lead, List.cons_prefix_cons] at h
          rw [h.1]
          exact congrArg (p :: ·) (ih h.2)
      | [] | .segment _ :: _ | .rest _ :: _ => simp [lead] at h

theorem whole_eq_nil {ps : List Piece} (h : whole ps = []) : ps = [] := by
  cases ps with
  | nil => rfl
  | cons p ps => cases p <;> cases h

/-- If only a slash is left of a pattern, and others begin with this byte, it is all that they
begin with. -/
theorem label_of_slash_left {b : Bundle α} {c : UInt8} (first : [c] <+: b.label)
    {more : List Piece} {v : α} (member : (.byte c :: more, v) ∈ b)
    (left : c :: whole more = [slash]) : b.label = [slash] := by
  obtain ⟨rfl, none⟩ := List.cons.inj left
  cases whole_eq_nil none
  exact (first.eq_of_length_le (label_begins member).length_le).symm

/-- A capture of the rest takes the text that it is written as. -/
theorem capture_rest (go : Bundle α → List UInt8 → Outcome α) {b : Bundle α} (h : b.Orderly)
    {name : String} {v : α} (member : ([.rest name], v) ∈ b) (path : List UInt8) :
    capture go b path = .found v [path] := by
  have own : ([.rest name], v) ∈ b.rests := List.mem_filter.mpr ⟨member, rfl⟩
  unfold capture
  rw [h.no_segments member]
  simp only [List.isEmpty_nil, if_true]
  cases others : b.rests with
  | nil =>
      rw [others] at own
      cases own
  | cons e more =>
      obtain ⟨qs, w⟩ := e
      have first : (qs, w) ∈ b.rests := others ▸ List.mem_cons_self
      obtain ⟨inside, other, rfl⟩ := mem_of_rests first
      rcases h.apart _ member _ inside with same | apart
      · cases same
        rfl
      · exact apart.elim

/-- A capture of a segment takes the text that it is written as, and the search goes on. -/
theorem capture_segment {go : Bundle α → List UInt8 → Outcome α} {b : Bundle α} (h : b.Orderly)
    {name : String} {ps : List Piece} {v : α} (member : (.segment name :: ps, v) ∈ b)
    (further : (ps, v) ∈ b.segments.deeper →
      ∃ taken, go b.segments.deeper (whole ps) = .found v taken) :
    ∃ taken, capture go b (whole (.segment name :: ps)) = .found v taken := by
  have own := mem_segments_iff.mpr ⟨name, member⟩
  obtain ⟨slashless, ends, -⟩ := h.regular _ member
  have left : (whole (.segment name :: ps)).dropWhile (· != slash) = whole ps := by
    have inside : ∀ c ∈ 0x3a :: Text.bytes name, (c != slash) = true := by
      intro c hc
      rw [bne_iff_ne]
      rintro rfl
      rcases List.mem_cons.mp hc with mark | hc
      · cases mark
      · exact slashless hc
    change ((0x3a :: Text.bytes name) ++ whole ps).dropWhile (· != slash) = whole ps
    rw [List.dropWhile_append_of_pos inside]
    cases ps with
    | nil => rfl
    | cons p more =>
        cases (show p = .byte slash from ends)
        rfl
  unfold capture
  simp only [left, List.isEmpty_iff, List.ne_nil_of_mem own, if_false]
  cases ps with
  | nil =>
      rw [h.segments.ended? own]
      exact ⟨_, rfl⟩
  | cons p more =>
      have deeper : (p :: more, v) ∈ b.segments.deeper := List.mem_filter.mpr ⟨own, rfl⟩
      obtain ⟨taken, found⟩ := further deeper
      cases (show p = .byte slash from ends)
      have starts : whole (.byte slash :: more) = slash :: whole more := rfl
      have all := h.label_segments (List.ne_nil_of_mem deeper)
      rw [starts] at found ⊢
      simp only
      rw [if_neg, found]
      · exact ⟨_, rfl⟩
      · simp only [Bool.and_eq_true, decide_eq_true_eq, bne_iff_ne]
        exact fun stop => stop.1.2 (label_of_slash_left all deeper stop.1.1)

/-- The text of a pattern leads to the pattern if there is fuel for it. -/
theorem search_own {fuel : Nat} {b : Bundle α} (h : b.Orderly) {ps : List Piece} {v : α}
    (member : (ps, v) ∈ b)
    (room : (whole ps).length + 1 < fuel ∨ b.label ≠ [] ∧ (whole ps).length < fuel) :
    ∃ taken, search fuel b (whole ps) = .found v taken := by
  induction fuel generalizing b ps with
  | zero => omega
  | succ fuel ih =>
      have begins := label_begins member
      have text := whole_of_begins begins
      have stripped : strip? b.label (whole ps) = some (whole (ps.drop b.label.length)) := by
        rw [text]
        exact strip?_append ..
      have shorter := congrArg List.length text
      rw [List.length_append] at shorter
      have left : (ps.drop b.label.length, v) ∈ b.after b.label.length :=
        mem_after.mpr ⟨ps, member, rfl⟩
      have orderly := h.after_label
      rw [search]
      simp only [stripped]
      generalize ps.drop b.label.length = own at *
      generalize b.after b.label.length = node at *
      -- the case of each next piece
      cases own with
      | nil =>
          rw [orderly.ended? left]
          exact ⟨_, rfl⟩
      | cons p more =>
          cases p with
          | byte c =>
              have further : (.byte c :: more, v) ∈ node.branch c :=
                List.mem_filter.mpr ⟨left, by simp⟩
              have some := List.ne_nil_of_mem further
              have starts : whole (.byte c :: more) = c :: whole more := rfl
              rw [starts, List.length_cons] at shorter
              have enough : (whole (.byte c :: more)).length < fuel := by
                rw [starts, List.length_cons]
                rcases room with room | ⟨named, room⟩
                · omega
                · have := List.length_pos_iff.mpr named
                  omega
              obtain ⟨taken, found⟩ :=
                ih (orderly.branch c) further (.inr ⟨label_branch_ne_nil some, enough⟩)
              rw [starts] at found ⊢
              simp only [List.isEmpty_iff, some, if_false]
              rw [if_neg, found]
              · exact ⟨taken, rfl⟩
              · simp only [Bool.and_eq_true, decide_eq_true_eq, bne_iff_ne]
                intro stop
                exact stop.1.2 (label_of_slash_left (label_branch some) further stop.1.1)
          | segment name =>
              have unbranched := orderly.branch_mark (c := 0x3a) (.inl rfl)
              have starts : whole (.segment name :: more) =
                0x3a :: (Text.bytes name ++ whole more) := rfl
              rw [starts, List.length_cons, List.length_append] at shorter
              rw [starts]
              simp only [unbranched, List.isEmpty_nil, if_true]
              rw [← starts]
              refine capture_segment orderly left fun deeper => ?_
              have named := orderly.label_segments_ne_nil (List.ne_nil_of_mem deeper)
              exact ih orderly.segments.deeper deeper (.inr ⟨named, by omega⟩)
          | rest name =>
              cases (show more = [] from orderly.last _ left)
              have unbranched := orderly.branch_mark (c := 0x2a) (.inr rfl)
              have starts : whole [.rest name] = 0x2a :: (Text.bytes name ++ []) := rfl
              rw [starts]
              simp only [unbranched, List.isEmpty_nil, if_true]
              exact ⟨_, capture_rest _ orderly left _⟩

/-- A pattern that does not begin with all that others begin with parts from them. -/
theorem apart_of_common {as : List UInt8} {ps qs : List Piece} (hq : as <+: lead qs)
    (short : (common as (lead ps)).length < as.length) : Piece.Apart ps qs := by
  induction as generalizing ps qs with
  | nil => cases short
  | cons a as ih =>
      match ps, qs with
      | .byte p :: ps, .byte q :: qs =>
          simp only [lead, List.cons_prefix_cons] at hq
          by_cases same : a = p
          · refine .inr (ih hq.2 ?_)
            simpa [common, lead, same] using short
          · exact .inl fun equal => same (hq.1.trans equal.symm)
      | [], .byte _ :: _ | .segment _ :: _, .byte _ :: _ | .rest _ :: _, .byte _ :: _ => trivial
      | _, [] | _, .segment _ :: _ | _, .rest _ :: _ => simp [lead] at hq

end Bundle

/-! ## Patterns that are accepted -/

namespace Clash

open Piece

theorem restLast_of_checkRests {ps : List Piece} (h : checkRests ps = .ok ()) : RestLast ps := by
  rw [checkRests] at h
  split at h
  · next placed => exact restLast_of_restsPlaced placed
  · cases h

theorem apart_nil {qs : List Piece} (some : qs ≠ []) : Apart [] qs := by
  cases qs with
  | nil => exact absurd rfl some
  | cons q qs => cases q <;> trivial

/-- From patterns none of which ends here one that does is parted. -/
theorem apart_ended {node : Bundle (List Piece)} (h : node.Orderly) (none : node.ended? = none) :
    ∀ qs w, (qs, w) ∈ node → Apart [] qs := by
  intro qs w member
  refine apart_nil ?_
  rintro rfl
  rw [h.ended? member] at none
  cases none

/-- From patterns that go on otherwise a byte parts a pattern. -/
theorem apart_byte {node : Bundle (List Piece)} {c : UInt8} {ps : List Piece}
    (under : ∀ qs w, (qs, w) ∈ node.branch c → Apart (.byte c :: ps) qs) :
    ∀ qs w, (qs, w) ∈ node → Apart (.byte c :: ps) qs := by
  intro qs w member
  match qs with
  | .byte d :: qs =>
      by_cases same : d = c
      · exact under _ w (List.mem_filter.mpr ⟨member, by simp [same]⟩)
      · exact .inl (Ne.symm same)
  | [] | .segment _ :: _ | .rest _ :: _ => trivial

/-- From patterns without a capture of the rest that of a segment parts a pattern, if what follows
parts it from those that have one as well. -/
theorem apart_segment {node : Bundle (List Piece)} {name : String} {ps : List Piece}
    (restless : ∀ other qs w, (.rest other :: qs, w) ∉ node)
    (under : ∀ qs w, (qs, w) ∈ node.segments → Apart ps qs) :
    ∀ qs w, (qs, w) ∈ node → Apart (.segment name :: ps) qs := by
  intro qs w member
  match qs with
  | .segment other :: qs => exact under qs w (Bundle.mem_segments_iff.mpr ⟨other, member⟩)
  | .rest other :: qs => exact absurd member (restless other qs w)
  | [] | .byte _ :: _ => trivial

/-- From patterns without a capture the capture of the rest parts a pattern. -/
theorem apart_rest {node : Bundle (List Piece)} {name : String} {ps : List Piece}
    (segmentless : ∀ other qs w, (.segment other :: qs, w) ∉ node)
    (restless : ∀ other qs w, (.rest other :: qs, w) ∉ node) :
    ∀ qs w, (qs, w) ∈ node → Apart (.rest name :: ps) qs := by
  intro qs w member
  match qs with
  | .segment other :: qs => exact absurd member (segmentless other qs w)
  | .rest other :: qs => exact absurd member (restless other qs w)
  | [] | .byte _ :: _ => trivial

/-- A capture of the rest is among those that are looked for. -/
theorem mem_rests {node : Bundle (List Piece)} (h : node.Orderly) {name : String}
    {ps w : List Piece} (member : (.rest name :: ps, w) ∈ node) : node.rests ≠ [] := by
  cases (show ps = [] from h.last _ member)
  exact List.ne_nil_of_mem (List.mem_filter.mpr ⟨member, rfl⟩)

/-- A pattern with a capture of a segment that is accepted parts from all others. -/
theorem followSegment_apart {go : Bundle (List Piece) → Except PatternError Unit}
    {node : Bundle (List Piece)} (h : node.Orderly) {name : String} {ps : List Piece}
    (further : go node.segments.deeper = .ok () →
      RestLast ps ∧ ∀ qs w, (qs, w) ∈ node.segments.deeper → Apart ps qs)
    (fits : followSegment go node (.segment name) ps = .ok ()) :
    RestLast ps ∧ ∀ qs w, (qs, w) ∈ node → Apart (.segment name :: ps) qs := by
  rw [followSegment] at fits
  simp only [List.isEmpty_iff] at fits
  split at fits
  · next none =>
      split at fits
      · next restless =>
          have last : RestLast (.segment name :: ps) := restLast_of_checkRests fits
          refine ⟨last, apart_segment ?_ ?_⟩
          · exact fun other qs w member => mem_rests h member restless
          · intro qs w member
            rw [none] at member
            cases member
      · cases fits
  · next some =>
      -- beside the capture of a segment there is none of the rest
      have restless : ∀ other qs w, (.rest other :: qs, w) ∉ node :=
        fun other qs w member => some (h.no_segments member)
      split at fits
      · next ended =>
          subst ended
          split at fits
          · next none =>
              have ends := apart_ended h.segments (Option.isNone_iff_eq_none.mp none)
              exact ⟨trivial, apart_segment restless ends⟩
          · cases fits
      · next goesOn =>
          have deeper : ∀ qs w, (qs, w) ∈ node.segments → qs ≠ [] →
              (qs, w) ∈ node.segments.deeper := by
            intro qs w member some
            exact List.mem_filter.mpr ⟨member, by simpa using some⟩
          have all : RestLast ps ∧ ∀ qs w, (qs, w) ∈ node.segments.deeper → Apart ps qs := by
            split at fits
            · next flat =>
                refine ⟨restLast_of_checkRests fits, ?_⟩
                intro qs w member
                rw [flat] at member
                cases member
            · exact further fits
          refine ⟨all.1, apart_segment restless ?_⟩
          intro qs w member
          by_cases ended : qs = []
          · rw [ended]
            exact (apart_nil goesOn).symm
          · exact all.2 qs w (deeper qs w member ended)

/-- Where the check stops before the label is passed, a pattern parts from all of a bundle. -/
theorem apart_of_short {b : Bundle (List Piece)} {ps : List Piece}
    (short : (b.isEmpty ||
      decide ((Bundle.common b.label (Bundle.lead ps)).length < b.label.length)) = true) :
    ∀ qs w, (qs, w) ∈ b → Apart ps qs := by
  intro qs w member
  rcases (Bool.or_eq_true _ _).mp short with empty | short
  · rw [List.isEmpty_iff.mp empty] at member
    cases member
  · exact Bundle.apart_of_common (Bundle.label_begins member) (of_decide_eq_true short)

/-- What parts a pattern behind the bytes with which all begin parts it from the others. -/
theorem apart_of_after {b : Bundle (List Piece)} {ps : List Piece}
    (begins : b.label <+: Bundle.lead ps)
    (apart : ∀ qs w, (qs, w) ∈ b.after b.label.length → Apart (ps.drop b.label.length) qs) :
    ∀ qs w, (qs, w) ∈ b → Apart ps qs := by
  intro qs w member
  exact (apart_drop begins (Bundle.label_begins member)).mp
    (apart _ w (Bundle.mem_after.mpr ⟨qs, member, rfl⟩))

/-- A pattern that is accepted parts from all others. -/
theorem follow_apart {fuel : Nat} {b : Bundle (List Piece)} (h : b.Orderly)
    {before ps : List Piece}
    (room : ps.length < fuel ∨ b.label ≠ [] ∧ ps.length ≤ fuel ∧ ps ≠ [])
    (fits : follow fuel b before ps = .ok ()) :
    RestLast ps ∧ ∀ qs w, (qs, w) ∈ b → Apart ps qs := by
  induction fuel generalizing b before ps with
  | zero =>
      rcases room with room | ⟨-, room, some⟩
      · exact absurd room (Nat.not_lt_zero _)
      · exact absurd (List.length_eq_zero_iff.mp (Nat.le_zero.mp room)) some
  | succ fuel ih =>
      rw [follow] at fits
      simp only at fits
      split at fits
      · next short =>
          have shared := Bundle.common_prefix_right b.label (Bundle.lead ps)
          exact ⟨(restLast_of_checkRests fits).of_drop shared, apart_of_short short⟩
      · next long =>
          simp only [Bool.or_eq_true, decide_eq_true_eq, not_or, Nat.not_lt] at long
          -- the whole label was passed
          have passed : Bundle.common b.label (Bundle.lead ps) = b.label :=
            (Bundle.common_prefix_left ..).eq_of_length_le long.2
          have begins : b.label <+: Bundle.lead ps := passed ▸ Bundle.common_prefix_right ..
          rw [passed] at fits
          have orderly := h.after_label
          suffices own : RestLast (ps.drop b.label.length) ∧
              ∀ qs w, (qs, w) ∈ b.after b.label.length → Apart (ps.drop b.label.length) qs from
            ⟨own.1.of_drop begins, apart_of_after begins own.2⟩
          have shorter : (ps.drop b.label.length).length = ps.length - b.label.length :=
            List.length_drop
          generalize ps.drop b.label.length = own at *
          generalize b.after b.label.length = node at *
          cases own with
          | nil =>
              simp only at fits
              split at fits
              · next none =>
                  exact ⟨trivial, apart_ended orderly (Option.isNone_iff_eq_none.mp none)⟩
              · split at fits <;> cases fits
          | cons p more =>
              have enough : more.length < fuel := by
                rw [List.length_cons] at shorter
                rcases room with room | ⟨named, room, -⟩
                · omega
                · have := List.length_pos_iff.mpr named
                  omega
              cases p with
              | byte c =>
                  simp only [List.isEmpty_iff] at fits
                  split at fits
                  · next unbranched =>
                      refine ⟨restLast_of_checkRests fits, apart_byte ?_⟩
                      intro qs w member
                      rw [unbranched] at member
                      cases member
                  · next branched =>
                      have room : (Piece.byte c :: more).length ≤ fuel := enough
                      have named := Bundle.label_branch_ne_nil branched
                      obtain ⟨last, under⟩ :=
                        ih (orderly.branch c) (.inr ⟨named, room, List.cons_ne_nil _ _⟩) fits
                      exact ⟨last, apart_byte under⟩
              | segment name =>
                  refine followSegment_apart orderly (fun accepted => ?_) fits
                  exact ih orderly.segments.deeper (.inl enough) accepted
              | rest name =>
                  simp only [Bool.not_eq_true', List.isEmpty_eq_false_iff] at fits
                  split at fits
                  · cases fits
                  · next segmentless =>
                      split at fits
                      · cases fits
                      · next restless =>
                          refine ⟨restLast_of_checkRests fits, apart_rest ?_ ?_⟩
                          · exact fun other qs w member => segmentless
                              (List.ne_nil_of_mem (Bundle.mem_segments_iff.mpr ⟨other, member⟩))
                          · exact fun other qs w member => restless (mem_rests orderly member)

/-- A pattern that can stand beside others parts from all of them. -/
theorem apart_of_check {others : List (List Piece)} {ps : List Piece}
    (h : Bundle.Orderly (others.map fun p => (p, p))) (fits : check others ps = .ok ()) :
    RestLast ps ∧ ∀ qs ∈ others, Apart ps qs := by
  obtain ⟨last, all⟩ := follow_apart h (.inl (Nat.lt_succ_self _)) fits
  refine ⟨last, ?_⟩
  intro qs member
  exact all qs qs (List.mem_map.mpr ⟨qs, member, rfl⟩)

end Clash

/-! ## Routers -/

/-- Patterns that are in order one by one and part from each other are in order together. -/
theorem Bundle.orderly_map {α β : Type} {xs : List β} {p : β → List Piece} (v : β → α)
    (regular : ∀ x ∈ xs, Piece.Regular (p x)) (last : ∀ x ∈ xs, Piece.RestLast (p x))
    (apart : xs.Pairwise fun x y => Piece.Apart (p x) (p y)) :
    Orderly (xs.map fun x => (p x, v x)) where
  apart := by
    intro e he f hf
    obtain ⟨x, hx, rfl⟩ := List.mem_map.mp he
    obtain ⟨y, hy, rfl⟩ := List.mem_map.mp hf
    by_cases same : x = y
    · exact .inl (by rw [same])
    · have : Std.Symm fun x y => Piece.Apart (p x) (p y) := ⟨fun _ _ h => h.symm⟩
      exact .inr (apart.forall hx hy same)
  regular := List.forall_mem_map.mpr regular
  last := List.forall_mem_map.mpr last

namespace Router

/-- The patterns that were read from the paths part from each other. -/
structure Coherent (shape : List (String × List Piece)) : Prop where
  read : ∀ e ∈ shape, Piece.read e.1.toList = .ok e.2
  last : ∀ e ∈ shape, Piece.RestLast e.2
  apart : shape.Pairwise fun e f => Piece.Apart e.2 f.2

theorem Coherent.orderly {shape : List (String × List Piece)} (h : Coherent shape) {α : Type}
    (v : String × List Piece → α) : Bundle.Orderly (shape.map fun e => (e.2, v e)) :=
  Bundle.orderly_map v (fun e he => (Piece.read_regular (h.read e he)).1) h.last h.apart

theorem Built.coherent {r : Router} (built : r.Built) : Coherent r.shape := by
  refine built.shape_induction ⟨by simp, by simp, .nil⟩ ?_
  intro shape path pattern own read fits
  have orderly : Bundle.Orderly ((shape.map Prod.snd).map fun p => (p, p)) := by
    rw [List.map_map]
    exact own.orderly Prod.snd
  obtain ⟨last, apart⟩ := Clash.apart_of_check orderly fits
  refine ⟨?_, ?_, ?_⟩
  · exact List.forall_mem_append.mpr ⟨own.read, List.forall_mem_singleton.mpr read⟩
  · exact List.forall_mem_append.mpr ⟨own.last, List.forall_mem_singleton.mpr last⟩
  · refine List.pairwise_append.mpr ⟨own.apart, List.pairwise_singleton _ _, ?_⟩
    intro e he f hf
    rw [List.mem_singleton] at hf
    subst hf
    exact (apart e.2 (List.mem_map_of_mem he)).symm

/-- Every route is found at its own path. -/
theorem Built.find?_own {r : Router} (built : r.Built) {route : Route}
    (member : route ∈ r.routes) : ∃ captures, r.find? route.path = some (route, captures) := by
  obtain ⟨read, last, apart⟩ := built.coherent
  rw [shape, List.pairwise_map] at apart
  have orderly : r.bundle.Orderly := by
    refine Bundle.orderly_map id ?_ ?_ apart
    · intro other there
      exact (Piece.read_regular (read _ (List.mem_map_of_mem there))).1
    · intro other there
      exact last _ (List.mem_map_of_mem there)
  have text : Clash.whole route.pattern = Text.bytes route.path :=
    (Piece.read_regular (read _ (List.mem_map_of_mem member))).2
  have own : (route.pattern, route) ∈ r.bundle := List.mem_map_of_mem member
  obtain ⟨taken, found⟩ := Bundle.search_own orderly own (.inl (Nat.lt_succ_self _))
  rw [text] at found
  have hit : r.bundle.find? (Text.bytes route.path) = some (route, taken) := by
    rw [Bundle.find?, found]
    rfl
  exact ⟨_, congrArg (Option.map _) hit⟩

/-- A path has one route at most. -/
theorem Built.route_eq {r : Router} (built : r.Built) {route other : Route}
    (here : route ∈ r.routes) (there : other ∈ r.routes) (same : other.path = route.path) :
    other = route := by
  obtain ⟨captures, found⟩ := built.find?_own here
  obtain ⟨others, again⟩ := built.find?_own there
  rw [same, found] at again
  cases again
  rfl

end Router

end TrafficMeter.Routing
