import TrafficMeter.Proofs.Routing.OwnPaths

/-!
# One more path among the patterns

A pattern without captures is put behind those that there are. Every other path still finds what it
found, with one exception: where a final slash makes the difference between what is left of the path
and the new pattern, the search may stop before it has tried the captures.

Main statement: `find?_concat`, what a path finds after one more path was added.
-/

namespace TrafficMeter.Routing

/-- Some beginning of the first row with a slash is the second, or the second with a slash is the
first. -/
def SlashOff (bs path : List UInt8) : Prop :=
  path ++ [slash] = bs ∨ ∃ start, start <+: bs ∧ path = start ++ [slash]

/-- Rows that are off by a slash are so with the same bytes in front. -/
theorem SlashOff.append {bs path : List UInt8} (h : SlashOff bs path) (as : List UInt8) :
    SlashOff (as ++ bs) (as ++ path) := by
  rcases h with rfl | ⟨start, begins, rfl⟩
  · exact .inl (List.append_assoc ..)
  · exact .inr ⟨as ++ start, (List.prefix_append_right_inj as).mpr begins,
      (List.append_assoc ..).symm⟩

namespace Bundle

variable {α : Type}

/-! ## The parts of a longer bundle -/

/-- What two rows begin with, and where they part. -/
theorem exists_common (as bs : List UInt8) : ∃ restA restB, as = common as bs ++ restA ∧
    bs = common as bs ++ restB ∧ ∀ c, restA.head? = some c → restB.head? ≠ some c := by
  fun_induction common as bs with
  | case1 a as bs ih =>
      obtain ⟨restA, restB, first, second, part⟩ := ih
      refine ⟨restA, restB, ?_, ?_, part⟩
      · rw [List.cons_append, ← first]
      · rw [List.cons_append, ← second]
  | case2 a as b bs other =>
      refine ⟨a :: as, b :: bs, rfl, rfl, ?_⟩
      rintro c ⟨⟩ same
      exact other (Option.some.inj same).symm
  | case3 as bs none =>
      refine ⟨as, bs, rfl, rfl, ?_⟩
      intro c first second
      cases as with
      | nil => cases first
      | cons a as =>
          cases bs with
          | nil => cases second
          | cons b bs => exact none a as b bs rfl rfl

/-- One more pattern shortens the label to what the pattern has of it. -/
theorem label_concat {b : Bundle α} (some : b ≠ []) (ps : List Piece) (v : α) :
    (b ++ [(ps, v)]).label = common b.label (lead ps) := by
  have within : (b ++ [(ps, v)]).label <+: common b.label (lead ps) := by
    refine prefix_common (prefix_label some fun qs w member => ?_) ?_
    · exact label_begins (List.mem_append_left _ member)
    · exact label_begins (List.mem_append_right _ (List.mem_singleton.mpr rfl))
  have around : common b.label (lead ps) <+: (b ++ [(ps, v)]).label := by
    refine prefix_label (List.append_ne_nil_of_left_ne_nil some _) ?_
    intro qs w member
    rcases List.mem_append.mp member with old | new
    · exact (common_prefix_left ..).trans (label_begins old)
    · cases List.mem_singleton.mp new
      exact common_prefix_right ..
  exact within.eq_of_length_le around.length_le

theorem after_concat (n : Nat) (b : Bundle α) (bs : List UInt8) (v : α) :
    (b ++ [(Piece.plain bs, v)]).after n = b.after n ++ [(Piece.plain (bs.drop n), v)] := by
  simp [after, Piece.drop_plain]

theorem branch_concat (c : UInt8) (b : Bundle α) (bs : List UInt8) (v : α) :
    (b ++ [(Piece.plain bs, v)]).branch c =
      b.branch c ++ if bs.head? = some c then [(Piece.plain bs, v)] else [] := by
  cases bs with
  | nil => simp [branch, Piece.plain]
  | cons d bs => by_cases same : d = c <;> simp [branch, Piece.plain, same]

theorem ended?_concat (b : Bundle α) (bs : List UInt8) (v : α) :
    (b ++ [(Piece.plain bs, v)]).ended? = b.ended?.or (if bs = [] then some v else none) := by
  rw [ended?, ended?, List.find?_append, Option.map_or]
  cases bs <;> rfl

/-- A pattern that only ends here or goes on with a byte is none of those that are captured. -/
theorem capture_concat (go : Bundle α → List UInt8 → Outcome α) (b : Bundle α) (bs : List UInt8)
    (v : α) (path : List UInt8) :
    capture go (b ++ [(Piece.plain bs, v)]) path = capture go b path := by
  have segments : (b ++ [(Piece.plain bs, v)]).segments = b.segments := by
    cases bs <;> simp [Bundle.segments, Piece.plain]
  have rests : (b ++ [(Piece.plain bs, v)]).rests = b.rests := by
    cases bs <;> simp [Bundle.rests, Piece.plain]
  rw [capture, capture, segments, rests]

/-- Where all patterns go on with bytes, nothing is captured. -/
theorem capture_of_label {b : Bundle α} (named : b.label ≠ [])
    (go : Bundle α → List UInt8 → Outcome α) (path : List UInt8) :
    capture go b path = .failure path := by
  have bytes : ∀ e ∈ b, ∃ c ps, e.1 = .byte c :: ps := by
    rintro ⟨ps, v⟩ member
    have begins := label_begins member
    match ps with
    | .byte c :: ps => exact ⟨c, ps, rfl⟩
    | [] | .segment _ :: _ | .rest _ :: _ => exact absurd (List.prefix_nil.mp begins) named
  have segments : b.segments = [] := by
    refine List.filterMap_eq_nil_iff.mpr ?_
    rintro ⟨ps, v⟩ member
    obtain ⟨c, more, rfl⟩ := bytes _ member
    rfl
  have rests : b.rests = [] := by
    refine List.filter_eq_nil_iff.mpr ?_
    rintro ⟨ps, v⟩ member
    obtain ⟨c, more, rfl⟩ := bytes _ member
    simp
  rw [capture, segments, rests]
  rfl

/-- A slash is all that is left of some pattern and begins all others. -/
theorem endsInSlash_iff {b : Bundle α} (named : b.label ≠ []) :
    b.endsInSlash = true ↔ ∃ v, ([.byte slash], v) ∈ b := by
  rw [endsInSlash, Bool.and_eq_true, beq_iff_eq, Option.isSome_iff_exists]
  constructor
  · rintro ⟨slashed, v, ended⟩
    obtain ⟨ps, member, left⟩ := mem_after.mp (mem_of_ended? ended)
    have begins := label_begins member
    rw [slashed] at begins
    match ps with
    | .byte c :: more =>
        cases (show more = [] from left)
        obtain ⟨rfl, -⟩ := List.cons_prefix_cons.mp begins
        exact ⟨v, member⟩
    | [] | .segment _ :: _ | .rest _ :: _ => exact absurd (List.prefix_nil.mp begins) (by simp)
  · rintro ⟨v, member⟩
    have begins : b.label <+: [slash] := label_begins member
    refine ⟨begins.eq_of_length_le (List.length_pos_iff.mpr named), ?_⟩
    exact exists_ended? (mem_after.mpr ⟨_, member, rfl⟩)

theorem endsInSlash_branch_iff {b : Bundle α} :
    (b.branch slash).endsInSlash = true ↔ ∃ v, ([.byte slash], v) ∈ b := by
  have inside : ∀ v, ([.byte slash], v) ∈ b.branch slash ↔ ([.byte slash], v) ∈ b := by
    intro v
    simp [branch]
  by_cases none : b.branch slash = []
  · simp only [← inside, none, List.not_mem_nil, exists_false, iff_false]
    exact Bool.false_ne_true
  · rw [endsInSlash_iff (label_branch_ne_nil none)]
    exact exists_congr inside

/-- All patterns go on with the byte that the label begins with. -/
theorem branch_of_label {b : Bundle α} {d : UInt8} {left : List UInt8} (h : b.label = d :: left)
    (c : UInt8) : b.branch c = if c = d then b else [] := by
  have starts : ∀ e ∈ b, e.1.head? = some (.byte d) := by
    rintro ⟨ps, v⟩ member
    have begins := label_begins member
    rw [h] at begins
    match ps with
    | .byte p :: ps =>
        obtain ⟨rfl, -⟩ := List.cons_prefix_cons.mp begins
        rfl
    | [] | .segment _ :: _ | .rest _ :: _ => exact absurd (List.prefix_nil.mp begins) (by simp)
  split
  · next same =>
      refine List.filter_eq_self.mpr fun e member => ?_
      rw [starts e member, same, beq_self_eq_true]
  · next other =>
      refine List.filter_eq_nil_iff.mpr fun e member => ?_
      rw [starts e member]
      simpa using Ne.symm other

/-- Where all patterns go on, none ends. -/
theorem ended?_of_label {b : Bundle α} (named : b.label ≠ []) : b.ended? = none := by
  rw [Option.eq_none_iff_forall_not_mem]
  intro v ended
  exact named (List.prefix_nil.mp (label_begins (mem_of_ended? ended)))

/-! ## One step of a search -/

/-- One step of a search that goes on with `go`. -/
def advance (go : Bundle α → List UInt8 → Outcome α) (b : Bundle α) (path : List UInt8) :
    Outcome α :=
  let node := b.after b.label.length
  match strip? b.label path, node.ended? with
  | none, ended => if b.label = path ++ [slash] && ended.isSome then .stop else .failure path
  | some [], some v => .found v []
  | some [], none => if (node.branch slash).endsInSlash then .stop else .failure path
  | some (c :: rest), ended =>
      let next := node.branch c
      if next.isEmpty then capture go node (c :: rest)
      else if c :: rest = [slash] && next.label != [slash] && ended.isSome then .stop
      else (go next (c :: rest)).orElse (capture go node (c :: rest))

/-- How a search goes on where a byte and more of the path are left. -/
def onward (go : Bundle α → List UInt8 → Outcome α) (node : Bundle α) (c : UInt8)
    (rest : List UInt8) : Outcome α :=
  if (node.branch c).isEmpty then capture go node (c :: rest)
  else if c :: rest = [slash] ∧ (node.branch c).label ≠ [slash] ∧ node.ended?.isSome = true
  then .stop else (go (node.branch c) (c :: rest)).orElse (capture go node (c :: rest))

theorem search_eq (fuel : Nat) (b : Bundle α) (path : List UInt8) :
    search (fuel + 1) b path = advance (search fuel) b path := rfl

/-- There is fuel for a path. -/
def Enough (fuel : Nat) (b : Bundle α) (path : List UInt8) : Prop :=
  path.length + 1 < fuel ∨ b.label ≠ [] ∧ path.length < fuel

theorem length_of_strip? {as path more : List UInt8} (h : strip? as path = some more) :
    path.length = as.length + more.length := by
  rw [strip?_eq_some h, List.length_append]

/-- What is left of a path behind the label has fuel for it. -/
theorem Enough.step {fuel : Nat} {b : Bundle α} {path more : List UInt8}
    (room : Enough (fuel + 1) b path) (stripped : strip? b.label path = some more) :
    more.length < fuel := by
  have total := length_of_strip? stripped
  rcases room with room | ⟨named, room⟩
  · omega
  · have := List.length_pos_iff.mpr named
    omega

/-- Two searches go on alike behind captures if they do for paths that are no longer. -/
theorem capture_congr {go other : Bundle α → List UInt8 → Outcome α} {b : Bundle α}
    {path : List UInt8}
    (same : ∀ more : List UInt8, more.length ≤ path.length →
      go b.segments.deeper more = other b.segments.deeper more) :
    capture go b path = capture other b path := by
  have shorter := (List.dropWhile_suffix (l := path) (· != slash)).length_le
  unfold capture
  simp only
  generalize path.dropWhile (· != slash) = more at shorter ⊢
  cases more with
  | nil => cases b.segments.ended? <;> rfl
  | cons c more => simp only [same (c :: more) shorter]

theorem advance_nil (go : Bundle α → List UInt8 → Outcome α) (path : List UInt8) :
    advance go [] path = .failure path := by
  cases path <;> rfl

/-- More fuel than enough finds nothing else. -/
theorem search_succ {fuel : Nat} {b : Bundle α} (h : b.Orderly) {path : List UInt8}
    (room : Enough fuel b path) : search (fuel + 1) b path = search fuel b path := by
  induction fuel generalizing b path with
  | zero =>
      rcases room with room | ⟨-, room⟩
      · omega
      · omega
  | succ fuel ih =>
      have orderly := h.after_label
      rw [search_eq, search_eq, advance, advance]
      simp only
      cases stripped : strip? b.label path with
      | none => rfl
      | some more =>
          cases more with
          | nil => cases (b.after b.label.length).ended? <;> rfl
          | cons c rest =>
              have left := room.step stripped
              generalize b.after b.label.length = node at *
              have captured : capture (search (fuel + 1)) node (c :: rest) =
                  capture (search fuel) node (c :: rest) := by
                refine capture_congr fun more shorter => ?_
                by_cases none : node.segments.deeper = []
                · obtain ⟨less, rfl⟩ : ∃ less, fuel = less + 1 :=
                    ⟨fuel - 1, by rw [List.length_cons] at left; omega⟩
                  rw [none, search_eq, search_eq, advance_nil, advance_nil]
                · refine ih orderly.segments.deeper (.inr ⟨?_, by omega⟩)
                  exact orderly.label_segments_ne_nil none
              simp only [captured]
              by_cases none : node.branch c = []
              · simp only [none, List.isEmpty_nil, if_true]
              · have same := ih (orderly.branch c) (.inr ⟨label_branch_ne_nil none, left⟩)
                rw [same]

/-! ## Patterns that share a beginning -/

theorem lead_drop {as : List UInt8} {ps : List Piece} (h : as <+: lead ps) :
    lead ps = as ++ lead (ps.drop as.length) := by
  induction as generalizing ps with
  | nil => rfl
  | cons a as ih =>
      match ps with
      | .byte p :: ps =>
          simp only [lead, List.cons_prefix_cons] at h
          rw [h.1]
          exact congrArg (p :: ·) (ih h.2)
      | [] | .segment _ :: _ | .rest _ :: _ => simp [lead] at h

theorem after_after (b : Bundle α) (m n : Nat) : (b.after m).after n = b.after (m + n) := by
  simp [after, List.drop_drop]

/-- Behind a beginning that all patterns share they have the rest of the label. -/
theorem label_after {b : Bundle α} {as left : List UInt8} (h : b.label = as ++ left) :
    (b.after as.length).label = left := by
  by_cases none : b = []
  · subst none
    exact (List.append_eq_nil_iff.mp h.symm).2.symm
  have shared : ∀ {ps v}, (ps, v) ∈ b → as <+: lead ps := by
    intro ps v member
    exact List.IsPrefix.trans ⟨left, h.symm⟩ (label_begins member)
  have within : as ++ (b.after as.length).label <+: as ++ left := by
    rw [← h]
    refine prefix_label none fun ps v member => ?_
    rw [lead_drop (shared member)]
    exact (List.prefix_append_right_inj as).mpr (label_begins (mem_after.mpr ⟨ps, member, rfl⟩))
  have around : left <+: (b.after as.length).label := by
    refine prefix_label (by simpa [after] using none) fun qs v member => ?_
    obtain ⟨ps, inside, rfl⟩ := mem_after.mp member
    have begins := label_begins inside
    rw [h, lead_drop (shared inside)] at begins
    exact (List.prefix_append_right_inj as).mp begins
  exact ((List.prefix_append_right_inj as).mp within).eq_of_length_le around.length_le

theorem strip?_append_append (as bs path : List UInt8) :
    strip? (as ++ bs) (as ++ path) = strip? bs path := by
  induction as with
  | nil => rfl
  | cons a as ih => simpa [strip?] using ih

/-- A longer path fails like a shorter one, unless the shorter one is only a slash. -/
theorem failure_append (as : List UInt8) {path : List UInt8} (some : path ≠ []) :
    (Outcome.failure path : Outcome α) = .failure (as ++ path) ∨
      path = [slash] ∧ (Outcome.failure path : Outcome α) = .stop := by
  by_cases slashed : path = [slash]
  · exact .inr ⟨slashed, if_pos slashed⟩
  · refine .inl ?_
    rw [Outcome.failure, Outcome.failure, if_neg slashed, if_neg]
    intro whole
    cases as with
    | nil => exact slashed whole
    | cons a as =>
        obtain ⟨-, none⟩ := List.cons.inj whole
        exact some (List.append_eq_nil_iff.mp none).2

/-- A beginning that all patterns share can be passed first. Only a slash that is left after it is
looked for in vain with no other try. -/
theorem advance_after {b : Bundle α} {as left : List UInt8} (begins : b.label = as ++ left)
    (go : Bundle α → List UInt8 → Outcome α) {path : List UInt8} (some : path ≠ []) :
    advance go (b.after as.length) path = advance go b (as ++ path) ∨
      path = [slash] ∧ advance go (b.after as.length) path = .stop := by
  have node : (b.after as.length).after left.length = b.after (as ++ left).length := by
    rw [after_after, List.length_append]
  rw [advance, advance, label_after begins, begins, strip?_append_append, node]
  simp only [List.append_assoc, List.append_cancel_left_eq]
  generalize b.after (as ++ left).length = node
  cases stripped : strip? left path with
  | none =>
      simp only
      split
      · exact .inl rfl
      · exact failure_append as some
  | some more =>
      cases more with
      | cons c rest => exact .inl rfl
      | nil =>
          cases ended : node.ended? with
          | some v => exact .inl rfl
          | none =>
              simp only
              split
              · exact .inl rfl
              · exact failure_append as some

section

variable {go : Bundle α → List UInt8 → Outcome α} {b node : Bundle α} {as path : List UInt8}

theorem advance_of_none (label : b.label = as) (here : b.after as.length = node)
    (h : strip? as path = none) :
    advance go b path =
      if as = path ++ [slash] ∧ node.ended?.isSome = true then .stop else .failure path := by
  rw [advance, label, here]
  simp only [h, Bool.and_eq_true, decide_eq_true_eq]

theorem advance_of_nil (label : b.label = as) (here : b.after as.length = node)
    (h : strip? as path = some []) :
    advance go b path = match node.ended? with
      | some v => .found v []
      | none => if (node.branch slash).endsInSlash then .stop else .failure path := by
  rw [advance, label, here]
  simp only [h]
  cases node.ended? <;> rfl

theorem advance_of_cons (label : b.label = as) (here : b.after as.length = node) {c : UInt8}
    {rest : List UInt8} (h : strip? as path = some (c :: rest)) :
    advance go b path = onward go node c rest := by
  rw [advance, label, here, onward]
  simp only [h, Bool.and_eq_true, decide_eq_true_eq, bne_iff_ne, and_assoc]

/-- If a slash is left and no pattern ends with it, the search stops. -/
theorem advance_slash (starts : [slash] <+: b.label) (none : ∀ v, ([.byte slash], v) ∉ b) :
    advance go b [slash] = .stop := by
  obtain ⟨left, label⟩ := starts
  have named : b.label ≠ [] := by simp [← label]
  cases left with
  | nil =>
      have unended : (b.after [slash].length).ended? = Option.none := by
        have off : ¬ b.endsInSlash = true := fun ends =>
          ((endsInSlash_iff named).mp ends).elim none
        rw [endsInSlash, ← label] at off
        simpa using off
      rw [advance_of_nil label.symm rfl rfl, List.append_nil, unended]
      simp only [Outcome.failure, if_true, ite_self]
  | cons d left =>
      rw [advance_of_none label.symm rfl rfl]
      simp only [Outcome.failure, if_true, ite_self]

end

/-! ## One more pattern -/

/-- A path finds nothing where there is only another path. -/
theorem advance_alone {bs path : List UInt8} (other : path ≠ bs) (v : α)
    (go : Bundle α → List UInt8 → Outcome α) :
    advance go [(Piece.plain bs, v)] path = .failure path ∨
      advance go [(Piece.plain bs, v)] path = .stop ∧ SlashOff bs path := by
  have label : Bundle.label [(Piece.plain bs, v)] = bs := lead_plain bs
  have node : Bundle.after bs.length [(Piece.plain bs, v)] = [([], v)] := by
    simp [after, Piece.plain]
  cases stripped : strip? bs path with
  | none =>
      rw [advance_of_none label node stripped]
      split
      · next off => exact .inr ⟨rfl, .inl off.1.symm⟩
      · exact .inl rfl
  | some more =>
      have whole := strip?_eq_some stripped
      cases more with
      | nil => exact absurd (whole.trans (List.append_nil bs)) other
      | cons c rest =>
          have captured : onward go [([], v)] c rest = .failure (c :: rest) := rfl
          rw [advance_of_cons label node stripped, captured, whole]
          rcases failure_append bs (List.cons_ne_nil c rest) with same | ⟨slashed, stop⟩
          · exact .inl same
          · exact .inr ⟨stop, .inr ⟨bs, List.prefix_refl bs, by rw [slashed]⟩⟩

/-- What a path finds is not changed by one more path, or is not looked for to the end because of
a slash. -/
def Unaltered (bs path : List UInt8) (after before : Outcome α) : Prop :=
  after = before ∨ after = .stop ∧ SlashOff bs path

variable {b : Bundle α}

theorem strip?_self (as : List UInt8) : strip? as as = some [] := by
  have h := strip?_append as []
  rwa [List.append_nil] at h

theorem strip?_append_of_none {as path : List UInt8} (h : strip? as path = none)
    (bs : List UInt8) : strip? (as ++ bs) path = none := by
  cases longer : strip? (as ++ bs) path with
  | none => rfl
  | some more =>
      have whole := strip?_eq_some longer
      rw [whole, List.append_assoc, strip?_append] at h
      cases h

/-- What is tried in vain after a search is not tried if that was stopped. -/
theorem orElse_failure (o : Outcome α) (path : List UInt8) :
    o.orElse (.failure path) = o ∨ path = [slash] ∧ o.orElse (.failure path) = .stop := by
  by_cases slashed : path = [slash]
  · cases o with
    | found v captures => exact .inl rfl
    | stop => exact .inl rfl
    | retry => exact .inr ⟨slashed, if_pos slashed⟩
  · have failed : (Outcome.failure path : Outcome α) = .retry := if_neg slashed
    rw [failed]
    cases o <;> exact .inl rfl

theorem failure_orElse_failure (path : List UInt8) :
    (Outcome.failure path : Outcome α).orElse (.failure path) = .failure path := by
  unfold Outcome.failure
  split <;> rfl

/-- Behind a part of the label a pattern can end in a slash only where the label does. -/
theorem slash_left_iff {as left : List UInt8} {d : UInt8} (label : b.label = as ++ d :: left) :
    b.label = as ++ [slash] ∧ (b.after b.label.length).ended?.isSome = true ↔
      ∃ v, ([.byte slash], v) ∈ b.after as.length := by
  have inner : (b.after as.length).label = d :: left := label_after label
  have node : (b.after as.length).after [slash].length = b.after (as ++ [slash]).length := by
    rw [after_after, List.length_append]
  rw [← endsInSlash_iff (by simp [inner]), endsInSlash, inner, label, Bool.and_eq_true,
    beq_iff_eq, List.append_cancel_left_eq]
  refine and_congr_right fun slashed => ?_
  rw [slashed, ← node]
  rfl

/-! ### A new path that parts from the others within their label -/

section Parting

variable {as left restB : List UInt8} {d : UInt8} {v : α} (label : b.label = as ++ d :: left)
  (longer : (b ++ [(Piece.plain (as ++ restB), v)]).label = as)

theorem slashOff_part {rest : List UInt8} (slashed : rest = [slash]) :
    SlashOff (as ++ restB) (as ++ rest) :=
  .inr ⟨as, List.prefix_append .., by rw [slashed]⟩

theorem after_part :
    (b ++ [(Piece.plain (as ++ restB), v)]).after as.length =
      b.after as.length ++ [(Piece.plain restB, v)] := by
  rw [after_concat, List.drop_left]

include label

/-- No pattern ends where the new path parts from them. -/
theorem ended?_part :
    (b.after as.length ++ [(Piece.plain restB, v)]).ended? =
      if restB = [] then some v else none := by
  have inner : (b.after as.length).label = d :: left := label_after label
  rw [ended?_concat, ended?_of_label (by simp [inner]), Option.none_or]

/-- What goes on with a byte from there. -/
theorem branch_part (c : UInt8) :
    (b.after as.length ++ [(Piece.plain restB, v)]).branch c =
      (if c = d then b.after as.length else []) ++
        if restB.head? = some c then [(Piece.plain restB, v)] else [] := by
  have inner : (b.after as.length).label = d :: left := label_after label
  rw [branch_concat, branch_of_label inner]

include longer

/-- The path leaves the label before the new path does. -/
theorem part_before {path : List UInt8} (stripped : strip? as path = none)
    (go : Bundle α → List UInt8 → Outcome α) :
    Unaltered (as ++ restB) path (advance go (b ++ [(Piece.plain (as ++ restB), v)]) path)
      (advance go b path) := by
  have short : as ++ d :: left ≠ path ++ [slash] := by
    intro same
    rcases List.prefix_concat_iff.mp ⟨_, same⟩ with whole | ⟨more, inside⟩
    · rw [whole] at same
      exact List.cons_ne_nil d left (List.append_right_eq_self.mp same)
    · rw [← inside, strip?_append] at stripped
      cases stripped
  have before : advance go b path = .failure path := by
    rw [advance_of_none label rfl (strip?_append_of_none stripped _),
      if_neg fun off => short off.1]
  rw [before, advance_of_none longer after_part stripped]
  split
  · next off =>
      have none : restB = [] := by
        by_contra some
        rw [ended?_part label, if_neg some] at off
        cases off.2
      refine .inr ⟨rfl, .inl ?_⟩
      rw [none, List.append_nil, off.1]
  · exact .inl rfl

/-- The path ends where the new path parts from the others. -/
theorem part_at (some : restB ≠ []) (go : Bundle α → List UInt8 → Outcome α) :
    Unaltered (as ++ restB) as (advance go (b ++ [(Piece.plain (as ++ restB), v)]) as)
      (advance go b as) := by
  have stripped := strip?_self as
  have unstripped : strip? (as ++ d :: left) as = none := by
    have h := strip?_append_append as (d :: left) []
    rwa [List.append_nil] at h
  have slashed := slash_left_iff label
  rw [label] at slashed
  have now : advance go (b ++ [(Piece.plain (as ++ restB), v)]) as =
      if ((b.after as.length ++ [(Piece.plain restB, v)]).branch slash).endsInSlash
        then .stop else .failure as := by
    rw [advance_of_nil longer after_part stripped, ended?_part label, if_neg some]
  rw [advance_of_none label rfl unstripped, now]
  by_cases old : ∃ u, ([.byte slash], u) ∈ b.after as.length
  · obtain ⟨u, member⟩ := old
    rw [if_pos (slashed.mpr ⟨u, member⟩),
      if_pos (endsInSlash_branch_iff.mpr ⟨u, List.mem_append_left _ member⟩)]
    exact .inl rfl
  · rw [if_neg fun off => old (slashed.mp off)]
    split
    · next new =>
        obtain ⟨u, member⟩ := endsInSlash_branch_iff.mp new
        rcases List.mem_append.mp member with inside | own
        · exact absurd ⟨u, inside⟩ old
        · have single : Piece.plain [slash] = Piece.plain restB :=
            congrArg Prod.fst (List.mem_singleton.mp own)
          exact .inr ⟨rfl, .inl (by rw [Piece.plain_injective single])⟩
    · exact .inl rfl

/-- Where the path goes on from there, no capture begins. -/
theorem part_onward (go : Bundle α → List UInt8 → Outcome α) {c : UInt8} {next : Bundle α}
    (goes : (b.after as.length ++ [(Piece.plain restB, v)]).branch c = next) (rest : List UInt8) :
    advance go (b ++ [(Piece.plain (as ++ restB), v)]) (as ++ c :: rest) =
      if next.isEmpty then .failure (c :: rest)
      else if c :: rest = [slash] ∧ next.label ≠ [slash] ∧
        (b.after as.length ++ [(Piece.plain restB, v)]).ended?.isSome = true then .stop
      else (go next (c :: rest)).orElse (.failure (c :: rest)) := by
  have inner : (b.after as.length).label = d :: left := label_after label
  rw [advance_of_cons longer after_part (strip?_append ..), onward, capture_concat,
    capture_of_label (by simp [inner]), goes]

/-- The path goes on with the others. -/
theorem part_with {fuel : Nat} (h : b.Orderly) (part : restB.head? ≠ some d) {rest : List UInt8}
    (shorter : (d :: rest).length < fuel) :
    Unaltered (as ++ restB) (as ++ d :: rest)
      (advance (search fuel) (b ++ [(Piece.plain (as ++ restB), v)]) (as ++ d :: rest))
      (advance (search fuel) b (as ++ d :: rest)) := by
  have inner : (b.after as.length).label = d :: left := label_after label
  have named : (b.after as.length).label ≠ [] := by simp [inner]
  have some : b.after as.length ≠ [] := fun none => named (by rw [none]; rfl)
  have goes : (b.after as.length ++ [(Piece.plain restB, v)]).branch d = b.after as.length := by
    rw [branch_part label, if_pos rfl, if_neg part, List.append_nil]
  rw [part_onward label longer _ goes, if_neg (by simpa using some),
    ← search_succ (h.after_beginning ⟨_, label.symm⟩) (.inr ⟨named, shorter⟩), search_eq]
  split
  · next stop => exact .inr ⟨rfl, slashOff_part stop.1⟩
  · rcases advance_after label (search fuel) (List.cons_ne_nil d rest) with
      passed | ⟨slashed, stop⟩
    · rw [passed]
      exact (orElse_failure _ _).imp_right fun stop => ⟨stop.2, slashOff_part stop.1⟩
    · rw [stop]
      exact .inr ⟨rfl, slashOff_part slashed⟩

/-- The path parts from the others there, too. -/
theorem part_beside {fuel : Nat} {c : UInt8} (beside : c ≠ d) {rest : List UInt8}
    (other : as ++ c :: rest ≠ as ++ restB) (shorter : (c :: rest).length < fuel) :
    Unaltered (as ++ restB) (as ++ c :: rest)
      (advance (search fuel) (b ++ [(Piece.plain (as ++ restB), v)]) (as ++ c :: rest))
      (advance (search fuel) b (as ++ c :: rest)) := by
  have before : advance (search fuel) b (as ++ c :: rest) = .failure (as ++ c :: rest) := by
    have unstripped : strip? (as ++ d :: left) (as ++ c :: rest) = none := by
      rw [strip?_append_append, strip?, if_neg (Ne.symm beside)]
    rw [advance_of_none label rfl unstripped, if_neg]
    rintro ⟨longer, -⟩
    rw [List.append_assoc, List.append_cancel_left_eq, List.cons_append] at longer
    exact beside (List.cons.inj longer).1.symm
  have failed : Unaltered (as ++ restB) (as ++ c :: rest)
      (Outcome.failure (c :: rest) : Outcome α) (.failure (as ++ c :: rest)) :=
    (failure_append as (List.cons_ne_nil c rest)).imp_right fun stop =>
      ⟨stop.2, slashOff_part stop.1⟩
  rw [before, part_onward label longer _ (branch_part label c), if_neg beside, List.nil_append]
  split
  · next starts =>
      obtain ⟨more, rfl⟩ := List.head?_eq_some_iff.mp starts
      obtain ⟨less, rfl⟩ : ∃ less, fuel = less + 1 :=
        ⟨fuel - 1, by rw [List.length_cons] at shorter; omega⟩
      have apart : c :: rest ≠ c :: more := fun equal => other (by rw [equal])
      rw [ended?_part label, if_neg (List.cons_ne_nil c more), if_neg (by simp),
        if_neg (by simp), search_eq]
      rcases advance_alone apart v (search less) with alone | ⟨stop, away⟩
      · rw [alone, failure_orElse_failure]
        exact failed
      · rw [stop]
        exact .inr ⟨rfl, away.append as⟩
  · exact failed

end Parting

/-- A new path that parts from the others within their label makes a node of its own. -/
theorem search_split {fuel : Nat} (h : b.Orderly) {as left restB : List UInt8} {d : UInt8}
    (label : b.label = as ++ d :: left) (part : restB.head? ≠ some d) {path : List UInt8} (v : α)
    (longer : (b ++ [(Piece.plain (as ++ restB), v)]).label = as) (other : path ≠ as ++ restB)
    (room : Enough (fuel + 1) (b ++ [(Piece.plain (as ++ restB), v)]) path) :
    Unaltered (as ++ restB) path (search (fuel + 1) (b ++ [(Piece.plain (as ++ restB), v)]) path)
      (search (fuel + 1) b path) := by
  rw [search_eq, search_eq]
  cases stripped : strip? as path with
  | none => exact part_before label longer stripped _
  | some more =>
      obtain rfl := strip?_eq_some stripped
      cases more with
      | nil =>
          rw [List.append_nil] at other ⊢
          refine part_at label longer ?_ _
          rintro rfl
          exact other (List.append_nil as).symm
      | cons c rest =>
          have shorter := room.step (by rw [longer]; exact stripped)
          by_cases same : c = d
          · subst same
            exact part_with label longer h part shorter
          · exact part_beside label longer same other shorter

theorem Unaltered.append {bs path : List UInt8} {after before : Outcome α}
    (h : Unaltered bs path after before) (as : List UInt8) :
    Unaltered (as ++ bs) (as ++ path) after before :=
  h.imp_right fun stop => ⟨stop.1, stop.2.append as⟩

/-- What is tried in addition does not matter after a stop. -/
theorem Unaltered.orElse {bs path : List UInt8} {after before : Outcome α}
    (h : Unaltered bs path after before) (other : Outcome α) :
    Unaltered bs path (after.orElse other) (before.orElse other) := by
  rcases h with rfl | ⟨rfl, off⟩
  · exact .inl rfl
  · exact .inr ⟨rfl, off⟩

/-- If more than a slash is left, the patterns that go on with the byte are tried, then captures. -/
theorem onward_of_ne {fuel : Nat} (node : Bundle α) {c : UInt8} {rest : List UInt8}
    (more : c :: rest ≠ [slash]) (shorter : (c :: rest).length < fuel) :
    onward (search fuel) node c rest =
      (search fuel (node.branch c) (c :: rest)).orElse
        (capture (search fuel) node (c :: rest)) := by
  rw [onward]
  split
  · next none =>
      obtain ⟨less, rfl⟩ : ∃ less, fuel = less + 1 := ⟨fuel - 1, by omega⟩
      rw [List.isEmpty_iff.mp none, search_eq less, advance_nil, Outcome.failure, if_neg more]
      rfl
  · rw [if_neg fun stop => more stop.1]

/-- If only a slash is left and a pattern ends with it, that pattern is tried. -/
theorem onward_single (go : Bundle α → List UInt8 → Outcome α) {node : Bundle α} {u : α}
    (member : ([.byte slash], u) ∈ node) :
    onward go node slash [] =
      (go (node.branch slash) [slash]).orElse (capture go node [slash]) := by
  have goes : ([.byte slash], u) ∈ node.branch slash := List.mem_filter.mpr ⟨member, rfl⟩
  have some := List.ne_nil_of_mem goes
  have label : (node.branch slash).label = [slash] :=
    label_of_slash_left (label_branch some) goes rfl
  rw [onward, if_neg (by simpa using some), if_neg fun stop => stop.2.1 label]

/-- If only a slash is left, a new path that begins with it and goes on stops the search, unless
another one ends with it. -/
theorem onward_slash {fuel : Nat} {own : Bundle α} {more : List UInt8} (some : more ≠ []) (v : α)
    (alone : ∀ u, ([.byte slash], u) ∉ own) (room : 0 < fuel) :
    onward (search fuel) (own ++ [(Piece.plain (slash :: more), v)]) slash [] = .stop := by
  obtain ⟨less, rfl⟩ : ∃ less, fuel = less + 1 := ⟨fuel - 1, by omega⟩
  have member : (Piece.plain (slash :: more), v) ∈
      (own ++ [(Piece.plain (slash :: more), v)]).branch slash := by
    simp [Bundle.branch, Piece.plain]
  have stop : search (less + 1) ((own ++ [(Piece.plain (slash :: more), v)]).branch slash) [slash] =
      .stop := by
    refine advance_slash (label_branch (List.ne_nil_of_mem member)) fun u single => ?_
    rcases List.mem_append.mp (List.mem_filter.mp single).1 with old | new
    · exact alone u old
    · have row : Piece.plain [slash] = Piece.plain (slash :: more) :=
        congrArg Prod.fst (List.mem_singleton.mp new)
      exact some (List.cons.inj (Piece.plain_injective row)).2.symm
  rw [onward, if_neg (by simpa using List.ne_nil_of_mem member), stop]
  exact ite_self _

/-- Where a byte and more of a path are left, one more path alters no search but by a slash. -/
theorem onward_concat {fuel : Nat} {own : Bundle α} (h : own.Orderly) {restB : List UInt8}
    {c : UInt8} {rest : List UInt8} (v : α) (apart : c :: rest ≠ restB)
    (shorter : (c :: rest).length < fuel)
    (deeper : ∀ {next : Bundle α} {left : List UInt8}, next.Orderly → left ≠ restB →
      Enough fuel (next ++ [(Piece.plain restB, v)]) left →
      Unaltered restB left (search fuel (next ++ [(Piece.plain restB, v)]) left)
        (search fuel next left)) :
    Unaltered restB (c :: rest) (onward (search fuel) (own ++ [(Piece.plain restB, v)]) c rest)
      (onward (search fuel) own c rest) := by
  have tried : restB.head? = some c → Unaltered restB (c :: rest)
      (search fuel ((own ++ [(Piece.plain restB, v)]).branch c) (c :: rest))
      (search fuel (own.branch c) (c :: rest)) := by
    intro starts
    rw [branch_concat, if_pos starts]
    refine deeper (h.branch c) apart (.inr ⟨?_, shorter⟩)
    have wide := label_branch_ne_nil (b := own ++ [(Piece.plain restB, v)]) (c := c)
    rw [branch_concat, if_pos starts] at wide
    exact wide (List.append_ne_nil_of_right_ne_nil _ (List.cons_ne_nil _ _))
  by_cases slashed : c :: rest = [slash]
  · obtain ⟨rfl, rfl⟩ := List.cons.inj slashed
    have off : SlashOff restB [slash] := .inr ⟨[], List.nil_prefix, rfl⟩
    by_cases starts : restB.head? = some slash
    · obtain ⟨more, rfl⟩ := List.head?_eq_some_iff.mp starts
      by_cases old : ∃ u, ([.byte slash], u) ∈ own
      · obtain ⟨u, member⟩ := old
        rw [onward_single _ member, onward_single _ (List.mem_append_left _ member), capture_concat]
        exact (tried starts).orElse _
      · refine .inr ⟨onward_slash (fun none => apart (by rw [none])) v ?_ (by omega), off⟩
        exact fun u member => old ⟨u, member⟩
    · rw [onward, onward, capture_concat, branch_concat, if_neg starts, List.append_nil]
      split
      · exact .inl rfl
      · split
        · exact .inr ⟨rfl, off⟩
        · next going =>
            rw [if_neg fun stop => going ⟨stop.1, stop.2.1, ?_⟩]
            · exact .inl rfl
            · rw [ended?_concat, Option.isSome_or, stop.2.2, Bool.true_or]
  · rw [onward_of_ne _ slashed shorter, onward_of_ne _ slashed shorter, capture_concat]
    by_cases starts : restB.head? = some c
    · exact (tried starts).orElse _
    · rw [branch_concat, if_neg starts, List.append_nil]
      exact .inl rfl

/-! ### A new path that goes on where the label of the others ends -/

section Joining

variable {as restB : List UInt8} {v : α} (label : b.label = as)
  (longer : (b ++ [(Piece.plain (as ++ restB), v)]).label = as)

include label longer

/-- The path leaves the label. -/
theorem join_before {path : List UInt8} (stripped : strip? as path = none)
    (go : Bundle α → List UInt8 → Outcome α) :
    Unaltered (as ++ restB) path (advance go (b ++ [(Piece.plain (as ++ restB), v)]) path)
      (advance go b path) := by
  rw [advance_of_none label rfl stripped, advance_of_none longer after_part stripped,
    ended?_concat]
  by_cases none : restB = []
  · rw [if_pos none]
    by_cases off : as = path ++ [slash]
    · refine .inr ⟨if_pos ⟨off, by simp⟩, .inl ?_⟩
      rw [none, List.append_nil, off]
    · rw [if_neg fun stop => off stop.1, if_neg fun stop => off stop.1]
      exact .inl rfl
  · rw [if_neg none, Option.or_none]
    exact .inl rfl

/-- The path ends with the label. -/
theorem join_at (some : restB ≠ []) (go : Bundle α → List UInt8 → Outcome α) :
    Unaltered (as ++ restB) as (advance go (b ++ [(Piece.plain (as ++ restB), v)]) as)
      (advance go b as) := by
  have stripped := strip?_self as
  rw [advance_of_nil label rfl stripped, advance_of_nil longer after_part stripped,
    ended?_concat, if_neg some, Option.or_none]
  generalize b.after as.length = own
  cases own.ended? with
  | some w => exact .inl rfl
  | none =>
      by_cases single : restB = [slash]
      · subst single
        have stop : ((own ++ [(Piece.plain [slash], v)]).branch slash).endsInSlash = true :=
          endsInSlash_branch_iff.mpr ⟨v, by simp [Piece.plain]⟩
        simp only [stop, if_true]
        exact .inr ⟨rfl, .inl rfl⟩
      · have same : ((own ++ [(Piece.plain restB, v)]).branch slash).endsInSlash =
            (own.branch slash).endsInSlash := by
          rw [Bool.eq_iff_iff, endsInSlash_branch_iff, endsInSlash_branch_iff]
          refine exists_congr fun u => ?_
          rw [List.mem_append, List.mem_singleton, or_iff_left]
          intro new
          have row : Piece.plain [slash] = Piece.plain restB := congrArg Prod.fst new
          exact single (Piece.plain_injective row).symm
        simp only [same]
        exact .inl rfl

end Joining

/-- A new path that goes on where the label of the others ends joins their node. -/
theorem search_through {fuel : Nat} (h : b.Orderly) {as restB : List UInt8} (label : b.label = as)
    {path : List UInt8} (v : α) (longer : (b ++ [(Piece.plain (as ++ restB), v)]).label = as)
    (other : path ≠ as ++ restB)
    (room : Enough (fuel + 1) (b ++ [(Piece.plain (as ++ restB), v)]) path)
    (deeper : ∀ {next : Bundle α} {more : List UInt8}, next.Orderly → more ≠ restB →
      Enough fuel (next ++ [(Piece.plain restB, v)]) more →
      Unaltered restB more (search fuel (next ++ [(Piece.plain restB, v)]) more)
        (search fuel next more)) :
    Unaltered (as ++ restB) path (search (fuel + 1) (b ++ [(Piece.plain (as ++ restB), v)]) path)
      (search (fuel + 1) b path) := by
  rw [search_eq, search_eq]
  cases stripped : strip? as path with
  | none => exact join_before label longer stripped _
  | some more =>
      obtain rfl := strip?_eq_some stripped
      cases more with
      | nil =>
          rw [List.append_nil] at other ⊢
          refine join_at label longer ?_ _
          rintro rfl
          exact other (List.append_nil as).symm
      | cons c rest =>
          have orderly : (b.after as.length).Orderly := label ▸ h.after_label
          have shorter := room.step (by rw [longer]; exact stripped)
          have apart : c :: rest ≠ restB := fun same => other (by rw [same])
          rw [advance_of_cons label rfl stripped, advance_of_cons longer after_part stripped]
          exact (onward_concat orderly v apart shorter deeper).append as

/-- One more path alters no search but by a slash. -/
theorem search_concat {fuel : Nat} (h : b.Orderly) {bs path : List UInt8} (v : α)
    (other : path ≠ bs) (room : Enough fuel (b ++ [(Piece.plain bs, v)]) path) :
    Unaltered bs path (search fuel (b ++ [(Piece.plain bs, v)]) path) (search fuel b path) := by
  induction fuel generalizing b bs path with
  | zero =>
      rcases room with room | ⟨-, room⟩
      · omega
      · omega
  | succ fuel ih =>
      by_cases none : b = []
      · subst none
        rw [search_eq, search_eq, advance_nil]
        exact advance_alone other v (search fuel)
      · obtain ⟨restA, restB, first, second, part⟩ := exists_common b.label bs
        have longer : (b ++ [(Piece.plain bs, v)]).label = common b.label bs := by
          rw [label_concat none, lead_plain]
        generalize common b.label bs = as at first second longer
        subst second
        cases restA with
        | nil =>
            rw [List.append_nil] at first
            exact search_through h first v longer other room fun orderly apart enough =>
              ih orderly apart enough
        | cons d left => exact search_split h first (part d rfl) v longer other room

/-- What another path finds is not changed by one more path, or the search for it is stopped by a
slash. -/
theorem find?_concat (h : b.Orderly) {bs path : List UInt8} (v : α) (other : path ≠ bs) :
    (b ++ [(Piece.plain bs, v)]).find? path = b.find? path ∨
      (b ++ [(Piece.plain bs, v)]).find? path = none ∧ SlashOff bs path := by
  have room : Enough (path.length + 2) (b ++ [(Piece.plain bs, v)]) path := .inl (by omega)
  rcases search_concat h v other room with same | ⟨stop, off⟩
  · exact .inl (congrArg Outcome.toOption same)
  · exact .inr ⟨congrArg Outcome.toOption stop, off⟩

end Bundle

end TrafficMeter.Routing
