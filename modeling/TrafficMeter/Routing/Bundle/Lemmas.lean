import TrafficMeter.Routing.Bundle

/-!
# What a bundle finds

Main statements: `find?_sound`, that what is found belongs to a pattern that matches the path, and
`find?_plain`, that a path that is itself a pattern is found.
-/

namespace TrafficMeter.Routing.Bundle

open TrafficMeter.Routing

variable {α : Type}

/-- What two rows have in common begins the first. -/
theorem common_prefix_left (as bs : List UInt8) : common as bs <+: as := by
  fun_induction common as bs <;> simp_all

/-- What two rows have in common begins the second. -/
theorem common_prefix_right (as bs : List UInt8) : common as bs <+: bs := by
  fun_induction common as bs <;> simp_all

/-- Every pattern begins with the label. -/
theorem label_begins {b : Bundle α} {ps : List Piece} {v : α} (h : (ps, v) ∈ b) :
    b.label <+: lead ps := by
  fun_induction label b with
  | case1 => simp at h
  | case2 => simp_all
  | case3 qs w more _ ih =>
      rcases List.mem_cons.1 h with e | h
      · cases e
        exact common_prefix_left ..
      · exact (common_prefix_right ..).trans (ih h)

/-- A beginning and what is left make up the row. -/
theorem strip?_eq_some {as path more : List UInt8} (h : strip? as path = some more) :
    path = as ++ more := by
  fun_induction strip? as path <;> simp_all

/-- Bytes with which a pattern begins are passed together with its pieces. -/
theorem match?_append {as : List UInt8} {ps : List Piece} (h : as <+: lead ps)
    (path : List UInt8) : Piece.match? ps (as ++ path) = Piece.match? (ps.drop as.length) path := by
  induction as generalizing ps with
  | nil => rfl
  | cons a as ih =>
      match ps with
      | .byte p :: ps =>
          simp only [lead, List.cons_prefix_cons] at h
          simpa [Piece.match?, h.1] using ih h.2
      | [] | .segment _ :: _ | .rest _ :: _ => simp [lead] at h

/-- Passing pieces keeps what each pattern stands for. -/
theorem mem_after {n : Nat} {b : Bundle α} {ps : List Piece} {v : α} :
    (ps, v) ∈ b.after n ↔ ∃ qs, (qs, v) ∈ b ∧ qs.drop n = ps := by
  simp [after]

/-- A pattern that is at its end has no pieces. -/
theorem mem_of_ended? {b : Bundle α} {v : α} (h : b.ended? = some v) : ([], v) ∈ b := by
  simp only [ended?, Option.map_eq_some_iff] at h
  obtain ⟨⟨ps, w⟩, hf, rfl⟩ := h
  have he := List.find?_some hf
  simp only [List.isEmpty_iff] at he
  exact he ▸ List.mem_of_find?_eq_some hf

/-- A pattern that captures the rest has no other piece. -/
theorem mem_of_rests {b : Bundle α} {ps : List Piece} {v : α} (h : (ps, v) ∈ b.rests) :
    (ps, v) ∈ b ∧ ∃ name, ps = [.rest name] := by
  obtain ⟨hm, h⟩ := List.mem_filter.1 h
  refine ⟨hm, ?_⟩
  split at h
  · next name e => exact ⟨name, e⟩
  · cases h

/-- What follows the capture of a segment comes from a pattern with that capture. -/
theorem mem_segments {b : Bundle α} {ps : List Piece} {v : α} (h : (ps, v) ∈ b.segments) :
    ∃ name, (.segment name :: ps, v) ∈ b := by
  simp only [segments, List.mem_filterMap] at h
  obtain ⟨⟨qs, w⟩, hm, h⟩ := h
  split at h
  · next name rs u e => cases e; cases h; exact ⟨name, hm⟩
  · cases h

/-- Whatever is found belongs to a pattern that matches. -/
def Sound (go : Bundle α → List UInt8 → Outcome α) : Prop :=
  ∀ b path v captures, go b path = .found v captures →
    ∃ ps, (ps, v) ∈ b ∧ Piece.match? ps path = some captures

/-- A failure finds nothing. -/
theorem failure_ne_found (path : List UInt8) (v : α) (captures : List (List UInt8)) :
    Outcome.failure path ≠ .found v captures := by
  unfold Outcome.failure
  split <;> simp

/-- A capture is put before those of something that was found. -/
theorem prepend_eq_found {taken : List UInt8} {o : Outcome α} {v : α}
    {captures : List (List UInt8)} (h : o.prepend taken = .found v captures) :
    ∃ more, o = .found v more ∧ captures = taken :: more := by
  cases o <;> simp_all [Outcome.prepend]

/-- One of two attempts found what both together found. -/
theorem orElse_eq_found {o p : Outcome α} {v : α} {captures : List (List UInt8)}
    (h : o.orElse p = .found v captures) : o = .found v captures ∨ p = .found v captures := by
  cases o <;> simp_all [Outcome.orElse]

/-- What is found behind a capture belongs to a pattern that matches. -/
theorem capture_sound {go : Bundle α → List UInt8 → Outcome α} (hgo : Sound go) {b : Bundle α}
    {c : UInt8} {rest : List UInt8} {v : α} {captures : List (List UInt8)}
    (h : capture go b (c :: rest) = .found v captures) :
    ∃ ps, (ps, v) ∈ b ∧ Piece.match? ps (c :: rest) = some captures := by
  unfold capture at h
  simp only at h
  split at h
  · split at h
    · next ps w _ hr =>
        have hm : (ps, w) ∈ b.rests := by simp [hr]
        obtain ⟨hm, name, rfl⟩ := mem_of_rests hm
        cases h
        exact ⟨_, hm, rfl⟩
    · exact (failure_ne_found _ _ _ h).elim
  · split at h
    · next w hd he =>
        obtain ⟨name, hm⟩ := mem_segments (mem_of_ended? he)
        cases h
        exact ⟨_, hm, by simp [Piece.match?, hd]⟩
    · split at h <;> cases h
    · split at h
      · cases h
      · obtain ⟨taken, hs, rfl⟩ := prepend_eq_found h
        obtain ⟨ps, hm, hp⟩ := hgo _ _ _ _ hs
        obtain ⟨name, hm⟩ := mem_segments ((List.mem_filter.1 hm).1)
        exact ⟨_, hm, by simp [Piece.match?, hp]⟩

/-- What is found belongs to a pattern that matches. -/
theorem search_sound (fuel : Nat) : Sound (search (α := α) fuel) := by
  induction fuel with
  | zero => intro b path v captures h; cases h
  | succ fuel ih =>
      intro b path v captures h
      have up : ∀ {ps more}, (ps, v) ∈ b.after b.label.length → path = b.label ++ more →
          Piece.match? ps more = some captures →
          ∃ qs, (qs, v) ∈ b ∧ Piece.match? qs path = some captures := by
        intro ps more hm hp hc
        obtain ⟨qs, hq, rfl⟩ := mem_after.1 hm
        exact ⟨qs, hq, by rw [hp, match?_append (label_begins hq)]; exact hc⟩
      simp only [search] at h
      split at h
      · split at h
        · cases h
        · exact (failure_ne_found _ _ _ h).elim
      · next w hs he =>
          cases h
          exact up (mem_of_ended? he) (strip?_eq_some hs) rfl
      · split at h
        · cases h
        · exact (failure_ne_found _ _ _ h).elim
      · next c rest hs =>
          have captured : capture (search fuel) (b.after b.label.length) (c :: rest) =
              .found v captures → ∃ qs, (qs, v) ∈ b ∧ Piece.match? qs path = some captures := by
            intro h
            obtain ⟨ps, hm, hp⟩ := capture_sound ih h
            exact up hm (strip?_eq_some hs) hp
          split at h
          · exact captured h
          · split at h
            · cases h
            · rcases orElse_eq_found h with h | h
              · obtain ⟨ps, hm, hp⟩ := ih _ _ _ _ h
                exact up ((List.mem_filter.1 hm).1) (strip?_eq_some hs) hp
              · exact captured h

/-- What is found belongs to a pattern that matches. -/
theorem find?_sound {b : Bundle α} {path : List UInt8} {v : α} {captures : List (List UInt8)}
    (h : b.find? path = some (v, captures)) :
    ∃ ps, (ps, v) ∈ b ∧ Piece.match? ps path = some captures := by
  unfold find? Outcome.toOption at h
  split at h
  · next hs => cases h; exact search_sound _ _ _ _ _ hs
  · cases h

/-- A pattern without captures begins with all its bytes. -/
theorem lead_plain (bs : List UInt8) : lead (Piece.plain bs) = bs := by
  induction bs with
  | nil => rfl
  | cons b bs ih => simpa [Piece.plain, lead] using ih

/-- A row that begins with another one leaves what follows. -/
theorem strip?_append (as more : List UInt8) : strip? as (as ++ more) = some more := by
  induction as with
  | nil => rfl
  | cons a as ih => simpa [strip?] using ih

/-- What begins two rows begins what they have in common. -/
theorem prefix_common {l as bs : List UInt8} (ha : l <+: as) (hb : l <+: bs) :
    l <+: common as bs := by
  induction l generalizing as bs with
  | nil => exact List.nil_prefix
  | cons c l ih =>
      match as, bs with
      | a :: as, b :: bs =>
          simp only [List.cons_prefix_cons] at ha hb
          simp [common, ← ha.1, ← hb.1, ih ha.2 hb.2]
      | [], _ | _, [] => simp_all

/-- What all patterns begin with belongs to the label. -/
theorem prefix_label {l : List UInt8} {b : Bundle α} (hb : b ≠ [])
    (h : ∀ ps v, (ps, v) ∈ b → l <+: lead ps) : l <+: b.label := by
  fun_induction label b with
  | case1 => exact absurd rfl hb
  | case2 ps v => exact h ps v (by simp)
  | case3 ps v more hm ih =>
      exact prefix_common (h ps v (by simp)) (ih hm fun qs w hq => h qs w (by simp [hq]))

/-- A pattern that is plain after bytes with which it begins is plain. -/
theorem eq_plain_append {as more : List UInt8} {ps : List Piece} (h : as <+: lead ps)
    (hd : ps.drop as.length = Piece.plain more) : ps = Piece.plain (as ++ more) := by
  induction as generalizing ps with
  | nil => exact hd
  | cons a as ih =>
      match ps with
      | .byte p :: ps =>
          simp only [lead, List.cons_prefix_cons] at h
          have hp := ih h.2 hd
          simp [Piece.plain, h.1] at hp ⊢
          exact hp
      | [] | .segment _ :: _ | .rest _ :: _ => simp [lead] at h

/-- A pattern without pieces is found to be at its end. -/
theorem exists_ended? {b : Bundle α} {v : α} (h : ([], v) ∈ b) : ∃ w, b.ended? = some w := by
  have hs : (List.find? (fun e => e.1.isEmpty) b).isSome = true :=
    List.find?_isSome.2 ⟨_, h, rfl⟩
  obtain ⟨e, he⟩ := Option.isSome_iff_exists.1 hs
  exact ⟨e.2, by simp [ended?, he]⟩

/-- A path that is itself a pattern is found if there is fuel for its bytes. -/
theorem search_plain {fuel : Nat} {b : Bundle α} {path : List UInt8} {v : α}
    (hm : (Piece.plain path, v) ∈ b)
    (hf : path.length + 1 < fuel ∨ b.label ≠ [] ∧ path.length < fuel) :
    ∃ w, search fuel b path = .found w [] ∧ (Piece.plain path, w) ∈ b := by
  induction fuel generalizing b path with
  | zero => omega
  | succ fuel ih =>
      have hl := label_begins hm
      rw [lead_plain] at hl
      obtain ⟨more, hp⟩ := hl
      have hs : strip? b.label path = some more := by rw [← hp]; exact strip?_append ..
      have hn : (Piece.plain more, v) ∈ b.after b.label.length :=
        mem_after.2 ⟨_, hm, by rw [← hp]; simp [Piece.plain]⟩
      have up : ∀ {w}, (Piece.plain more, w) ∈ b.after b.label.length →
          (Piece.plain path, w) ∈ b := by
        intro w hw
        obtain ⟨qs, hq, hd⟩ := mem_after.1 hw
        rw [← hp, ← eq_plain_append (label_begins hq) hd]
        exact hq
      cases more with
      | nil =>
          obtain ⟨w, hw⟩ := exists_ended? hn
          exact ⟨w, by simp [search, hs, hw], up (mem_of_ended? hw)⟩
      | cons c rest =>
          have hb : (Piece.plain (c :: rest), v) ∈ (b.after b.label.length).branch c :=
            List.mem_filter.2 ⟨hn, by simp [Piece.plain]⟩
          generalize hnext : (b.after b.label.length).branch c = next at hb
          have hc : [c] <+: next.label := by
            refine prefix_label (List.ne_nil_of_mem hb) fun ps w hw => ?_
            rw [← hnext] at hw
            have hh := (List.mem_filter.1 hw).2
            rcases ps with _ | ⟨_ | _, ps⟩ <;> simp_all [lead]
          have hne : next.label ≠ [] := by intro e; simp [e] at hc
          have hlen : (c :: rest).length < fuel := by
            have := congrArg List.length hp
            rw [List.length_append] at this
            rcases hf with hf | ⟨hl, hf⟩
            · omega
            · have := List.length_pos_iff.2 hl
              omega
          obtain ⟨w, hw, hmw⟩ := ih hb (.inr ⟨hne, hlen⟩)
          have hstop : c :: rest = [slash] → next.label = [slash] := by
            intro e
            have hx := label_begins hb
            rw [lead_plain, e] at hx
            cases e
            exact (hc.eq_of_length_le hx.length_le).symm
          refine ⟨w, ?_, up (List.mem_filter.1 (hnext ▸ hmw)).1⟩
          have hne : next ≠ [] := List.ne_nil_of_mem hb
          simp only [search, hs, hnext, hw, Outcome.orElse]
          rw [if_neg (by simpa using hne), if_neg]
          simp only [Bool.and_eq_true, decide_eq_true_eq, bne_iff_ne]
          exact fun h => h.1.2 (hstop h.1.1)

/-- A path that is itself a pattern is found. -/
theorem find?_plain {b : Bundle α} {path : List UInt8} {v : α} (h : (Piece.plain path, v) ∈ b) :
    ∃ w, b.find? path = some (w, []) ∧ (Piece.plain path, w) ∈ b := by
  obtain ⟨w, hw, hm⟩ : ∃ w, search (path.length + 2) b path = .found w [] ∧
      (Piece.plain path, w) ∈ b := search_plain h (.inl (by omega))
  exact ⟨w, by simp [find?, hw, Outcome.toOption], hm⟩

end TrafficMeter.Routing.Bundle
