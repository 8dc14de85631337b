/-!
# Splitting texts

A text is cut at every place where a separator stands; there is always at least one part.

Main statements: `join_split`, that the parts with the separators between them are the text, and
`split_intercalate`, that parts without separators are found again.
-/

namespace TrafficMeter.Text

/-- The parts of a text between separators. -/
def split (separator : Char) : List Char → List (List Char)
  | [] => [[]]
  | c :: cs =>
      if c = separator then [] :: split separator cs
      else
        match split separator cs with
        | first :: others => (c :: first) :: others
        | [] => [[c]]

/-- Puts a separator between parts. -/
def join (separator : Char) : List (List Char) → List Char
  | [] => []
  | [last] => last
  | part :: rest => part ++ separator :: join separator rest

/-- There is always at least one part. -/
theorem split_ne_nil (separator : Char) (cs : List Char) : split separator cs ≠ [] := by
  cases cs with
  | nil => simp [split]
  | cons c rest =>
      simp only [split]
      split
      · simp
      · split <;> simp

/-- The parts with the separators between them are the text. -/
theorem join_split (separator : Char) (cs : List Char) :
    join separator (split separator cs) = cs := by
  induction cs with
  | nil => rfl
  | cons c rest ih =>
      have hne := split_ne_nil separator rest
      simp only [split]
      by_cases h : c = separator
      · rw [if_pos h]
        match hs : split separator rest with
        | [] => exact absurd hs hne
        | first :: others =>
            rw [hs] at ih
            simp [join, ih, h]
      · rw [if_neg h]
        match hs : split separator rest with
        | [] => exact absurd hs hne
        | [last] =>
            rw [hs] at ih
            simpa [join] using ih
        | first :: second :: others =>
            rw [hs] at ih
            simpa [join] using ih

/-- A text is cut on both sides of a separator apart. -/
theorem split_append_cons (separator : Char) (before after : List Char) :
    split separator (before ++ separator :: after) =
      split separator before ++ split separator after := by
  induction before with
  | nil => simp [split]
  | cons c before ih =>
      rw [List.cons_append, split, split, ih]
      by_cases h : c = separator
      · rw [if_pos h, if_pos h]
        rfl
      · rw [if_neg h, if_neg h]
        cases parts : split separator before with
        | nil => exact absurd parts (split_ne_nil separator before)
        | cons first others => rfl

/-- A text without separators is one part. -/
theorem split_of_not_mem {separator : Char} {part : List Char} (none : separator ∉ part) :
    split separator part = [part] := by
  induction part with
  | nil => rfl
  | cons c part ih =>
      have other : c ≠ separator := fun same => none (same ▸ List.mem_cons_self)
      rw [split, if_neg other, ih fun member => none (List.mem_cons_of_mem c member)]

/-- Parts without separators are found again. -/
theorem split_intercalate {separator : Char} {parts : List (List Char)} (some : parts ≠ [])
    (none : ∀ part ∈ parts, separator ∉ part) :
    split separator ([separator].intercalate parts) = parts := by
  induction parts with
  | nil => exact absurd rfl some
  | cons part rest ih =>
      have own := split_of_not_mem (none part List.mem_cons_self)
      cases rest with
      | nil => rw [List.intercalate_singleton, own]
      | cons next others =>
          have later := ih (List.cons_ne_nil _ _) fun p hp => none p (List.mem_cons_of_mem part hp)
          rw [List.intercalate_cons_cons, List.append_assoc, List.singleton_append,
            split_append_cons, own, later, List.singleton_append]

end TrafficMeter.Text
