import TrafficMeter.Http.Request
import TrafficMeter.Proofs.Attempts

/-!
# Requests that are admitted

A request reaches a router only if its parts were checked. So its method is a token, and its path,
which consists of characters that may stand in a path, has no line feed.

Main statement: `Request.Admitted.legal`.
-/

namespace TrafficMeter.Http

namespace Target

theorem no_feed_of_splitPath {cs path : List Char} {query : Option (List Char)}
    (split : splitPath cs = .ok (path, query)) (scheme authority : Option String) :
    '\n' ∉ (ofParts scheme authority path query).path.toList := by
  have plain : path.all isPathChar = true := by
    simp only [splitPath] at split
    split at split
    · next good =>
        split at split
        · cases split
          exact good
        · split at split
          · cases split
            exact good
          · cases split
    · cases split
  rw [ofParts]
  simp only
  split
  · simp
  · rw [String.toList_ofList]
    intro member
    exact absurd (List.all_eq_true.mp plain _ member) (by decide)

/-- A path never holds a line feed. -/
theorem no_feed_of_read {text : String} {t : Target} (read : Target.read text = .ok t) :
    '\n' ∉ t.path.toList := by
  rw [Target.read] at read
  split at read
  · cases read
  · split at read
    · cases read
    · cases read
      simp
    · obtain ⟨⟨path, query⟩, split, done⟩ := Attempt.bind_eq_ok_iff.mp read
      cases done
      exact no_feed_of_splitPath split _ _
    · obtain ⟨found, -, read⟩ := Attempt.bind_eq_ok_iff.mp read
      cases found with
      | none =>
          obtain ⟨⟨authority, rest⟩, -, read⟩ := Attempt.bind_eq_ok_iff.mp read
          simp only at read
          split at read
          · cases read
            simp
          · cases read
      | some parts =>
          obtain ⟨⟨authority, rest⟩, -, read⟩ := Attempt.bind_eq_ok_iff.mp read
          simp only at read
          split at read
          · cases read
          · obtain ⟨⟨path, query⟩, split, done⟩ := Attempt.bind_eq_ok_iff.mp read
            cases done
            exact no_feed_of_splitPath split _ _

end Target

theorem isToken_of_readMethod {method known : String} (read : readMethod method = .ok known) :
    Text.isToken known = true := by
  rw [readMethod] at read
  split at read
  · next token =>
      cases read
      exact token
  · cases read

namespace Request

/-- A request as it can reach a router. -/
def Admitted (r : Request) : Prop :=
  ∃ method target version fields body, read method target version fields body = .ok r

/-- What was checked of a request. -/
theorem Admitted.legal {r : Request} (admitted : r.Admitted) :
    Text.isToken r.method = true ∧ '\n' ∉ r.path.toList := by
  obtain ⟨method, text, version, fields, body, read⟩ := admitted
  obtain ⟨token, method, read⟩ := Attempt.bind_eq_ok_iff.mp read
  obtain ⟨target, found, read⟩ := Attempt.bind_eq_ok_iff.mp read
  obtain ⟨headers, -, done⟩ := Attempt.bind_eq_ok_iff.mp read
  cases done
  exact ⟨isToken_of_readMethod method,
    Target.no_feed_of_read (Attempt.mapError_eq_ok_iff.mp found)⟩

end Request

end TrafficMeter.Http
