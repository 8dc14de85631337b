import Mathlib.Algebra.BigOperators.Group.Finset.Piecewise
import Mathlib.Algebra.Ring.Nat
import TrafficMeter.Assoc
import TrafficMeter.Http.Size
import TrafficMeter.Proofs.Attempts

/-!
# The size of a request as a sum over its list of fields

A request is measured name by name, and all values of a name at once. The same size comes from the
list of fields as it was given: each name in lower case counts once and each value where it stands,
but of the hosts only the first counts, and only if it is text. So the order of fields with
different names does not matter.

Main statement: `approximateSize_listed`.
-/

namespace TrafficMeter.Http

open scoped BigOperators

namespace Headers

/-- Fields with their names in lower case. -/
def lowered (fields : List (String × String)) : Headers :=
  fields.map fun f => (Text.lowerAscii f.1, f.2)

/-- Fields are admitted exactly if their names and values are good, and all of them are kept. -/
theorem read_eq_ok_iff {fields : List (String × String)} {hs : Headers} :
    read fields = .ok hs ↔
      (∀ f ∈ fields, isName f.1 = true ∧ isValue f.2 = true) ∧ hs = lowered fields := by
  constructor
  · intro done
    have good : ∀ f ∈ fields, isName f.1 = true ∧ isValue f.2 = true := by
      induction fields generalizing hs with
      | nil => exact fun _ none => nomatch none
      | cons f rest ih =>
          obtain ⟨first, checked, later⟩ := Attempt.bind_eq_ok_iff.mp done
          obtain ⟨others, read, -⟩ := Attempt.bind_eq_ok_iff.mp later
          have own : isName f.1 = true ∧ isValue f.2 = true := by
            rw [field] at checked
            split at checked
            · cases checked
            · split at checked
              · cases checked
              · simp_all
          exact List.forall_mem_cons.mpr ⟨own, ih read⟩
    exact ⟨good, Except.ok.inj (done.symm.trans (read_eq_ok good))⟩
  · rintro ⟨good, rfl⟩
    exact read_eq_ok good

/-- The distinct names but that of the host. -/
def otherNames (hs : Headers) : Finset String := (hs.map Prod.fst).toFinset.erase "host"

/-- A sum over the names but the host is one over a set. -/
theorem sum_names (hs : Headers) (f : String → Nat) :
    ((hs.names.filter (· != "host")).map f).sum = ∑ name ∈ hs.otherNames, f name := by
  have set : (hs.names.filter (· != "host")).toFinset = hs.otherNames := by
    ext name
    simp [names, otherNames, and_comm]
  have nodup := (Assoc.nodup_eraseDups (hs.map Prod.fst)).filter (· != "host")
  rw [← set]
  exact (List.sum_toFinset f nodup).symm

/-- Values that are added up name by name are added up once each. -/
theorem sum_values (hs : Headers) (some : Finset String) :
    ∑ name ∈ some, ((hs.values name).map String.utf8ByteSize).sum =
      ((hs.filter (·.1 ∈ some)).map (·.2.utf8ByteSize)).sum := by
  induction hs with
  | nil => simp [values]
  | cons h rest ih =>
      have first : ∀ name, ((values (h :: rest) name).map String.utf8ByteSize).sum =
          (if name = h.1 then h.2.utf8ByteSize else 0) +
            ((values rest name).map String.utf8ByteSize).sum := by
        intro name
        by_cases own : name = h.1
        · subst own
          simp [values]
        · simp [values, own, Ne.symm own]
      simp only [first, Finset.sum_add_distrib, Finset.sum_ite_eq', ih, List.filter_cons]
      by_cases member : h.1 ∈ some
      · simp [member]
      · simp [member]

theorem first?_eq_find? (hs : Headers) (name : String) :
    hs.first? name = (hs.find? (·.1 = name)).map Prod.snd := by
  rw [first?]
  induction hs with
  | nil => rfl
  | cons h rest ih =>
      obtain ⟨own, value⟩ := h
      by_cases same : name = own
      · simp [same]
      · simp [Assoc.lookup_cons_ite, same, Ne.symm same, ih]

theorem first?_eq_head? (hs : Headers) (name : String) :
    hs.first? name = (hs.values name).head? := by
  rw [first?_eq_find?, values, List.head?_map, List.head?_filter]
  rfl

/-- Another order of fields that keeps the order of the values of each name, which is compared
without regard to case. -/
structure Rearranged (fields other : List (String × String)) : Prop where
  perm : fields.Perm other
  values : ∀ name, (lowered fields).values name = (lowered other).values name

namespace Rearranged

variable {fields other : List (String × String)}

theorem lowered_perm (h : Rearranged fields other) : (lowered fields).Perm (lowered other) :=
  h.perm.map _

theorem text? (h : Rearranged fields other) (name : String) :
    (lowered fields).text? name = (lowered other).text? name := by
  rw [Headers.text?, Headers.text?, first?_eq_head?, first?_eq_head?, h.values]

end Rearranged

end Headers

namespace Request

open Headers (lowered Rearranged)

/-- The host by a list of fields: the first one if it is text, else the authority of the target. -/
def listedHost (fields : List (String × String)) (authority : Option String) : String :=
  match (lowered fields).find? (·.1 = "host") with
  | some (_, value) => if Text.isFieldText value then value else authority.getD ""
  | none => authority.getD ""

/-- The size by a list of fields: the target, the method, the protocol, each name in lower case but
the host once, the values of all fields but hosts, the host and the declared length. -/
def listedBytes (method : String) (target : Target) (version : Version)
    (fields : List (String × String)) : Nat :=
  target.text.utf8ByteSize + method.utf8ByteSize + version.text.utf8ByteSize +
  ∑ name ∈ (lowered fields).otherNames, name.utf8ByteSize +
  (((lowered fields).filter (·.1 ≠ "host")).map (·.2.utf8ByteSize)).sum +
  (listedHost fields target.authority).utf8ByteSize +
  ((declaredLength? (lowered fields)).getD 0).toNat

theorem listedHost_eq (fields : List (String × String)) (authority : Option String) :
    listedHost fields authority = ((lowered fields).text? "host").getD (authority.getD "") := by
  rw [listedHost, Headers.text?, Headers.first?_eq_find?]
  cases (lowered fields).find? (·.1 = "host") with
  | none => rfl
  | some f =>
      rw [Option.map_some, Option.filter_some]
      simp only
      split <;> rfl

/-- The names with their values are the names and, apart from them, the values. -/
theorem fieldBytes_sum (hs : Headers) :
    ((hs.names.filter (· != "host")).map (fieldBytes hs)).sum =
      ∑ name ∈ hs.otherNames, name.utf8ByteSize +
        ((hs.filter (·.1 ≠ "host")).map (·.2.utf8ByteSize)).sum := by
  have own : hs.filter (·.1 ∈ hs.otherNames) = hs.filter (·.1 ≠ "host") := by
    refine List.filter_congr fun h member => ?_
    have name : h.1 ∈ hs.map Prod.fst := List.mem_map_of_mem member
    simp [Headers.otherNames, name]
  rw [Headers.sum_names, ← own, ← Headers.sum_values, ← Finset.sum_add_distrib]
  rfl

theorem listedBytes_eq {r : Request} {fields : List (String × String)}
    (kept : r.headers = lowered fields) :
    r.headBytes + r.declaredBytes = listedBytes r.method r.target r.version fields := by
  have host : r.host = listedHost fields r.target.authority := by
    rw [Request.host, listedHost_eq, kept]
    cases (lowered fields).text? "host" <;> rfl
  rw [headBytes, declaredBytes, listedBytes, host, fieldBytes_sum, kept]
  simp only [Nat.add_assoc]

/-- Only the order of the values of one name matters. -/
theorem listedBytes_rearranged {fields other : List (String × String)}
    (arranged : Rearranged fields other) (method : String) (target : Target) (version : Version) :
    listedBytes method target version fields = listedBytes method target version other := by
  have perm := arranged.lowered_perm
  have names : (lowered fields).otherNames = (lowered other).otherNames := by
    rw [Headers.otherNames, Headers.otherNames, List.toFinset_eq_of_perm _ _ (perm.map Prod.fst)]
  have values := ((perm.filter (·.1 ≠ "host")).map (·.2.utf8ByteSize)).sum_nat
  rw [listedBytes, listedBytes, listedHost_eq, listedHost_eq, declaredLength?, declaredLength?,
    arranged.text?, arranged.text?, names, values]

/-- What is read of the parts of a request. -/
theorem read_eq_ok_iff {method target body : String} {version : Version}
    {fields : List (String × String)} {r : Request} :
    Request.read method target version fields body = .ok r ↔
      Text.isToken method = true ∧
        (∀ f ∈ fields, Headers.isName f.1 = true ∧ Headers.isValue f.2 = true) ∧
        ∃ parsed, Target.read target = .ok parsed ∧
          r = { method, target := parsed, version, headers := lowered fields, body } := by
  constructor
  · intro done
    obtain ⟨known, checked, done⟩ := Attempt.bind_eq_ok_iff.mp done
    obtain ⟨parsed, found, done⟩ := Attempt.bind_eq_ok_iff.mp done
    obtain ⟨headers, kept, done⟩ := Attempt.bind_eq_ok_iff.mp done
    obtain ⟨good, rfl⟩ := Headers.read_eq_ok_iff.mp (Attempt.mapError_eq_ok_iff.mp kept)
    rw [readMethod] at checked
    split at checked
    · next token =>
        cases checked
        cases done
        exact ⟨token, good, parsed, Attempt.mapError_eq_ok_iff.mp found, rfl⟩
    · cases checked
  · rintro ⟨token, good, parsed, found, rfl⟩
    refine Attempt.bind_eq_ok_iff.mpr ⟨method, if_pos token, ?_⟩
    refine Attempt.bind_eq_ok_iff.mpr ⟨parsed, Attempt.mapError_eq_ok_iff.mpr found, ?_⟩
    have kept := Headers.read_eq_ok_iff.mpr ⟨good, rfl⟩
    exact Attempt.bind_eq_ok_iff.mpr ⟨_, Attempt.mapError_eq_ok_iff.mpr kept, rfl⟩

end Request

open Headers (lowered Rearranged)

/-- The size of a request that was read is the sum over the list of its fields whenever the sum is
below 2^64, and adding up crashes otherwise. Another order of fields that keeps that of the values
of each name gives the same size, or the same crash. -/
theorem approximateSize_listed {method target body : String} {version : Version}
    {fields : List (String × String)} {r : Request}
    (read : Request.read method target version fields body = .ok r) :
    (∃ parsed, Target.read target = .ok parsed ∧
      (Request.listedBytes method parsed version fields < 2 ^ 64 →
        ∃ size, r.approximateSize = .ok size ∧
          size.toNat = Request.listedBytes method parsed version fields) ∧
      (2 ^ 64 ≤ Request.listedBytes method parsed version fields →
        r.approximateSize = .error Request.overflow)) ∧
    ∀ other, Rearranged fields other →
      ∃ again, Request.read method target version other body = .ok again ∧
        again.approximateSize = r.approximateSize := by
  obtain ⟨token, good, parsed, found, rfl⟩ := Request.read_eq_ok_iff.mp read
  have bytes : ∀ again : List (String × String),
      Request.bytes { method, target := parsed, version, headers := lowered again, body } =
        Request.listedBytes method parsed version again := by
    intro again
    rw [Request.bytes, Request.listedBytes_eq rfl]
  refine ⟨⟨parsed, found, ?_, ?_⟩, ?_⟩
  · intro fits
    rw [← bytes] at fits ⊢
    obtain ⟨size, sized⟩ := Request.Fits.exists_approximateSize fits
    exact ⟨size, sized, Request.approximateSize_eq_ok_iff.mp sized⟩
  · intro long
    rw [← bytes] at long
    exact Request.approximateSize_of_not_fits (Nat.not_lt_of_le long)
  · intro other arranged
    have alsoGood : ∀ f ∈ other, Headers.isName f.1 = true ∧ Headers.isValue f.2 = true :=
      fun f member => good f (arranged.perm.mem_iff.mpr member)
    refine ⟨_, Request.read_eq_ok_iff.mpr ⟨token, alsoGood, parsed, found, rfl⟩, ?_⟩
    refine Request.approximateSize_congr ?_
    rw [bytes, bytes, Request.listedBytes_rearranged arranged]

/-- Fields with repeated names, of which the first host is no text. -/
def mixedFields : List (String × String) :=
  [("Accept", "text/html"), ("HOST", "h\u00e9"), ("accept", "*/*"), ("Host", "late"),
    ("Content-Length", "12"), ("content-length", "7")]

/-- The same fields with the names among each other in another order. -/
def shuffledFields : List (String × String) :=
  [("HOST", "h\u00e9"), ("Content-Length", "12"), ("Accept", "text/html"), ("Host", "late"),
    ("content-length", "7"), ("accept", "*/*")]

theorem rearranged_shuffledFields : Rearranged mixedFields shuffledFields where
  perm := by decide
  values := by
    have first : lowered mixedFields = [("accept", "text/html"), ("host", "h\u00e9"),
        ("accept", "*/*"), ("host", "late"), ("content-length", "12"),
        ("content-length", "7")] := by decide +kernel
    have second : lowered shuffledFields = [("host", "h\u00e9"), ("content-length", "12"),
        ("accept", "text/html"), ("host", "late"), ("content-length", "7"),
        ("accept", "*/*")] := by decide +kernel
    intro name
    rw [first, second]
    by_cases accept : name = "accept"
    · rw [accept]
      decide
    · by_cases host : name = "host"
      · rw [host]
        decide
      · simp [Headers.values, List.filter_cons, Ne.symm accept, Ne.symm host]

/-- Such fields have the authority of the target as host, and the names of two fields. -/
theorem approximateSize_listed_mixed :
    ∃ r again, Request.read "POST" "http://example.com/x" .v11 mixedFields "" = .ok r ∧
      r.approximateSize = .ok 90 ∧ Rearranged mixedFields shuffledFields ∧
      Request.read "POST" "http://example.com/x" .v11 shuffledFields "" = .ok again ∧
      again.approximateSize = r.approximateSize := by
  let parsed : Target :=
    { scheme := some "http", authority := some "example.com", path := "/x", query := none }
  have target : Target.read "http://example.com/x" = .ok parsed := by decide +kernel
  have read : Request.read "POST" "http://example.com/x" .v11 mixedFields "" =
      .ok { method := "POST", target := parsed, headers := lowered mixedFields } := by
    decide +kernel
  obtain ⟨⟨found, same, exact, -⟩, arranged⟩ := approximateSize_listed read
  obtain rfl := Except.ok.inj (target.symm.trans same)
  obtain ⟨again, readAgain, equal⟩ := arranged shuffledFields rearranged_shuffledFields
  refine ⟨_, again, read, ?_, rearranged_shuffledFields, readAgain, equal⟩
  have sum : Request.listedBytes "POST" parsed .v11 mixedFields = 90 := by decide +kernel
  obtain ⟨size, sized, equal⟩ := exact (by rw [sum]; decide)
  rw [sized, Except.ok.injEq, ← UInt64.toNat_inj, equal, sum]
  rfl

end TrafficMeter.Http
