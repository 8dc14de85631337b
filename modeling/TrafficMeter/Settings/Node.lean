import TrafficMeter.Assoc
import TrafficMeter.Settings.Key
import TrafficMeter.Settings.Scalar

/-!
# Trees of settings

Settings form a tree of tables and lists.  A table holds its members sorted by name, each name
once.  Setting a key makes tables and lists on the way: what is there and is of another kind is
given up, and lists grow by empty nodes.  One tree is laid over another: tables are joined member
by member, and anything else takes the place of what was there.  An index below zero counts from
the end of its list; one below the start cannot be set.

Main statements: `lookup_setMember`, what setting a member of a table does to every member, and
`member?_overlay`, what the members of a table are after another one was laid over it.
-/

namespace TrafficMeter.Settings

/-- A tree of settings. -/
inductive Node where
  | empty
  | scalar (s : Scalar)
  | list (items : List Node)
  | table (members : List (String × Node))

namespace Node

/-- The members of a table; other nodes have none. -/
def members : Node → List (String × Node)
  | table ms => ms
  | _ => []

/-- The items of a list; other nodes have none. -/
def items : Node → List Node
  | list ns => ns
  | _ => []

/-- The member of a name. -/
def member? (n : Node) (name : String) : Option Node := n.members.lookup name

/-- Sets a member in a sorted list of members. -/
def setMember (name : String) (v : Node) : List (String × Node) → List (String × Node)
  | [] => [(name, v)]
  | (k, w) :: rest =>
      if name = k then (name, v) :: rest
      else if name < k then (name, v) :: (k, w) :: rest
      else (k, w) :: setMember name v rest

/-- The place of an index in a list of some length, if it is not below the start. -/
def place (length : Nat) (i : Int) : Nat := if 0 ≤ i then i.toNat else length - i.natAbs

/-- Sets an item of a list, which grows to hold it, however much that takes. -/
def setItem (i : Nat) (v : Node) (ns : List Node) : List Node :=
  (ns ++ List.replicate (i + 1 - ns.length) empty).set i v

/-- Sets what is found by steps into a tree. -/
def put (v : Node) : List Step → Node → Node
  | [], _ => v
  | .name name :: rest, n =>
      table (setMember name (put v rest ((n.member? name).getD empty)) n.members)
  | .index i :: rest, n =>
      let slot := place n.items.length i
      list (setItem slot (put v rest ((n.items[slot]?).getD empty)) n.items)

/-- Sets what a key stands for. -/
def set (n : Node) (k : Key) (v : Node) : Node := put v k.path n

/-- Whether an index among the steps lies below the start of the list that it meets. -/
def undershoots : List Step → Node → Bool
  | [], _ => false
  | .name name :: rest, n => undershoots rest ((n.member? name).getD empty)
  | .index i :: rest, n =>
      let slot := place n.items.length i
      decide (i + n.items.length < 0) || undershoots rest ((n.items[slot]?).getD empty)

mutual

/-- Lays a tree over another one. An empty table changes nothing, whatever is below it. -/
def overlay (n : Node) : Node → Node
  | table [] => n
  | table (m :: ms) => table (overlayMembers n.members (m :: ms))
  | v => v

/-- Lays members over those of a table. -/
def overlayMembers (below : List (String × Node)) : List (String × Node) → List (String × Node)
  | [] => below
  | (name, v) :: rest =>
      setMember name (overlay ((below.lookup name).getD (table [])) v) (overlayMembers below rest)

end

/-- What setting a member does to every member. -/
theorem lookup_setMember (name : String) (v : Node) (ms : List (String × Node)) (k : String) :
    (setMember name v ms).lookup k = if k = name then some v else ms.lookup k := by
  fun_induction setMember name v ms <;> grind [Assoc.lookup_cons_ite]

theorem lookup_overlayMembers (below above : List (String × Node)) (k : String) :
    (overlayMembers below above).lookup k =
      match above.lookup k with
      | some v => some (overlay ((below.lookup k).getD (table [])) v)
      | none => below.lookup k := by
  induction above with
  | nil => rw [overlayMembers, List.lookup_nil]
  | cons m rest ih =>
      obtain ⟨name, v⟩ := m
      rw [overlayMembers, lookup_setMember, Assoc.lookup_cons_ite]
      by_cases own : k = name
      · rw [if_pos own, if_pos own, own]
      · rw [if_neg own, if_neg own, ih]

/-- A member that the upper table has is laid over that of the lower one; the others stay. -/
theorem member?_overlay (n : Node) (above : List (String × Node)) (name : String) :
    (n.overlay (table above)).member? name =
      match above.lookup name with
      | some v => some (overlay ((n.member? name).getD (table [])) v)
      | none => n.member? name := by
  cases above with
  | nil => rw [overlay, List.lookup_nil]
  | cons m rest =>
      rw [overlay]
      exact lookup_overlayMembers n.members (m :: rest) name

end Node

end TrafficMeter.Settings
