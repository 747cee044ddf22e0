import CodingStandard.Model.Module

namespace CodingStandard

/-!
# The order of the nodes

An outline is laid out from the top down and in source order. A stack machine that replaces the
topmost node by its children passes through the nodes of such a layout one after the other: the
stack always holds the positions of the outlines that lie behind the node just visited.
-/

namespace Outline

mutual

@[simp] theorem length_number (parent : Option Nat) (next : Nat) :
    (o : Outline) → (o.number parent next).length = o.size
  | node _ _ children => by
      simp only [number, size, List.length_cons, length_numberAll]
      omega

@[simp] theorem length_numberAll (parent : Option Nat) (next : Nat) :
    (os : List Outline) → (numberAll parent next os).length = sizeAll os
  | [] => rfl
  | o :: rest => by
      simp only [numberAll, sizeAll, List.length_append, length_number, length_numberAll]

end

end Outline

namespace Module

/-- The module has the given nodes from a position on. -/
def HoldsAt (m : Module) (next : Nat) (nodes : List Node) : Prop :=
  ∀ i node, nodes[i]? = some node → m.nodes[next + i]? = some node

theorem holdsAt_cons {m : Module} {next : Nat} {node : Node} {nodes : List Node} :
    m.HoldsAt next (node :: nodes) ↔
      m.nodes[next]? = some node ∧ m.HoldsAt (next + 1) nodes := by
  constructor
  · intro h
    refine ⟨h 0 node rfl, fun i found hi => ?_⟩
    have hnext := h (i + 1) found (by simpa using hi)
    rwa [show next + (i + 1) = next + 1 + i by omega] at hnext
  · rintro ⟨hhead, htail⟩ i found hi
    cases i with
    | zero =>
        obtain rfl : node = found := by simpa using hi
        exact hhead
    | succ i =>
        have hnext := htail i found (by simpa using hi)
        rwa [show next + 1 + i = next + (i + 1) by omega] at hnext

theorem holdsAt_append {m : Module} {next : Nat} {front back : List Node} :
    m.HoldsAt next (front ++ back) ↔
      m.HoldsAt next front ∧ m.HoldsAt (next + front.length) back := by
  induction front generalizing next with
  | nil => simp [HoldsAt]
  | cons node front ih =>
      rw [List.cons_append, holdsAt_cons, holdsAt_cons, ih, List.length_cons, and_assoc,
        show next + 1 + front.length = next + (front.length + 1) by omega]

def preorderWithin (m : Module) : (bound : Nat) → (stack : List Nat) → List Nat
  | 0, _ => []
  | _ + 1, [] => []
  | bound + 1, node :: stack => node :: m.preorderWithin bound (m.children node ++ stack)

/-- The nodes of a module in the order of a walk from its root. -/
def preorder (m : Module) : List Nat := m.preorderWithin m.nodes.size [root]

@[simp] theorem preorderWithin_nil (m : Module) (bound : Nat) : m.preorderWithin bound [] = [] := by
  cases bound <;> rfl

theorem preorderWithin_congr {m other : Module} (h : m.nodes = other.nodes) (bound : Nat)
    (stack : List Nat) : m.preorderWithin bound stack = other.preorderWithin bound stack := by
  induction bound generalizing stack with
  | zero => rfl
  | succ bound ih =>
      cases stack with
      | nil => rfl
      | cons node stack => rw [preorderWithin, preorderWithin, ih, children, children, h]

/-- The walk depends on the nodes only. -/
theorem preorder_congr {m other : Module} (h : m.nodes = other.nodes) :
    m.preorder = other.preorder := by
  rw [preorder, preorder, preorderWithin_congr h, h]

theorem children_of_node {m : Module} {id : Nat} {node : Node} (h : m.nodes[id]? = some node) :
    m.children id = node.children := by
  simp [children, h]

mutual

/-- A walk from an outline passes through its positions in order before it comes to the rest of
the stack. -/
theorem preorderWithin_number (m : Module) (parent : Option Nat) (next bound : Nat)
    (stack : List Nat) : (o : Outline) → m.HoldsAt next (o.number parent next) →
      m.preorderWithin (o.size + bound) (next :: stack) =
        List.range' next o.size ++ m.preorderWithin bound stack
  | .node kind place children, h => by
      -- The children replace the node on the stack, in front of what lay behind it.
      rw [Outline.number, holdsAt_cons] at h
      have hchildren := preorderWithin_numberAll m (some next) (next + 1) bound stack children h.2
      rw [Outline.size, show 1 + Outline.sizeAll children + bound =
        Outline.sizeAll children + bound + 1 by omega, preorderWithin, children_of_node h.1,
        hchildren, Nat.add_comm 1, List.range'_succ, List.cons_append]

theorem preorderWithin_numberAll (m : Module) (parent : Option Nat) (next bound : Nat)
    (stack : List Nat) : (os : List Outline) → m.HoldsAt next (Outline.numberAll parent next os) →
      m.preorderWithin (Outline.sizeAll os + bound) (Outline.positions next os ++ stack) =
        List.range' next (Outline.sizeAll os) ++ m.preorderWithin bound stack
  | [], _ => by simp [Outline.sizeAll, Outline.positions]
  | o :: rest, h => by
      rw [Outline.numberAll, holdsAt_append, Outline.length_number] at h
      have hrest := preorderWithin_numberAll m parent (next + o.size) bound stack rest h.2
      have hfirst := preorderWithin_number m parent next (Outline.sizeAll rest + bound)
        (Outline.positions (next + o.size) rest ++ stack) o h.1
      rw [Outline.sizeAll, Outline.positions, Nat.add_assoc, List.cons_append, hfirst, hrest,
        ← List.append_assoc, List.range'_append_1]

end

theorem size_ofTree (name : String) (path : Path) (source : Text) (tree : Tree) :
    (ofTree name path source tree).nodes.size = tree.outline.size := by
  simp [ofTree]

theorem holdsAt_ofTree (name : String) (path : Path) (source : Text) (tree : Tree) :
    (ofTree name path source tree).HoldsAt 0 (tree.outline.number none 0) := by
  intro i node hi
  simpa [ofTree] using hi

/-- The walk of the module of a syntax tree passes through every node once, in the order of their
positions. -/
theorem preorder_ofTree (name : String) (path : Path) (source : Text) (tree : Tree) :
    (ofTree name path source tree).preorder =
      List.range (ofTree name path source tree).nodes.size := by
  have h := preorderWithin_number _ none 0 0 [] tree.outline
    (holdsAt_ofTree name path source tree)
  rw [preorder, size_ofTree, List.range_eq_range']
  simpa [root] using h

end Module

end CodingStandard
