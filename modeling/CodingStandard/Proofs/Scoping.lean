import CodingStandard.Proofs.OrderedTree

namespace CodingStandard

/-!
# The scope of a node

The scope of a node is found on the way up from it. On the way down it is known beforehand: what
hangs on a scope stands in that scope, and what hangs on another node stands in the scope of that
node. So a walk that starts at a scope and stops at the scopes that it meets stays in its own one.
-/

namespace Module

variable {m : Module} {tree : Tree} {o : Outline} {i j p a : Nat}

/-- The scope that the children of a node stand in. -/
def innerScope (m : Module) (id : Nat) : Nat :=
  if m.isKind NodeKind.isScope id then id else m.scope id

theorem innerScope_of_isScope (h : m.isKind NodeKind.isScope i = true) : m.innerScope i = i := by
  rw [innerScope, if_pos h]

theorem innerScope_of_not_isScope (h : ¬ m.isKind NodeKind.isScope i = true) :
    m.innerScope i = m.scope i := by
  rw [innerScope, if_neg h]

theorem isKind_isClass_iff :
    m.isKind NodeKind.isClass i = true ↔ ∃ c, m.kind? i = some (.classDef c) := by
  unfold isKind
  cases m.kind? i with
  | none => simp
  | some kind => cases kind <;> simp [NodeKind.isClass, NodeKind.class?]

theorem isKind_isFunction_iff :
    m.isKind NodeKind.isFunction i = true ↔ ∃ f, m.kind? i = some (.functionDef f) := by
  unfold isKind
  cases m.kind? i with
  | none => simp
  | some kind => cases kind <;> simp [NodeKind.isFunction, NodeKind.function?]

theorem isKind_or {q q' : NodeKind → Bool} : m.isKind (fun kind => q kind || q' kind) i = true ↔
    m.isKind q i = true ∨ m.isKind q' i = true := by
  unfold isKind
  cases m.kind? i with
  | none => simp
  | some kind => simp

theorem isMethod_iff : m.isMethod i = true ↔
    m.isKind NodeKind.isFunction i = true ∧ m.isKind NodeKind.isClass (m.scope i) = true := by
  rw [isMethod, Bool.and_eq_true]

theorem isScope_of_isClass (h : m.isKind NodeKind.isClass i = true) :
    m.isKind NodeKind.isScope i = true := by
  obtain ⟨c, hc⟩ := isKind_isClass_iff.mp h
  simp [isKind, hc, NodeKind.isScope]

theorem isScope_of_isFunction (h : m.isKind NodeKind.isFunction i = true) :
    m.isKind NodeKind.isScope i = true := by
  obtain ⟨f, hf⟩ := isKind_isFunction_iff.mp h
  simp [isKind, hf, NodeKind.isScope]

theorem lt_size_of_isKind {q : NodeKind → Bool} (h : m.isKind q i = true) : i < m.nodes.size := by
  by_contra hi
  simp [isKind, kind?, Array.getElem?_eq_none (Nat.le_of_not_lt hi)] at h

theorem scope_eq_root_or (m : Module) (i : Nat) : m.scope i = root ∨ m.scope i ∈ m.ancestors i := by
  unfold scope
  cases hfound : (m.ancestors i).find? (m.isKind NodeKind.isScope) with
  | none => exact .inl rfl
  | some a => exact .inr (List.mem_of_find?_eq_some hfound)

namespace Outlined

/-! ## Nodes below a node -/

theorem le_of_below (h : m.Outlined o) (hj : m.Below i j) : i ≤ j := by
  induction hj with
  | refl => exact le_rfl
  | tail _ hchild ih => exact ih.trans (h.parent?_of_mem_children hchild).1.le

theorem lt_of_below_sibling (h : m.Outlined o) (hi : i ∈ m.children p) (hj : j ∈ m.children p)
    (hlt : i < j) {k : Nat} (hk : m.Below i k) : k < j := by
  obtain ⟨hp, hparent⟩ := h.parent?_of_mem_children hi
  obtain ⟨parent, o', hlaysOut, -⟩ := h.exists_laysOut (lt_size_of_parent? hparent)
  by_contra hjk
  -- Then the sibling would lie below the node, and so would the parent of both.
  have hbounds := (hlaysOut.below_iff k).mp hk
  have hbelow : m.Below i j := (hlaysOut.below_iff j).mpr ⟨hlt.le, by omega⟩
  rcases Relation.ReflTransGen.cases_tail hbelow with rfl | ⟨q, hq, hchild⟩
  · exact lt_irrefl _ hlt
  · have hqp : q = p := Option.some.inj
      ((h.mem_children_iff.mp hchild).symm.trans (h.mem_children_iff.mp hj))
    exact absurd (h.le_of_below (hqp ▸ hq)) (Nat.not_le.mpr hp)

theorem exists_below_of_mem_ancestors (h : m.Outlined o) (ha : a ∈ m.ancestors i) :
    ∃ p, m.Below a p ∧ i ∈ m.children p := by
  have hwithin : ∀ bound i, a ∈ m.ancestorsWithin bound i → ∃ p, m.Below a p ∧ i ∈ m.children p := by
    intro bound
    induction bound with
    | zero => simp [ancestorsWithin]
    | succ bound ih =>
        intro i ha
        rw [ancestorsWithin] at ha
        cases hp : m.parent? i with
        | none => simp [hp] at ha
        | some p =>
            rw [hp] at ha
            have hchild := h.mem_children_iff.mpr hp
            rcases List.mem_cons.mp ha with rfl | ha
            · exact ⟨a, Relation.ReflTransGen.refl, hchild⟩
            · obtain ⟨q, hq, hqp⟩ := ih p ha
              exact ⟨p, hq.tail hqp, hchild⟩
  exact hwithin i i ha

/-! ## The way up and the way down -/

theorem isScope_iff (h : m.Outlined tree.outline) : m.isKind NodeKind.isScope i = true ↔
    i = root ∨ m.isKind NodeKind.isClass i = true ∨ m.isKind NodeKind.isFunction i = true := by
  have hroot := h.root_iff (Tree.rootless_lowerAll tree.children) i
  rw [← hroot, isKind_isClass_iff, isKind_isFunction_iff, isKind]
  cases m.kind? i with
  | none => simp
  | some kind => cases kind <;> simp [NodeKind.isScope]

theorem isScope_scope (h : m.Outlined tree.outline) (i : Nat) :
    m.isKind NodeKind.isScope (m.scope i) = true := by
  unfold scope
  cases hfound : (m.ancestors i).find? (m.isKind NodeKind.isScope) with
  | none => exact h.isScope_iff.mpr (.inl rfl)
  | some a => exact List.find?_some hfound

theorem scope_of_mem_children (h : m.Outlined o) (hi : i ∈ m.children p) :
    m.scope i = m.innerScope p := by
  have hp := h.mem_children_iff.mp hi
  rw [scope, h.ancestors_of_parent? hp, List.find?_cons, innerScope, scope]
  cases m.isKind NodeKind.isScope p <;> rfl

theorem scope_le (h : m.Outlined o) (i : Nat) : m.scope i ≤ i := by
  rcases scope_eq_root_or m i with hroot | hmem
  · rw [hroot]
    exact Nat.zero_le i
  · obtain ⟨p, hbelow, hchild⟩ := h.exists_below_of_mem_ancestors hmem
    exact (h.le_of_below hbelow).trans (h.parent?_of_mem_children hchild).1.le

theorem innerScope_le (h : m.Outlined o) (i : Nat) : m.innerScope i ≤ i := by
  unfold innerScope
  split
  · exact le_rfl
  · exact h.scope_le i

/-- A scope that a node lies in is not inside the scope of the node. -/
theorem le_scope_of_below (h : m.Outlined o) (hi : m.isKind NodeKind.isScope i = true)
    (hj : m.Below i j) (hne : i ≠ j) : i ≤ m.scope j := by
  induction hj with
  | refl => exact absurd rfl hne
  | @tail p j hp hchild ih =>
      rw [h.scope_of_mem_children hchild]
      by_cases hscope : m.isKind NodeKind.isScope p = true
      · rw [innerScope_of_isScope hscope]
        exact h.le_of_below hp
      · rw [innerScope_of_not_isScope hscope]
        exact ih fun heq => hscope (heq ▸ hi)

theorem innerScope_of_mem_children (h : m.Outlined o) (hi : i ∈ m.children p)
    (hscope : ¬ m.isKind NodeKind.isScope i = true) : m.innerScope i = m.innerScope p := by
  rw [innerScope_of_not_isScope hscope, h.scope_of_mem_children hi]

theorem not_isScope_of_mem_children (h : m.Outlined tree.outline) (hi : i ∈ m.children p)
    (hclass : ¬ m.isKind NodeKind.isClass i = true)
    (hfunction : ¬ m.isKind NodeKind.isFunction i = true) :
    ¬ m.isKind NodeKind.isScope i = true := by
  rw [h.isScope_iff]
  rintro (rfl | hi | hi)
  · exact Nat.not_lt_zero p (h.parent?_of_mem_children hi).1
  · exact hclass hi
  · exact hfunction hi

end Outlined

end Module

end CodingStandard
