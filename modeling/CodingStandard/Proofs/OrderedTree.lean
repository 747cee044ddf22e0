import CodingStandard.Proofs.Preorder
import Mathlib.Data.List.Chain
import Mathlib.Data.List.Nodup
import Mathlib.Logic.Relation

namespace CodingStandard

/-!
# Modules as ordered trees

The nodes of a module form a tree whose positions follow the order of the source. At every
position an outline is laid out, and the outline of a child lies within that of its parent: the
nodes below a node are the positions of its outline.
-/

namespace Outline

theorem size_pos (o : Outline) : 0 < o.size := by
  cases o
  rw [size]
  omega

theorem le_of_mem_positions {next i : Nat} {os : List Outline} (h : i ∈ positions next os) :
    next ≤ i := by
  induction os generalizing next with
  | nil => simp [positions] at h
  | cons o os ih =>
      rcases List.mem_cons.mp h with rfl | h
      · exact le_rfl
      · exact Nat.le_of_add_right_le (ih h)

theorem pairwise_positions (next : Nat) (os : List Outline) :
    (positions next os).Pairwise (· < ·) := by
  induction os generalizing next with
  | nil => exact List.Pairwise.nil
  | cons o os ih =>
      refine List.Pairwise.cons ?_ (ih (next + o.size))
      intro i hi
      have hle := le_of_mem_positions hi
      have hpos := o.size_pos
      omega

/-- All nodes of the outline have a property. -/
inductive Every (p : NodeKind → Prop) : Outline → Prop where
  | node {kind : NodeKind} {place : Place} {children : List Outline}
      (hkind : p kind) (hchildren : ∀ o ∈ children, o.Every p) :
      Every p (.node kind place children)

mutual

theorem Every.of_mem_number {p : NodeKind → Prop} {parent : Option Nat} {next : Nat} {n : Node} :
    {o : Outline} → o.Every p → n ∈ o.number parent next → p n.kind
  | .node _ _ _, .node hkind hchildren, hn => by
      rcases List.mem_cons.mp hn with rfl | hn
      · exact hkind
      · exact of_mem_numberAll hchildren hn

theorem of_mem_numberAll {p : NodeKind → Prop} {parent : Option Nat} {next : Nat} {n : Node} :
    {os : List Outline} → (∀ o ∈ os, o.Every p) → n ∈ numberAll parent next os → p n.kind
  | [], _, hn => by simp [numberAll] at hn
  | o :: os, h, hn => by
      rcases List.mem_append.mp hn with hn | hn
      · exact Every.of_mem_number (h o List.mem_cons_self) hn
      · exact of_mem_numberAll (fun o ho => h o (List.mem_cons_of_mem _ ho)) hn

end

/-- No node of the outline is a module. -/
inductive Rootless : Outline → Prop where
  | node {kind : NodeKind} {place : Place} {children : List Outline}
      (hkind : kind.tag ≠ .root) (hchildren : ∀ o ∈ children, o.Rootless) :
      Rootless (.node kind place children)

theorem Rootless.every : {o : Outline} → o.Rootless → o.Every (·.tag ≠ .root)
  | .node _ _ _, .node hkind hchildren => .node hkind fun o ho => (hchildren o ho).every

theorem Every.rootless : {o : Outline} → o.Every (·.tag ≠ .root) → o.Rootless
  | .node _ _ _, .node hkind hchildren => .node hkind fun o ho => (hchildren o ho).rootless

end Outline

namespace Tree

/-- A construct is lowered to one outline, in front of what lies inside it. -/
theorem every_singleton {p : NodeKind → Prop} {kind : NodeKind} {place : Place}
    {children : List Outline} (hkind : p kind) (hchildren : ∀ o ∈ children, o.Every p) :
    ∀ o ∈ [Outline.node kind place children], o.Every p :=
  List.forall_mem_singleton.mpr (.node hkind hchildren)

/-- What trees hand on to the trees in them gives every node that is made from them a property.
Only definitions are made from more than one tree. -/
structure Lowers (q : Tree → Prop) (p : NodeKind → Prop) : Prop where
  children : ∀ {kind role place text children}, q (.node kind role place text children) →
    ∀ t ∈ children, q t
  definition : ∀ decorators kind {children}, (∀ t ∈ children, q t) →
    p (definitionKind decorators kind children)
  other : ∀ {kind : NodeKind}, kind.tag ∉ [NodeTag.root, .classDef, .functionDef] → p kind

variable {q : Tree → Prop} {p : NodeKind → Prop}

mutual

theorem every_lower (h : Lowers q p) : (t : Tree) → q t → ∀ o ∈ t.lower, o.Every p
  | node kind role place text children, ht => by
      have hts := h.children ht
      have hall := every_lowerAll h children hts
      have hbody := every_lowerBody h children hts
      have hfield := fun role => every_lowerField h role children hts
      have hdefinition := every_lowerDefinition h (decorators children) children hts
      have hdecorators := every_lowerDecorators h children hts
      cases kind with
      | decorated => exact List.forall_mem_append.mpr ⟨hdecorators, hdefinition⟩
      | classDefinition | functionDefinition =>
          exact List.forall_mem_append.mpr
            ⟨hfield _, every_singleton (h.definition _ _ hts) hbody⟩
      | importStatement | importFrom | futureImport =>
          exact every_singleton (h.other (by simp [NodeKind.tag])) (by simp)
      | returnStatement | assignment | compound | exceptClause | printStatement =>
          exact every_singleton (h.other (by simp [NodeKind.tag])) hall
      | binaryOperator | call =>
          unfold lower
          dsimp only
          split
          · exact every_singleton (h.other (by simp [NodeKind.tag])) hall
          · exact hall
      | comment => exact List.forall_mem_nil _
      | _ => exact hall

theorem every_lowerAll (h : Lowers q p) :
    (ts : List Tree) → (∀ t ∈ ts, q t) → ∀ o ∈ lowerAll ts, o.Every p
  | [], _ => by simp [lowerAll]
  | t :: ts, hts => by
      obtain ⟨ht, hts⟩ := List.forall_mem_cons.mp hts
      exact List.forall_mem_append.mpr ⟨every_lower h t ht, every_lowerAll h ts hts⟩

theorem every_lowerDecorators (h : Lowers q p) :
    (ts : List Tree) → (∀ t ∈ ts, q t) → ∀ o ∈ lowerDecorators ts, o.Every p
  | [], _ => by simp [lowerDecorators]
  | node kind _ _ _ children :: ts, hts => by
      obtain ⟨ht, hts⟩ := List.forall_mem_cons.mp hts
      have hrest := every_lowerDecorators h ts hts
      unfold lowerDecorators
      split
      · exact List.forall_mem_append.mpr ⟨every_lowerAll h children (h.children ht), hrest⟩
      · exact hrest

theorem every_lowerDefinition (h : Lowers q p) (decorators : List Decorator) :
    (ts : List Tree) → (∀ t ∈ ts, q t) → ∀ o ∈ lowerDefinition decorators ts, o.Every p
  | [], _ => by simp [lowerDefinition]
  | node kind _ _ _ children :: ts, hts => by
      obtain ⟨ht, hts⟩ := List.forall_mem_cons.mp hts
      have hchildren := h.children ht
      unfold lowerDefinition
      split
      · exact List.forall_mem_append.mpr ⟨every_lowerField h _ children hchildren,
          every_singleton (h.definition _ _ hchildren) (every_lowerBody h children hchildren)⟩
      · exact every_lowerDefinition h decorators ts hts

theorem every_lowerField (h : Lowers q p) (role : Role) :
    (ts : List Tree) → (∀ t ∈ ts, q t) → ∀ o ∈ lowerField role ts, o.Every p
  | [], _ => by simp [lowerField]
  | t :: ts, hts => by
      obtain ⟨ht, hts⟩ := List.forall_mem_cons.mp hts
      unfold lowerField
      split
      · exact every_lower h t ht
      · exact every_lowerField h role ts hts

theorem every_lowerBody (h : Lowers q p) :
    (ts : List Tree) → (∀ t ∈ ts, q t) → ∀ o ∈ lowerBody ts, o.Every p
  | [], _ => by simp [lowerBody]
  | node _ role _ _ children :: ts, hts => by
      obtain ⟨ht, hts⟩ := List.forall_mem_cons.mp hts
      unfold lowerBody
      split
      · exact every_lowerAll h children (h.children ht)
      · exact every_lowerBody h ts hts

end

theorem tag_definitionKind (decorators : List Decorator) (kind : TreeKind) (children : List Tree) :
    (definitionKind decorators kind children).tag ≠ .root := by
  unfold definitionKind
  dsimp only
  split <;> simp [NodeKind.tag]

theorem rootless_lowerAll (ts : List Tree) : ∀ o ∈ lowerAll ts, o.Rootless := by
  have hlowers : Lowers (fun _ => True) (·.tag ≠ .root) :=
    ⟨fun _ _ _ => trivial, fun _ _ _ _ => tag_definitionKind _ _ _,
      fun hother hroot => hother (List.mem_cons.mpr (.inl hroot))⟩
  exact fun o ho => (every_lowerAll hlowers ts (fun _ _ => trivial) o ho).rootless

end Tree

namespace Module

variable {m : Module} {parent : Option Nat} {next i j p : Nat} {o : Outline} {os : List Outline}

/-- An outline is laid out from a position on. -/
def LaysOut (m : Module) (parent : Option Nat) (i : Nat) (o : Outline) : Prop :=
  m.HoldsAt i (o.number parent i)

theorem LaysOut.parent?_eq (h : m.LaysOut parent i o) : m.parent? i = parent := by
  obtain ⟨kind, place, children⟩ := o
  have hnode := (holdsAt_cons.mp h).1
  simp [parent?, hnode]

theorem LaysOut.kind?_eq {kind : NodeKind} {place : Place} {children : List Outline}
    (h : m.LaysOut parent i (.node kind place children)) : m.kind? i = some kind := by
  have hnode := (holdsAt_cons.mp h).1
  simp [kind?, hnode]

theorem LaysOut.children_eq {kind : NodeKind} {place : Place} {children : List Outline}
    (h : m.LaysOut parent i (.node kind place children)) :
    m.children i = Outline.positions (i + 1) children :=
  children_of_node (holdsAt_cons.mp h).1

/-- Outlines that are laid out one after the other start at their positions. -/
theorem exists_laysOut_of_mem_positions (h : m.HoldsAt next (Outline.numberAll parent next os))
    (hi : i ∈ Outline.positions next os) :
    ∃ o, m.LaysOut parent i o ∧ i + o.size ≤ next + Outline.sizeAll os := by
  induction os generalizing next with
  | nil => simp [Outline.positions] at hi
  | cons o os ih =>
      rw [Outline.numberAll, holdsAt_append, Outline.length_number] at h
      rw [Outline.sizeAll]
      rcases List.mem_cons.mp hi with rfl | hi
      · exact ⟨o, h.1, by omega⟩
      · obtain ⟨o', hlaysOut, hle⟩ := ih h.2 hi
        exact ⟨o', hlaysOut, by omega⟩

/-- The outline of a child lies within that of its parent. -/
theorem LaysOut.child (h : m.LaysOut parent i o) (hj : j ∈ m.children i) :
    i < j ∧ ∃ o', m.LaysOut (some i) j o' ∧ j + o'.size ≤ i + o.size := by
  obtain ⟨kind, place, children⟩ := o
  rw [h.children_eq] at hj
  obtain ⟨o', hlaysOut, hle⟩ := exists_laysOut_of_mem_positions (holdsAt_cons.mp h).2 hj
  exact ⟨Outline.le_of_mem_positions hj, o', hlaysOut, by rw [Outline.size]; omega⟩

mutual

/-- A node within an outline other than its first is a child of one before it. -/
theorem LaysOut.exists_parent {m : Module} {parent : Option Nat} {i j : Nat} :
    {o : Outline} → m.LaysOut parent i o → i < j → j < i + o.size →
      ∃ p, i ≤ p ∧ p < j ∧ j ∈ m.children p
  | .node kind place children, h, hlow, hhigh => by
      have hchildren := h.children_eq
      rw [Outline.size] at hhigh
      rcases mem_positions_or_exists_parent (holdsAt_cons.mp h).2 hlow (by omega) with hj | hj
      · exact ⟨i, le_rfl, hlow, hchildren ▸ hj⟩
      · obtain ⟨p, hp, hlt, hmem⟩ := hj
        exact ⟨p, by omega, hlt, hmem⟩

theorem mem_positions_or_exists_parent {m : Module} {parent : Option Nat} {next j : Nat} :
    {os : List Outline} → m.HoldsAt next (Outline.numberAll parent next os) → next ≤ j →
      j < next + Outline.sizeAll os →
      j ∈ Outline.positions next os ∨ ∃ p, next ≤ p ∧ p < j ∧ j ∈ m.children p
  | [], _, hlow, hhigh => by
      rw [Outline.sizeAll] at hhigh
      omega
  | o :: os, h, hlow, hhigh => by
      rw [Outline.numberAll, holdsAt_append, Outline.length_number] at h
      rw [Outline.sizeAll] at hhigh
      rcases hlow.eq_or_lt with rfl | hlow
      · exact .inl List.mem_cons_self
      by_cases hfirst : j < next + o.size
      · exact .inr (LaysOut.exists_parent h.1 hlow hfirst)
      · have hbehind : next + o.size ≤ j := Nat.le_of_not_lt hfirst
        rcases mem_positions_or_exists_parent h.2 hbehind (by omega) with hj | hj
        · exact .inl (List.mem_cons_of_mem _ hj)
        · obtain ⟨p, hp, hlt, hmem⟩ := hj
          exact .inr ⟨p, by omega, hlt, hmem⟩

end

/-- The node at a position and those below it. -/
def Below (m : Module) : Nat → Nat → Prop := Relation.ReflTransGen fun p i => i ∈ m.children p

theorem LaysOut.bounds_of_below (h : m.LaysOut parent i o) (hj : m.Below i j) :
    i ≤ j ∧ j < i + o.size := by
  induction hj using Relation.ReflTransGen.head_induction_on generalizing parent o with
  | refl => exact ⟨le_rfl, Nat.lt_add_of_pos_right o.size_pos⟩
  | head hchild _ ih =>
      obtain ⟨hlt, o', hlaysOut, hle⟩ := h.child hchild
      have hbounds := ih hlaysOut
      omega

/-- The nodes below a node are the positions of its outline. -/
theorem LaysOut.below_iff (h : m.LaysOut parent i o) (j : Nat) :
    m.Below i j ↔ i ≤ j ∧ j < i + o.size := by
  refine ⟨h.bounds_of_below, ?_⟩
  induction j using Nat.strong_induction_on with
  | h j ih =>
      rintro ⟨hlow, hhigh⟩
      rcases hlow.eq_or_lt with rfl | hlow
      · exact Relation.ReflTransGen.refl
      · obtain ⟨p, hp, hlt, hmem⟩ := h.exists_parent hlow hhigh
        exact (ih p hlt ⟨hp, by omega⟩).tail hmem

theorem LaysOut.exists_laysOut (h : m.LaysOut parent i o) (hj : m.Below i j) :
    ∃ parent' o', m.LaysOut parent' j o' ∧ j + o'.size ≤ i + o.size := by
  induction hj with
  | refl => exact ⟨parent, o, h, le_rfl⟩
  | tail _ hchild ih =>
      obtain ⟨parent', o', hlaysOut, hle⟩ := ih
      obtain ⟨-, o'', hchild, hle'⟩ := hlaysOut.child hchild
      exact ⟨_, o'', hchild, by omega⟩

theorem lt_size_of_mem_children (h : i ∈ m.children p) : p < m.nodes.size := by
  by_contra hp
  simp [children, Array.getElem?_eq_none (Nat.le_of_not_lt hp)] at h

theorem lt_size_of_parent? (h : m.parent? i = some p) : i < m.nodes.size := by
  by_contra hi
  simp [parent?, Array.getElem?_eq_none (Nat.le_of_not_lt hi)] at h

/-! ## The tree of a module -/

/-- The nodes are those of an outline, laid out from the root on. -/
def Outlined (m : Module) (o : Outline) : Prop := m.nodes = (o.number none root).toArray

namespace Outlined

theorem size_eq (h : m.Outlined o) : m.nodes.size = o.size := by
  rw [h, List.size_toArray, Outline.length_number]

theorem laysOut (h : m.Outlined o) : m.LaysOut none root o := by
  intro i node hi
  rw [h, root, Nat.zero_add, List.getElem?_toArray]
  exact hi

theorem below_root (h : m.Outlined o) (hi : i < m.nodes.size) : m.Below root i := by
  refine (h.laysOut.below_iff i).mpr ⟨Nat.zero_le i, ?_⟩
  rwa [root, Nat.zero_add, ← h.size_eq]

theorem exists_laysOut (h : m.Outlined o) (hi : i < m.nodes.size) :
    ∃ parent o', m.LaysOut parent i o' ∧ i + o'.size ≤ m.nodes.size := by
  obtain ⟨parent, o', hlaysOut, hle⟩ := h.laysOut.exists_laysOut (h.below_root hi)
  refine ⟨parent, o', hlaysOut, ?_⟩
  rwa [root, Nat.zero_add, ← h.size_eq] at hle

theorem parent?_of_mem_children (h : m.Outlined o) (hi : i ∈ m.children p) :
    p < i ∧ m.parent? i = some p := by
  obtain ⟨parent, o', hlaysOut, -⟩ := h.exists_laysOut (lt_size_of_mem_children hi)
  obtain ⟨hlt, o'', hchild, -⟩ := hlaysOut.child hi
  exact ⟨hlt, hchild.parent?_eq⟩

theorem exists_mem_children (h : m.Outlined o) (hi : i < m.nodes.size) (hroot : i ≠ root) :
    ∃ p, i ∈ m.children p := by
  rw [h.size_eq, ← Nat.zero_add o.size] at hi
  obtain ⟨p, -, -, hp⟩ := h.laysOut.exists_parent (Nat.pos_of_ne_zero hroot) hi
  exact ⟨p, hp⟩

theorem mem_children_iff (h : m.Outlined o) : i ∈ m.children p ↔ m.parent? i = some p := by
  refine ⟨fun hi => (h.parent?_of_mem_children hi).2, fun hp => ?_⟩
  have hroot : i ≠ root := by
    rintro rfl
    rw [h.laysOut.parent?_eq] at hp
    contradiction
  obtain ⟨q, hq⟩ := h.exists_mem_children (lt_size_of_parent? hp) hroot
  have heq := (h.parent?_of_mem_children hq).2
  rw [hp, Option.some.injEq] at heq
  rwa [heq]

theorem lt_of_parent? (h : m.Outlined o) (hp : m.parent? i = some p) : p < i :=
  (h.parent?_of_mem_children (h.mem_children_iff.mpr hp)).1

theorem pairwise_children (h : m.Outlined o) (p : Nat) : (m.children p).Pairwise (· < ·) := by
  by_cases hp : p < m.nodes.size
  · obtain ⟨parent, ⟨kind, place, children⟩, hlaysOut, -⟩ := h.exists_laysOut hp
    rw [hlaysOut.children_eq]
    exact Outline.pairwise_positions _ _
  · have hnil : m.children p = [] :=
      List.eq_nil_iff_forall_not_mem.mpr fun i hi => hp (lt_size_of_mem_children hi)
    rw [hnil]
    exact List.Pairwise.nil

theorem nodup_children (h : m.Outlined o) (n : Nat) :
    ((List.range n).flatMap m.children).Nodup := by
  refine List.nodup_flatMap.mpr ⟨fun p _ => (h.pairwise_children p).imp Nat.ne_of_lt, ?_⟩
  refine (List.nodup_range (n := n)).imp fun {p q} hne => ?_
  intro i hp hq
  have hp := h.mem_children_iff.mp hp
  have hq := h.mem_children_iff.mp hq
  exact hne (Option.some.inj (hp.symm.trans hq))

theorem count_children (h : m.Outlined o) (hi : i < m.nodes.size) (hroot : i ≠ root) :
    ((List.range m.nodes.size).flatMap m.children).count i = 1 := by
  obtain ⟨p, hp⟩ := h.exists_mem_children hi hroot
  have hmem : i ∈ (List.range m.nodes.size).flatMap m.children :=
    List.mem_flatMap.mpr ⟨p, List.mem_range.mpr (lt_size_of_mem_children hp), hp⟩
  exact List.count_eq_one_of_mem (h.nodup_children _) hmem

end Outlined

/-- The nodes form a tree, numbered from its root in the order of the source. -/
structure OrderedTree (m : Module) : Prop where
  root_iff : ∀ i, (∃ doc, m.kind? i = some (.root doc)) ↔ i = root
  parent_root : m.parent? root = none
  exists_parent : ∀ i < m.nodes.size, i ≠ root → ∃ p < i, m.parent? i = some p
  mem_children_iff : ∀ p i, i ∈ m.children p ↔ m.parent? i = some p
  /-- No node is a child twice. -/
  count_children : ∀ i < m.nodes.size, i ≠ root →
    ((List.range m.nodes.size).flatMap m.children).count i = 1
  increasing : ∀ p, (m.children p).Pairwise (· < ·)
  /-- A node and those below it stand next to each other. -/
  below_iff : ∀ i < m.nodes.size, ∃ stop ≤ m.nodes.size, ∀ j, m.Below i j ↔ i ≤ j ∧ j < stop

theorem Outlined.root_iff {doc : Option Docstring} {place : Place} {children : List Outline}
    (h : m.Outlined (.node (.root doc) place children)) (hchildren : ∀ o ∈ children, o.Rootless)
    (i : Nat) : (∃ doc, m.kind? i = some (.root doc)) ↔ i = root := by
  constructor
  · rintro ⟨doc', hkind⟩
    by_contra hroot
    obtain ⟨i, rfl⟩ := Nat.exists_eq_succ_of_ne_zero hroot
    have hnodes : m.nodes[i + 1]? = (Outline.numberAll (some root) (root + 1) children)[i]? := by
      rw [h, Outline.number]
      simp
    rw [kind?, Nat.succ_eq_add_one, hnodes, Option.map_eq_some_iff] at hkind
    obtain ⟨node, hnode, hkind⟩ := hkind
    have htag := Outline.of_mem_numberAll (fun o ho => (hchildren o ho).every)
      (List.mem_of_getElem? hnode)
    rw [hkind] at htag
    exact htag rfl
  · rintro rfl
    exact ⟨doc, h.laysOut.kind?_eq⟩

theorem Outlined.orderedTree {doc : Option Docstring} {place : Place} {children : List Outline}
    (h : m.Outlined (.node (.root doc) place children))
    (hchildren : ∀ o ∈ children, o.Rootless) : m.OrderedTree where
  root_iff := h.root_iff hchildren
  parent_root := h.laysOut.parent?_eq
  exists_parent i hi hroot := by
    obtain ⟨p, hp⟩ := h.exists_mem_children hi hroot
    exact ⟨p, h.parent?_of_mem_children hp⟩
  mem_children_iff p i := h.mem_children_iff
  count_children i hi hroot := h.count_children hi hroot
  increasing := h.pairwise_children
  below_iff i hi := by
    obtain ⟨parent, o, hlaysOut, hle⟩ := h.exists_laysOut hi
    exact ⟨i + o.size, hle, hlaysOut.below_iff⟩

/-! ## Ancestors -/

/-- The ancestors of a node lead from parent to parent up to the module itself, which has none. -/
structure LeadsToRoot (m : Module) (i : Nat) : Prop where
  chain : (i :: m.ancestors i).IsChain fun i p => m.parent? i = some p
  decreasing : (i :: m.ancestors i).Pairwise (· > ·)
  last : (i :: m.ancestors i).getLast? = some root

/-- A bound that is not below the position cuts nothing off. -/
theorem Outlined.ancestorsWithin_eq (h : m.Outlined o) {bound bound' : Nat} (hi : i ≤ bound)
    (hi' : i ≤ bound') : m.ancestorsWithin bound i = m.ancestorsWithin bound' i := by
  induction bound generalizing i bound' with
  | zero =>
      obtain rfl : i = root := Nat.le_zero.mp hi
      cases bound' with
      | zero => rfl
      | succ bound' => simp [ancestorsWithin, h.laysOut.parent?_eq]
  | succ bound ih =>
      cases bound' with
      | zero =>
          obtain rfl : i = root := Nat.le_zero.mp hi'
          simp [ancestorsWithin, h.laysOut.parent?_eq]
      | succ bound' =>
          rw [ancestorsWithin, ancestorsWithin]
          cases hp : m.parent? i with
          | none => rfl
          | some p =>
              have hlt := h.lt_of_parent? hp
              dsimp only
              rw [ih (by omega) (by omega : p ≤ bound')]

theorem Outlined.ancestors_of_parent? (h : m.Outlined o) (hp : m.parent? i = some p) :
    m.ancestors i = p :: m.ancestors p := by
  have hlt := h.lt_of_parent? hp
  rw [ancestors, h.ancestorsWithin_eq le_rfl (Nat.le_succ i), ancestorsWithin, hp]
  dsimp only
  rw [ancestors, h.ancestorsWithin_eq hlt.le le_rfl]

theorem Outlined.leadsToRoot (h : m.Outlined o) (hi : i < m.nodes.size) : m.LeadsToRoot i := by
  induction i using Nat.strong_induction_on with
  | h i ih =>
      by_cases hroot : i = root
      · subst hroot
        exact ⟨List.isChain_singleton _, List.pairwise_singleton _ _, rfl⟩
      obtain ⟨p, hchild⟩ := h.exists_mem_children hi hroot
      obtain ⟨hlt, hp⟩ := h.parent?_of_mem_children hchild
      have hparent := ih p hlt (hlt.trans hi)
      have hancestors := h.ancestors_of_parent? hp
      refine ⟨?_, ?_, ?_⟩
      · rw [hancestors]
        exact List.isChain_cons_cons.mpr ⟨hp, hparent.chain⟩
      · rw [hancestors]
        refine List.Pairwise.cons ?_ hparent.decreasing
        intro a ha
        rcases List.mem_cons.mp ha with rfl | ha
        · exact hlt
        · exact (List.rel_of_pairwise_cons hparent.decreasing ha).trans hlt
      · rw [hancestors, List.getLast?_cons_cons]
        exact hparent.last

/-- The module of a syntax tree is an ordered tree, whatever the shape of the syntax tree. -/
theorem orderedTree_ofTree (name : String) (path : Path) (source : Text) (tree : Tree) :
    let m := ofTree name path source tree
    m.OrderedTree ∧ ∀ i < m.nodes.size, m.LeadsToRoot i := by
  intro m
  have houtlined : m.Outlined tree.outline := rfl
  exact ⟨houtlined.orderedTree (Tree.rootless_lowerAll tree.children),
    fun i hi => houtlined.leadsToRoot hi⟩

end Module

end CodingStandard
