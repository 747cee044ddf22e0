import CodingStandard.Proofs.OrderedTree

namespace CodingStandard

/-!
# What a source is lowered to

A construct is transparent or makes a node, and lowering goes on to some of the trees in it. Every
construct that it comes to makes its nodes within those of the trees around it, so they have their
positions in the module.
-/

namespace Tree

/-- The trees in a definition that lowering goes on to: its base classes or parameters, and the
statements of its body. -/
def definitionParts (t : Tree) : List Tree :=
  (field? (hoistedRole t.kind) t.children).toList ++
    (field? .body t.children).elim [] children

/-- The trees in a tree that lowering goes on to. -/
def loweredParts : Tree → List Tree
  | node kind role place text children =>
    match kind with
    | .decorated => (children.filter (·.kind == .decorator)).flatMap Tree.children ++
        (field? .definition children).elim [] definitionParts
    | .classDefinition => definitionParts (node kind role place text children)
    | .functionDefinition => definitionParts (node kind role place text children)
    | .importStatement => []
    | .importFrom => []
    | .futureImport => []
    | .comment => []
    | _ => children

/-- Lowering a source comes to a construct. -/
def LowersTo (t s : Tree) : Prop :=
  ∃ first ∈ t.children, Relation.ReflTransGen (fun t s => s ∈ t.loweredParts) first s

end Tree

namespace Outline

def children : Outline → List Outline
  | node _ _ children => children

/-- An outline is among others or within one of them. -/
def Within (os : List Outline) (o : Outline) : Prop :=
  ∃ first ∈ os, Relation.ReflTransGen (fun o o' => o' ∈ o.children) first o

variable {os os' : List Outline} {o : Outline}

theorem within_of_mem (h : o ∈ os) : Within os o := ⟨o, h, .refl⟩

theorem Within.mono (hsub : os ⊆ os') (h : Within os o) : Within os' o := by
  obtain ⟨first, hfirst, hsteps⟩ := h
  exact ⟨first, hsub hfirst, hsteps⟩

theorem Within.trans (h : Within os' o) (hos : ∀ o ∈ os', Within os o) : Within os o := by
  obtain ⟨first, hfirst, hsteps⟩ := h
  obtain ⟨start, hstart, hsteps'⟩ := hos first hfirst
  exact ⟨start, hstart, hsteps'.trans hsteps⟩

theorem within_node {kind : NodeKind} {place : Place} (h : o ∈ os)
    (hnode : .node kind place os ∈ os') : Within os' o :=
  ⟨_, hnode, .single h⟩

end Outline

namespace Tree

variable {t s : Tree} {ts : List Tree} {o : Outline}

theorem field?_cons (role : Role) (t : Tree) (ts : List Tree) :
    field? role (t :: ts) = if t.role = role then some t else field? role ts := by
  rw [field?, List.find?_cons]
  by_cases h : t.role = role
  · rw [if_pos h, beq_iff_eq.mpr h]
  · rw [if_neg h, beq_eq_false_iff_ne.mpr h, field?]

theorem mem_lowerAll : o ∈ lowerAll ts ↔ ∃ t ∈ ts, o ∈ t.lower := by
  induction ts with
  | nil => simp [lowerAll]
  | cons t ts ih => simp [lowerAll, ih]

theorem mem_lowerDecorators : o ∈ lowerDecorators ts ↔
    ∃ d ∈ ts, d.kind = .decorator ∧ o ∈ lowerAll d.children := by
  induction ts with
  | nil => simp [lowerDecorators]
  | cons d ts ih =>
      obtain ⟨kind, role, place, text, children⟩ := d
      rw [lowerDecorators]
      split <;> simp_all [Tree.kind, Tree.children]

/-- A search through some trees for the first one in a role finds what `field?` finds. -/
theorem search_eq {α : Type} {search : List Tree → α} {found : Tree → α} {missing : α} {role : Role}
    (hnil : search [] = missing)
    (hcons : ∀ t rest, search (t :: rest) = if t.role = role then found t else search rest)
    (ts : List Tree) : search ts = (field? role ts).elim missing found := by
  induction ts with
  | nil => exact hnil
  | cons t rest ih =>
      rw [hcons, field?_cons]
      split
      · rfl
      · exact ih

theorem lowerField_eq (role : Role) (ts : List Tree) :
    lowerField role ts = (field? role ts).elim [] lower := by
  refine search_eq ?_ (fun t rest => ?_) ts
  · rw [lowerField]
  · rw [lowerField]

theorem lowerBody_eq (ts : List Tree) :
    lowerBody ts = (field? .body ts).elim [] fun t => lowerAll t.children := by
  refine search_eq ?_ (fun ⟨_, _, _, _, _⟩ rest => ?_) ts
  · rw [lowerBody]
  · rw [lowerBody]; rfl

/-- A definition, with the decorators given to it, and what is hoisted out of it. -/
def lowerDefined (decorators : List Decorator) (t : Tree) : List Outline :=
  lowerField (hoistedRole t.kind) t.children ++
    [.node (definitionKind decorators t.kind t.children) t.place (lowerBody t.children)]

theorem lowerDefinition_eq (decorators : List Decorator) (ts : List Tree) :
    lowerDefinition decorators ts = (field? .definition ts).elim [] (lowerDefined decorators) := by
  refine search_eq ?_ (fun ⟨_, _, _, _, _⟩ rest => ?_) ts
  · rw [lowerDefinition]
  · rw [lowerDefinition]; rfl

open Outline in
theorem within_lowerDefined (decorators : List Decorator) (hs : s ∈ t.definitionParts)
    (ho : o ∈ s.lower) : Within (lowerDefined decorators t) o := by
  rw [lowerDefined, lowerField_eq, lowerBody_eq]
  rcases List.mem_append.mp hs with hs | hs
  · rw [Option.mem_toList] at hs
    rw [hs]
    exact within_of_mem (List.mem_append_left _ ho)
  · cases hbody : field? .body t.children with
    | none => simp [hbody] at hs
    | some body =>
        rw [hbody] at hs
        exact within_node (mem_lowerAll.mpr ⟨s, hs, ho⟩)
          (List.mem_append_right _ (List.mem_singleton_self _))

theorem within_lower (hs : s ∈ t.loweredParts) (ho : o ∈ s.lower) : Outline.Within t.lower o := by
  obtain ⟨kind, role, place, text, children⟩ := t
  have hall (h : s ∈ children) : o ∈ lowerAll children := mem_lowerAll.mpr ⟨s, h, ho⟩
  cases kind with
  | decorated =>
      rcases List.mem_append.mp hs with hs | hs
      · obtain ⟨d, hd, hs⟩ := List.mem_flatMap.mp hs
        rw [List.mem_filter, beq_iff_eq] at hd
        refine Outline.within_of_mem (List.mem_append_left _ (mem_lowerDecorators.mpr ?_))
        exact ⟨d, hd.1, hd.2, mem_lowerAll.mpr ⟨s, hs, ho⟩⟩
      · cases hdefinition : field? .definition children with
        | none => simp [hdefinition] at hs
        | some d =>
            rw [hdefinition] at hs
            refine (within_lowerDefined (decorators children) hs ho).mono ?_
            rw [lower, lowerDefinition_eq, hdefinition]
            exact List.subset_append_right _ _
  | classDefinition | functionDefinition =>
      exact within_lowerDefined [] hs ho
  | importStatement | importFrom | futureImport | comment => cases hs
  | returnStatement | assignment | compound | exceptClause | printStatement =>
      exact Outline.within_node (hall hs) (List.mem_singleton_self _)
  | binaryOperator | call =>
      unfold lower
      dsimp only
      split
      · exact Outline.within_node (hall hs) (List.mem_singleton_self _)
      · exact Outline.within_of_mem (hall hs)
  | _ => exact Outline.within_of_mem (hall hs)

theorem LowersTo.within (h : t.LowersTo s) (ho : o ∈ s.lower) :
    Outline.Within (lowerAll t.children) o := by
  obtain ⟨first, hfirst, hsteps⟩ := h
  induction hsteps generalizing o with
  | refl => exact Outline.within_of_mem (mem_lowerAll.mpr ⟨first, hfirst, ho⟩)
  | tail _ hstep ih => exact (within_lower hstep ho).trans fun o ho => ih ho

end Tree

namespace Module

variable {m : Module} {parent : Option Nat} {i next : Nat} {o o' : Outline}
  {os : List Outline}

/-! ## Positions of outlines -/

/-- A tree is lowered to one outline, which is laid out from a position on. -/
def Lowered (m : Module) (t : Tree) (i : Nat) : Prop :=
  ∃ parent o, t.lower = [o] ∧ m.LaysOut parent i o

theorem exists_position_of_mem (h : m.HoldsAt next (Outline.numberAll parent next os))
    (ho : o ∈ os) : ∃ j ∈ Outline.positions next os, m.LaysOut parent j o := by
  induction os generalizing next with
  | nil => cases ho
  | cons first os ih =>
      rw [Outline.numberAll, holdsAt_append, Outline.length_number] at h
      rcases List.mem_cons.mp ho with rfl | ho
      · exact ⟨next, List.mem_cons_self, h.1⟩
      · obtain ⟨j, hj, hlaysOut⟩ := ih h.2 ho
        exact ⟨j, List.mem_cons_of_mem _ hj, hlaysOut⟩

theorem LaysOut.exists_child (h : m.LaysOut parent i o) (ho : o' ∈ o.children) :
    ∃ j ∈ m.children i, m.LaysOut (some i) j o' := by
  obtain ⟨kind, place, children⟩ := o
  rw [h.children_eq]
  exact exists_position_of_mem (holdsAt_cons.mp h).2 ho

theorem LaysOut.exists_within (h : m.LaysOut parent i o) (ho : Outline.Within o.children o') :
    ∃ parent j, m.LaysOut parent j o' := by
  obtain ⟨first, hfirst, hsteps⟩ := ho
  induction hsteps with
  | refl =>
      obtain ⟨j, -, hlaysOut⟩ := h.exists_child hfirst
      exact ⟨_, j, hlaysOut⟩
  | tail _ hstep ih =>
      obtain ⟨parent, j, hlaysOut⟩ := ih
      obtain ⟨k, -, hchild⟩ := hlaysOut.exists_child hstep
      exact ⟨_, k, hchild⟩

end Module

end CodingStandard
