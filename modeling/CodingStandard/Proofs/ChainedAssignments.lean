import CodingStandard.Proofs.Bindings
import CodingStandard.Proofs.Lowering
import CodingStandard.Proofs.Scoping
import Mathlib.Data.List.Flatten

namespace CodingStandard

/-!
# Chained assignments

An assignment to several targets is lowered to one node for each target, every one inside the one
before it, and all with the value at the end. The names of a target are found in its expression, and
the nodes are found on the way down from their scope.
-/

namespace Tree

variable {t target value : Tree} {targets : List Tree}

/-! ## Assignments in a syntax tree -/

/-- A statement that assigns one value to some targets, from the left to the right. -/
inductive Assigns : Tree → (targets : List Tree) → (value : Tree) → Prop where
  | last {role : Role} {place : Place} {text : Text} {children : List Tree} {target value : Tree}
      (hleft : field? .left children = some target)
      (hright : field? .right children = some value) (hvalue : value.kind ≠ .assignment) :
      Assigns (.node .assignment role place text children) [target] value
  | chain {role : Role} {place : Place} {text : Text} {children : List Tree}
      {target rest value : Tree} {targets : List Tree}
      (hleft : field? .left children = some target)
      (hright : field? .right children = some rest) (h : rest.Assigns targets value) :
      Assigns (.node .assignment role place text children) (target :: targets) value

mutual

/-- The plain names in a target, through tuples, lists and parentheses. -/
def plainNames : Tree → List String
  | node kind _ _ text children =>
    match kind with
    | .identifier => [String.ofList text]
    | .tuple => plainNamesAll children
    | .expressionList => plainNamesAll children
    | .patternList => plainNamesAll children
    | .tuplePattern => plainNamesAll children
    | .list => plainNamesAll children
    | .listPattern => plainNamesAll children
    | .parenthesized => plainNamesFirst children
    | _ => []

def plainNamesAll : List Tree → List String
  | [] => []
  | t :: rest =>
    if t.kind = .token ∨ t.kind = .comment then plainNamesAll rest
    else t.plainNames ++ plainNamesAll rest

def plainNamesFirst : List Tree → List String
  | [] => []
  | t :: rest =>
    if t.kind = .token ∨ t.kind = .comment then plainNamesFirst rest else t.plainNames

end

mutual

theorem boundNames_expr : (t : Tree) → t.expr.boundNames = t.plainNames
  | node kind role place text children => by
      have hall := boundNamesAll_exprs children
      have hfirst := boundNames_firstExpr children
      cases kind with
      | member | call =>
          unfold expr
          dsimp only
          split <;> rfl
      | parenthesized =>
          rw [plainNames, ← hfirst]
          unfold expr
          dsimp only
          split
          · next h => rw [h]; rfl
          · next h => rw [h]; rfl
      | tuple | expressionList | patternList | tuplePattern | list | listPattern => exact hall
      | _ => rfl

theorem boundNamesAll_exprs : (ts : List Tree) → Expr.boundNamesAll (exprs ts) = plainNamesAll ts
  | [] => rfl
  | t :: rest => by
      have hrest := boundNamesAll_exprs rest
      rw [exprs, plainNamesAll]
      split
      · exact hrest
      · rw [Expr.boundNamesAll, boundNames_expr t, hrest]

theorem boundNames_firstExpr : (ts : List Tree) →
    ((firstExpr ts).map Expr.boundNames).getD [] = plainNamesFirst ts
  | [] => rfl
  | t :: rest => by
      have hrest := boundNames_firstExpr rest
      rw [firstExpr, plainNamesFirst]
      split
      · exact hrest
      · exact boundNames_expr t

end

theorem exprIn_eq (role : Role) (ts : List Tree) :
    exprIn role ts = (field? role ts).elim none fun t => some t.expr := by
  refine search_eq ?_ (fun t rest => ?_) ts
  · rw [exprIn]
  · rw [exprIn]

theorem finalValue_eq (ts : List Tree) : finalValue ts = (field? .right ts).elim none fun t =>
    if t.kind = .assignment then finalValue t.children else some t.expr := by
  refine search_eq ?_ (fun ⟨_, _, _, _, _⟩ rest => ?_) ts
  · rw [finalValue]
  · rw [finalValue]; rfl

theorem Assigns.kind_eq (h : t.Assigns targets value) : t.kind = .assignment := by
  cases h <;> rfl

/-- Every assignment of a chain has the value at its end. -/
theorem Assigns.finalValue_eq (h : t.Assigns targets value) :
    finalValue t.children = some value.expr := by
  induction h with
  | last _ hright hvalue =>
      rw [Tree.children, Tree.finalValue_eq, hright, Option.elim_some, if_neg hvalue]
  | chain _ hright h ih =>
      rw [Tree.children, Tree.finalValue_eq, hright, Option.elim_some, if_pos h.kind_eq, ih]

theorem lower_of_assignment (ht : t.kind = .assignment) : t.lower =
    [.node (.assign ⟨(exprIn .left t.children).toList, finalValue t.children⟩) t.place
      (lowerAll t.children)] := by
  obtain ⟨kind, role, place, text, children⟩ := t
  obtain rfl : kind = .assignment := ht
  rfl

end Tree

namespace Module

variable {m : Module} {tree t s target value : Tree} {targets : List Tree}
  {i j depth depth' : Nat} {o : Outline}

/-! ## The bindings at a node -/

theorem sublist_flatMap_of_mem {α β : Type} {a : α} {as : List α} (f : α → List β) (h : a ∈ as) :
    (f a).Sublist (as.flatMap f) := by
  rw [← List.flatMap_singleton f a]
  exact (List.singleton_sublist.mpr h).flatMap f

theorem bindingsAt_of_size_le (hi : m.nodes.size ≤ i) (depth : Nat) :
    m.bindingsAt depth i = [] := by
  cases depth with
  | zero => rfl
  | succ depth => simp [bindingsAt, ownBindings, kind?, children, Array.getElem?_eq_none hi]

/-- No binding lies so deep that it is cut off. -/
theorem Outlined.bindingsAt_eq (h : m.Outlined o) (hdepth : m.nodes.size ≤ i + depth)
    (hdepth' : m.nodes.size ≤ i + depth') : m.bindingsAt depth i = m.bindingsAt depth' i := by
  induction depth generalizing i depth' with
  | zero =>
      rw [Nat.add_zero] at hdepth
      rw [bindingsAt_of_size_le hdepth, bindingsAt_of_size_le hdepth]
  | succ depth ih =>
      cases depth' with
      | zero =>
          rw [Nat.add_zero] at hdepth'
          rw [bindingsAt_of_size_le hdepth', bindingsAt_of_size_le hdepth']
      | succ depth' =>
          have hinside : (m.children i).flatMap (m.bindingsAt depth) =
              (m.children i).flatMap (m.bindingsAt depth') := by
            refine List.flatMap_congr fun j hj => ?_
            have hlt := (h.parent?_of_mem_children hj).1
            exact ih (by omega) (by omega)
          rw [bindingsAt, bindingsAt, hinside]

/-- The bindings of a node and of what lies in it, down to the classes and functions. -/
def bindingsFrom (m : Module) (id : Nat) : List Binding := m.bindingsAt m.nodes.size id

theorem Outlined.bindingsFrom_eq (h : m.Outlined o) (i : Nat) : m.bindingsFrom i =
    m.ownBindings i ++ (if m.isKind (fun k => k.isClass || k.isFunction) i then []
      else (m.children i).flatMap m.bindingsFrom) := by
  have hdepth : m.bindingsFrom i = m.bindingsAt (m.nodes.size + 1) i :=
    h.bindingsAt_eq (by omega) (by omega)
  rw [hdepth, bindingsAt]
  rfl

theorem Outlined.bindingsFrom_sublist (h : m.Outlined o) (hj : j ∈ m.children i)
    (hi : ¬ m.isKind (fun k => k.isClass || k.isFunction) i = true) :
    (m.bindingsFrom j).Sublist (m.bindingsFrom i) := by
  rw [h.bindingsFrom_eq i, if_neg hi]
  exact (sublist_flatMap_of_mem m.bindingsFrom hj).trans (List.sublist_append_right _ _)

/-- What a node binds is bound in its scope, in the same order. -/
theorem Outlined.bindingsFrom_sublist_bindings (h : m.Outlined tree.outline)
    (hi : i < m.nodes.size) (hroot : i ≠ root) :
    (m.bindingsFrom i).Sublist (m.bindings (m.scope i)) := by
  induction i using Nat.strong_induction_on with
  | h i ih =>
      obtain ⟨p, hchild⟩ := h.exists_mem_children hi hroot
      rw [h.scope_of_mem_children hchild]
      by_cases hscope : m.isKind NodeKind.isScope p = true
      · rw [innerScope_of_isScope hscope]
        exact (sublist_flatMap_of_mem m.bindingsFrom hchild).trans (List.sublist_append_right _ _)
      · have hp : p ≠ root := fun hp => hscope (h.isScope_iff.mpr (.inl hp))
        have hopen : ¬ m.isKind (fun k => k.isClass || k.isFunction) p = true := by
          rw [isKind_or]
          rintro (hclass | hfunction)
          · exact hscope (isScope_of_isClass hclass)
          · exact hscope (isScope_of_isFunction hfunction)
        rw [innerScope_of_not_isScope hscope]
        have hlt := (h.parent?_of_mem_children hchild).1
        exact (h.bindingsFrom_sublist hchild hopen).trans (ih p hlt (hlt.trans hi) hp)

/-! ## The bindings of a chain -/

theorem Lowered.kind?_eq (h : m.Lowered t i) (ht : t.kind = .assignment) : m.kind? i =
    some (.assign ⟨(Tree.exprIn .left t.children).toList, Tree.finalValue t.children⟩) := by
  obtain ⟨parent, o, hlower, hlaysOut⟩ := h
  rw [Tree.lower_of_assignment ht, List.singleton_inj] at hlower
  subst hlower
  exact hlaysOut.kind?_eq

theorem Lowered.kind?_of_assigns (h : m.Lowered t i) (ht : t.Assigns (target :: targets) value) :
    m.kind? i = some (.assign ⟨[target.expr], some value.expr⟩) := by
  have hleft : Tree.field? .left t.children = some target := by
    cases ht <;> assumption
  rw [h.kind?_eq ht.kind_eq, Tree.exprIn_eq, hleft, ht.finalValue_eq, Option.elim_some,
    Option.toList_some]

theorem Lowered.exists_child (h : m.Lowered t i) (ht : t.kind = .assignment)
    (hs : s ∈ t.children) (hkind : s.kind = .assignment) : ∃ j ∈ m.children i, m.Lowered s j := by
  obtain ⟨parent, o, hlower, hlaysOut⟩ := h
  rw [Tree.lower_of_assignment ht, List.singleton_inj] at hlower
  subst hlower
  have hlower := Tree.lower_of_assignment hkind
  obtain ⟨j, hj, hchild⟩ := hlaysOut.exists_child
    (Tree.mem_lowerAll.mpr ⟨s, hs, hlower ▸ List.mem_singleton_self _⟩)
  exact ⟨j, hj, _, _, hlower, hchild⟩

/-- What a binding tells, and what its node is. -/
def introduction (m : Module) (b : Binding) : String × BindingKind × Option NodeKind :=
  (b.name, b.kind, m.kind? b.node)

theorem map_ownBindings_assign {e : Option Expr}
    (h : m.kind? i = some (.assign ⟨[target.expr], e⟩)) :
    (m.ownBindings i).map m.introduction =
      target.plainNames.map fun name => (name, .assign, some (.assign ⟨[target.expr], e⟩)) := by
  have hnames : Assign.names ⟨[target.expr], e⟩ = target.plainNames := by
    rw [Assign.names, Expr.boundNamesAll, Expr.boundNamesAll, List.append_nil,
      Tree.boundNames_expr]
  simp [ownBindings, h, namesBoundBy, hnames, introduction]

theorem Outlined.bindingsFrom_assign (h : m.Outlined o) {a : Assign}
    (hi : m.kind? i = some (.assign a)) :
    m.bindingsFrom i = m.ownBindings i ++ (m.children i).flatMap m.bindingsFrom := by
  rw [h.bindingsFrom_eq, if_neg]
  simp [isKind, hi, NodeKind.isClass, NodeKind.isFunction, NodeKind.class?, NodeKind.function?]

theorem Outlined.exists_sublist_bindingsFrom (h : m.Outlined o) (ht : t.Assigns targets value)
    (hlowered : m.Lowered t i) : ∃ found : List Binding, found.Sublist (m.bindingsFrom i) ∧
      (∀ b ∈ found, m.Below i b.node) ∧
      found.map m.introduction = targets.flatMap fun target => target.plainNames.map fun name =>
        (name, .assign, some (.assign ⟨[target.expr], some value.expr⟩)) := by
  have hown (i : Nat) : ∀ b ∈ m.ownBindings i, m.Below i b.node := by
    intro b hb
    rw [node_of_mem_ownBindings hb]
    exact .refl
  induction ht generalizing i with
  | last hleft hright hlast =>
      have hkind := hlowered.kind?_of_assigns (.last hleft hright hlast)
      refine ⟨m.ownBindings i, ?_, hown i, ?_⟩
      · rw [h.bindingsFrom_assign hkind]
        exact List.sublist_append_left _ _
      · rw [map_ownBindings_assign hkind, List.flatMap_singleton]
  | chain hleft hright hrest ih =>
      have hkind := hlowered.kind?_of_assigns (.chain hleft hright hrest)
      -- The rest of the chain hangs on the node, so what it binds comes behind its own names.
      obtain ⟨j, hj, hlowered⟩ :=
        hlowered.exists_child rfl (List.mem_of_find?_eq_some hright) hrest.kind_eq
      obtain ⟨found, hfound, hbelow, hmap⟩ := ih hlowered
      refine ⟨m.ownBindings i ++ found, ?_, ?_, ?_⟩
      · rw [h.bindingsFrom_assign hkind]
        exact (hfound.trans (sublist_flatMap_of_mem m.bindingsFrom hj)).append_left _
      · exact List.forall_mem_append.mpr ⟨hown i, fun b hb => .head hj (hbelow b hb)⟩
      · rw [List.map_append, map_ownBindings_assign hkind, hmap, List.flatMap_cons]

/-- An assignment to several targets binds the plain names of all of them in its scope, from the
left to the right. The nodes that bind them are its own, and each has the value at the end. -/
theorem bindings_of_assigns (name : String) (path : Path) (source : Text) (tree : Tree)
    {statement value : Tree} {targets : List Tree} (h : statement.Assigns targets value) :
    let m := ofTree name path source tree
    (tree.LowersTo statement → ∃ i, m.Lowered statement i) ∧
      ∀ i, m.Lowered statement i → ∃ found : List Binding,
        found.Sublist (m.bindings (m.scope i)) ∧ (∀ b ∈ found, m.Below i b.node) ∧
          found.map m.introduction = targets.flatMap fun target =>
            target.plainNames.map fun name =>
              (name, .assign, some (.assign ⟨[target.expr], some value.expr⟩)) := by
  intro m
  have houtlined : m.Outlined tree.outline := rfl
  constructor
  · intro hlowers
    have hlower := Tree.lower_of_assignment h.kind_eq
    obtain ⟨parent, i, hlaysOut⟩ := houtlined.laysOut.exists_within
      (hlowers.within (hlower ▸ List.mem_singleton_self _))
    exact ⟨i, parent, _, hlower, hlaysOut⟩
  · intro i hi
    have hkind := hi.kind?_eq h.kind_eq
    have hroot : i ≠ root := by
      rintro rfl
      cases houtlined.laysOut.kind?_eq.symm.trans hkind
    have hnode : m.isKind (fun _ => true) i = true := by simp [isKind, hkind]
    have hscope := houtlined.bindingsFrom_sublist_bindings (lt_size_of_isKind hnode) hroot
    obtain ⟨found, hfound, hbelow, hmap⟩ := houtlined.exists_sublist_bindingsFrom h hi
    exact ⟨found, hfound.trans hscope, hbelow, hmap⟩

/-- The target `a, (b, *c)`. -/
def pairTarget : Tree :=
  .node .patternList .left ⟨2, 4⟩ "a, (b, *c)".toList
    [.node .identifier .plain ⟨2, 4⟩ "a".toList [], .node .token .plain ⟨2, 5⟩ ",".toList [],
      .node .tuplePattern .plain ⟨2, 7⟩ "(b, *c)".toList
        [.node .identifier .plain ⟨2, 8⟩ "b".toList [],
          .node .listSplatPattern .plain ⟨2, 11⟩ "*c".toList
            [.node .identifier .plain ⟨2, 12⟩ "c".toList []]]]

/-- The target `[d]`. -/
def listTarget : Tree :=
  .node .listPattern .left ⟨2, 17⟩ "[d]".toList [.node .identifier .plain ⟨2, 18⟩ "d".toList []]

def emptyDict : Tree := .node .dictionary .right ⟨2, 23⟩ "\x7b\x7d".toList []

/-- The targets one after the other, with an empty dictionary as their value. -/
def pairStatement : Tree :=
  .node .assignment .plain ⟨2, 4⟩ []
    [pairTarget, .node .assignment .right ⟨2, 17⟩ [] [listTarget, emptyDict]]

/-- The statement in the body of a class. -/
def pairTree : Tree :=
  .node .file .plain ⟨1, 0⟩ []
    [.node .classDefinition .plain ⟨1, 0⟩ []
      [.node .identifier .name ⟨1, 6⟩ "A".toList [],
        .node .block .body ⟨2, 4⟩ []
          [.node .expressionStatement .plain ⟨2, 4⟩ [] [pairStatement]]]]

theorem bindings_of_assigns_pair :
    let m := ofTree "m" (.ofString "m.py") [] pairTree
    let node (target : Tree) : Option NodeKind :=
      some (.assign ⟨[target.expr], some (.dict ⟨"\x7b\x7d", ⟨2, 23⟩⟩)⟩)
    pairStatement.Assigns [pairTarget, listTarget] emptyDict ∧ pairTree.LowersTo pairStatement ∧
      m.Lowered pairStatement 2 ∧ m.scope 2 = 1 ∧ (∃ i, m.Lowered pairStatement i) ∧
        ∃ found : List Binding, found.Sublist (m.bindings (m.scope 2)) ∧
          (∀ b ∈ found, m.Below 2 b.node) ∧
            found.map m.introduction = [("a", .assign, node pairTarget),
              ("b", .assign, node pairTarget), ("d", .assign, node listTarget)] := by
  have hassigns : pairStatement.Assigns [pairTarget, listTarget] emptyDict :=
    .chain rfl rfl (.last rfl rfl (by decide))
  have hlowers : pairTree.LowersTo pairStatement := by
    refine ⟨_, List.mem_singleton_self _, .tail (.single (List.mem_singleton_self _)) ?_⟩
    exact List.mem_singleton_self _
  have hlowered : (ofTree "m" (.ofString "m.py") [] pairTree).Lowered pairStatement 2 := by
    refine ⟨some 1, _, rfl, holdsAt_cons.mpr ⟨rfl, holdsAt_cons.mpr ⟨rfl, ?_⟩⟩⟩
    rintro i node ⟨⟩
  have hbound := bindings_of_assigns "m" (.ofString "m.py") [] pairTree hassigns
  exact ⟨hassigns, hlowers, hlowered, by decide, hbound.1 hlowers, hbound.2 2 hlowered⟩

end Module

end CodingStandard
