import CodingStandard.Checker.Docstring.Interface
import CodingStandard.Checker.TestClass
import CodingStandard.Proofs.Scoping

namespace CodingStandard

/-!
# The methods of a class

The methods of a class are found on the way down, through everything but classes and functions;
whether a function is a method is found on the way up. Both say the same. The interfaces and the
test classes go by the functions that hang on the class itself, so they miss the methods in
compound statements.
-/

namespace Module

variable {m : Module} {tree : Tree} {o : Outline} {i j p c f depth : Nat}

/-! ## The walk down -/

/-- What a walk down for functions finds at a node. -/
def functionsFrom (m : Module) (depth : Nat) (id : Nat) : List Nat :=
  match m.kind? id with
  | some (.functionDef _) => [id]
  | some (.classDef _) => []
  | _ => m.functionsBelow depth id

theorem functionsBelow_succ (m : Module) (depth i : Nat) :
    m.functionsBelow (depth + 1) i = (m.children i).flatMap (m.functionsFrom depth) := rfl

theorem mem_functionsFrom : j ∈ m.functionsFrom depth i ↔
    i = j ∧ m.isKind NodeKind.isFunction j = true ∨
      ¬ m.isKind NodeKind.isClass i = true ∧ ¬ m.isKind NodeKind.isFunction i = true ∧
        j ∈ m.functionsBelow depth i := by
  rw [isKind_isClass_iff, isKind_isFunction_iff, isKind_isFunction_iff, functionsFrom]
  split
  case h_1 g hg => grind
  case h_2 d hd => grind
  case h_3 hfunction hclass => grind

theorem below_of_mem_functionsBelow (hj : j ∈ m.functionsBelow depth i) : m.Below i j := by
  induction depth generalizing i with
  | zero => simp [functionsBelow] at hj
  | succ depth ih =>
      rw [functionsBelow_succ] at hj
      obtain ⟨child, hchild, hj⟩ := List.mem_flatMap.mp hj
      refine Relation.ReflTransGen.head hchild ?_
      rcases mem_functionsFrom.mp hj with ⟨rfl, -⟩ | ⟨-, -, hj⟩
      · exact Relation.ReflTransGen.refl
      · exact ih hj

namespace Outlined

theorem scope_of_mem_functionsBelow (h : m.Outlined tree.outline)
    (hj : j ∈ m.functionsBelow depth i) :
    m.isKind NodeKind.isFunction j = true ∧ m.scope j = m.innerScope i := by
  induction depth generalizing i with
  | zero => simp [functionsBelow] at hj
  | succ depth ih =>
      rw [functionsBelow_succ] at hj
      obtain ⟨child, hchild, hj⟩ := List.mem_flatMap.mp hj
      rcases mem_functionsFrom.mp hj with ⟨rfl, hfunction⟩ | ⟨hclass, hfunction, hj⟩
      · exact ⟨hfunction, h.scope_of_mem_children hchild⟩
      · have hscope := h.not_isScope_of_mem_children hchild hclass hfunction
        rw [← h.innerScope_of_mem_children hchild hscope]
        exact ih hj

theorem mem_functionsBelow (h : m.Outlined tree.outline) (hbelow : m.Below i j) (hne : i ≠ j)
    (hfunction : m.isKind NodeKind.isFunction j = true) (hscope : m.scope j = m.innerScope i)
    (hdepth : j < i + depth) : j ∈ m.functionsBelow depth i := by
  induction depth generalizing i with
  | zero =>
      have hle := h.le_of_below hbelow
      omega
  | succ depth ih =>
      rcases Relation.ReflTransGen.cases_head hbelow with heq | ⟨child, hchild, hbelow⟩
      · exact absurd heq hne
      -- A child comes behind its parent, so one level less is enough for it.
      have hlt := (h.parent?_of_mem_children hchild).1
      rw [functionsBelow_succ]
      refine List.mem_flatMap.mpr ⟨child, hchild, mem_functionsFrom.mpr ?_⟩
      by_cases hreached : child = j
      · exact .inl ⟨hreached, hfunction⟩
      -- A scope on the way would be the scope of the function, or lie around it.
      have hpass : ¬ m.isKind NodeKind.isScope child = true := by
        intro hstop
        have hinside := h.le_scope_of_below hstop hbelow hreached
        have houtside := h.innerScope_le i
        omega
      refine .inr ⟨fun hclass => hpass (isScope_of_isClass hclass),
        fun hfunction => hpass (isScope_of_isFunction hfunction), ?_⟩
      refine ih hbelow hreached ?_ (by omega)
      rw [hscope, h.innerScope_of_mem_children hchild hpass]

theorem pairwise_functionsBelow (h : m.Outlined o) (depth i : Nat) :
    (m.functionsBelow depth i).Pairwise (· < ·) := by
  induction depth generalizing i with
  | zero => exact List.Pairwise.nil
  | succ depth ih =>
      have hbelow : ∀ {child x}, x ∈ m.functionsFrom depth child → m.Below child x := by
        intro child x hx
        rcases mem_functionsFrom.mp hx with ⟨rfl, -⟩ | ⟨-, -, hx⟩
        · exact Relation.ReflTransGen.refl
        · exact below_of_mem_functionsBelow hx
      rw [functionsBelow_succ, List.pairwise_flatMap]
      constructor
      · intro child _
        unfold functionsFrom
        split
        · exact List.pairwise_singleton _ _
        · exact List.Pairwise.nil
        · exact ih child
      · refine (h.pairwise_children i).imp_of_mem ?_
        intro a b ha hb hab x hx y hy
        exact (h.lt_of_below_sibling ha hb hab (hbelow hx)).trans_le (h.le_of_below (hbelow hy))

/-! ## The walk up -/

theorem below_scope (h : m.Outlined o) (hscope : m.scope f ≠ root) :
    m.Below (m.scope f) f ∧ m.scope f < f := by
  obtain ⟨p, hbelow, hchild⟩ :=
    h.exists_below_of_mem_ancestors ((scope_eq_root_or m f).resolve_left hscope)
  exact ⟨hbelow.tail hchild,
    (h.le_of_below hbelow).trans_lt (h.parent?_of_mem_children hchild).1⟩

theorem ne_root_of_isClass (h : m.Outlined tree.outline)
    (hc : m.isKind NodeKind.isClass c = true) : c ≠ root := by
  rintro rfl
  obtain ⟨definition, hclass⟩ := isKind_isClass_iff.mp hc
  have hkind : m.kind? root = _ := h.laysOut.kind?_eq
  rw [hkind] at hclass
  cases hclass

theorem mem_methods_iff (h : m.Outlined tree.outline) : f ∈ m.methods c ↔
    m.isKind NodeKind.isClass c = true ∧ m.isKind NodeKind.isFunction f = true ∧ m.scope f = c := by
  unfold methods
  by_cases hc : m.isKind NodeKind.isClass c = true
  · rw [if_pos hc]
    have hinner := innerScope_of_isScope (isScope_of_isClass hc)
    constructor
    · intro hf
      obtain ⟨hfunction, hscope⟩ := h.scope_of_mem_functionsBelow hf
      exact ⟨hc, hfunction, hscope.trans hinner⟩
    · rintro ⟨-, hfunction, rfl⟩
      obtain ⟨hbelow, hlt⟩ := h.below_scope (h.ne_root_of_isClass hc)
      have hsize := lt_size_of_isKind hfunction
      exact h.mem_functionsBelow hbelow hlt.ne hfunction hinner.symm (by omega)
  · rw [if_neg hc]
    simp [hc]

theorem pairwise_methods (h : m.Outlined o) (c : Nat) : (m.methods c).Pairwise (· < ·) := by
  unfold methods
  split
  · exact h.pairwise_functionsBelow _ _
  · exact List.Pairwise.nil

end Outlined

theorem enclosingClass?_of_isClass_scope (h : m.isKind NodeKind.isClass (m.scope f) = true)
    (hroot : m.scope f ≠ root) : m.enclosingClass? f = some (m.scope f) := by
  have hfound : (m.ancestors f).find? (m.isKind NodeKind.isScope) = some (m.scope f) := by
    unfold scope at hroot ⊢
    cases hfound : (m.ancestors f).find? (m.isKind NodeKind.isScope) with
    | none => exact absurd (by rw [hfound]; rfl) hroot
    | some a => rfl
  obtain ⟨-, inner, outer, hancestors, hinner⟩ := List.find?_eq_some_iff_append.mp hfound
  refine List.find?_eq_some_iff_append.mpr ⟨h, inner, outer, hancestors, fun a ha => ?_⟩
  have hscope : m.isKind NodeKind.isScope a = false := by simpa using hinner a ha
  rw [Bool.not_eq_true', Bool.eq_false_iff]
  intro hclass
  rw [isScope_of_isClass hclass] at hscope
  contradiction

/-- The methods of a class are the functions whose scope is the class, in the order of the source
and each of them once. So a function is a method if it is one of those of its scope, and then no
class lies nearer than that scope. -/
theorem methods_ofTree (name : String) (path : Path) (source : Text) (tree : Tree) :
    let m := ofTree name path source tree
    (∀ c, (m.methods c).Pairwise (· < ·)) ∧
      (∀ c f, f ∈ m.methods c ↔ m.isKind NodeKind.isClass c = true ∧
        m.isKind NodeKind.isFunction f = true ∧ m.scope f = c) ∧
      ∀ f, (m.isMethod f = true ↔ f ∈ m.methods (m.scope f)) ∧
        (m.isMethod f = true → m.enclosingClass? f = some (m.scope f)) := by
  intro m
  have h : m.Outlined tree.outline := rfl
  refine ⟨h.pairwise_methods, fun c f => h.mem_methods_iff, fun f => ⟨?_, fun hf => ?_⟩⟩
  · rw [isMethod_iff, h.mem_methods_iff]
    exact ⟨fun ⟨hfunction, hclass⟩ => ⟨hclass, hfunction, rfl⟩,
      fun ⟨hclass, hfunction, _⟩ => ⟨hfunction, hclass⟩⟩
  · have hclass := (isMethod_iff.mp hf).2
    exact enclosingClass?_of_isClass_scope hclass (h.ne_root_of_isClass hclass)

/-- A class whose method `test_a` is defined under a condition, and `helper` is not. -/
def guardedTree : Tree :=
  .node .file .plain ⟨1, 0⟩ []
    [.node .classDefinition .plain ⟨1, 0⟩ []
      [.node .identifier .name ⟨1, 6⟩ "A".toList [],
        .node .block .body ⟨2, 4⟩ []
          [.node (.compound .conditional) .plain ⟨2, 4⟩ []
            [.node .identifier .plain ⟨2, 7⟩ "x".toList [],
              .node .block .plain ⟨3, 8⟩ []
                [.node .functionDefinition .plain ⟨3, 8⟩ []
                  [.node .identifier .name ⟨3, 12⟩ "test_a".toList []]]],
            .node .functionDefinition .plain ⟨5, 4⟩ []
              [.node .identifier .name ⟨5, 8⟩ "helper".toList []]]]]

def guarded : Module := .ofTree "m" (.ofString "m.py") [] guardedTree

theorem methods_ofTree_guarded : guarded.methods 1 = [3, 4] ∧
    guarded.isMethod 3 = true ∧ guarded.enclosingClass? 3 = some 1 := by
  have hmethod : guarded.isMethod 3 = true := by decide +kernel
  obtain ⟨-, -, hmethods⟩ := methods_ofTree "m" (.ofString "m.py") [] guardedTree
  exact ⟨by decide +kernel, hmethod, (hmethods 3).2 hmethod⟩

/-! ## The methods that stand in the body itself -/

/-- A class has a method whose name satisfies a condition. -/
def HasMethod (m : Module) (c : Nat) (p : String → Prop) : Prop :=
  ∃ f ∈ m.methods c, ∃ name, m.name? f = some name ∧ p name

/-- A class has such a method in its body, and not within a statement of the body. -/
def HasOwnMethod (m : Module) (c : Nat) (p : String → Prop) : Prop :=
  ∃ f ∈ m.methods c, m.parent? f = some c ∧ ∃ name, m.name? f = some name ∧ p name

theorem function?_eq_some_iff {d : FunctionDef} :
    m.function? f = some d ↔ m.kind? f = some (.functionDef d) := by
  rw [function?, Option.bind_eq_some_iff]
  constructor
  · rintro ⟨kind, hkind, hd⟩
    cases kind <;> simp [NodeKind.function?] at hd
    rw [hkind, hd]
  · intro hkind
    exact ⟨_, hkind, rfl⟩

theorem name?_of_functionDef {d : FunctionDef} (h : m.kind? f = some (.functionDef d)) :
    m.name? f = some d.name := by
  simp [name?, h, NodeKind.name?]

theorem Outlined.hasOwnMethod_iff (h : m.Outlined tree.outline)
    (hc : m.isKind NodeKind.isClass c = true) {q : String → Prop} :
    m.HasOwnMethod c q ↔ ∃ f ∈ m.children c, ∃ d, m.function? f = some d ∧ q d.name := by
  have hinner := innerScope_of_isScope (isScope_of_isClass hc)
  constructor
  · rintro ⟨f, hmethod, hparent, name, hname, hq⟩
    obtain ⟨d, hd⟩ := isKind_isFunction_iff.mp (h.mem_methods_iff.mp hmethod).2.1
    rw [name?_of_functionDef hd, Option.some.injEq] at hname
    exact ⟨f, h.mem_children_iff.mpr hparent, d, function?_eq_some_iff.mpr hd, hname ▸ hq⟩
  · rintro ⟨f, hchild, d, hd, hq⟩
    have hkind := function?_eq_some_iff.mp hd
    have hscope := (h.scope_of_mem_children hchild).trans hinner
    have hmethod := h.mem_methods_iff.mpr ⟨hc, isKind_isFunction_iff.mpr ⟨d, hkind⟩, hscope⟩
    exact ⟨f, hmethod, h.mem_children_iff.mp hchild, d.name, name?_of_functionDef hkind, hq⟩

theorem definesDirectly_iff {method : String} : m.definesDirectly c method = true ↔
    ∃ f ∈ m.children c, ∃ d, m.function? f = some d ∧ d.name = method := by
  simp [definesDirectly, List.any_eq_true]

theorem hasTestMethods_iff : TestClass.hasTestMethods m c = true ↔
    ∃ f ∈ m.children c, ∃ d, m.function? f = some d ∧ "test".toList <+: d.name.toList := by
  simp [TestClass.hasTestMethods, List.any_eq_true, Option.any_eq_true, Text.startsWith_iff]

/-- An interface of the module, a class of a library and the test classes all go by the same
methods: those in the body of the class itself. They overlook a method in a compound statement,
unless another one of that name stands outside. -/
theorem ownMethods_decide (name : String) (path : Path) (source : Text) (tree : Tree) (c : Nat)
    (hc : (ofTree name path source tree).isKind NodeKind.isClass c = true) :
    let m := ofTree name path source tree
    (∀ lib interface method, Interface.locate m interface = .ok (.here c) →
      ∃ answer, (Interface.defines m lib interface method).1 = .ok answer ∧
        (answer = true ↔ m.HasOwnMethod c (· = method))) ∧
      (∀ method, (ResolvedClass.mk m c).defines method = true ↔ m.HasOwnMethod c (· = method)) ∧
      (TestClass.hasTestMethods m c = true ↔
        m.HasOwnMethod c fun name => "test".toList <+: name.toList) := by
  intro m
  have h : m.Outlined tree.outline := rfl
  have hdefines : ∀ method, m.definesDirectly c method = true ↔ m.HasOwnMethod c (· = method) := by
    intro method
    rw [h.hasOwnMethod_iff hc]
    exact definesDirectly_iff
  refine ⟨fun lib interface method hlocate => ?_, hdefines, ?_⟩
  · exact ⟨m.definesDirectly c method, by rw [Interface.defines, hlocate], hdefines method⟩
  · rw [h.hasOwnMethod_iff hc]
    exact hasTestMethods_iff

theorem ownMethods_decide_guarded :
    guarded.isKind NodeKind.isClass 1 = true ∧
      Interface.locate guarded "A" = .ok (.here 1) ∧
      ∃ answer, (Interface.defines guarded default "A" "helper").1 = .ok answer ∧
        (answer = true ↔ guarded.HasOwnMethod 1 (· = "helper")) := by
  have hclass : guarded.isKind NodeKind.isClass 1 = true := by decide +kernel
  have hlocate : Interface.locate guarded "A" = .ok (.here 1) := by rfl
  obtain ⟨hhere, -, -⟩ := ownMethods_decide "m" (.ofString "m.py") [] guardedTree 1 hclass
  exact ⟨hclass, hlocate, hhere default "A" "helper" hlocate⟩

/-- None of them sees the method `test_a`. -/
theorem hasMethod_unseen :
    guarded.isKind NodeKind.isClass 1 = true ∧ Interface.locate guarded "A" = .ok (.here 1) ∧
      ¬ ((Interface.defines guarded default "A" "test_a").1 = .ok true ↔
        guarded.HasMethod 1 (· = "test_a")) ∧
      ¬ ((ResolvedClass.mk guarded 1).defines "test_a" = true ↔
        guarded.HasMethod 1 (· = "test_a")) ∧
      ¬ (TestClass.hasTestMethods guarded 1 = true ↔
        guarded.HasMethod 1 fun name => "test".toList <+: name.toList) := by
  have hmethod : 3 ∈ guarded.methods 1 := by decide +kernel
  have hname : guarded.name? 3 = some "test_a" := by decide +kernel
  have hhere : (Interface.defines guarded default "A" "test_a").1 = .ok false := by rfl
  have helsewhere : (ResolvedClass.mk guarded 1).defines "test_a" = false := by decide +kernel
  have htests : TestClass.hasTestMethods guarded 1 = false := by decide +kernel
  rw [hhere, helsewhere, htests]
  refine ⟨by decide +kernel, by rfl, fun h => ?_, fun h => ?_, fun h => ?_⟩
  · cases h.mpr ⟨3, hmethod, "test_a", hname, rfl⟩
  · cases h.mpr ⟨3, hmethod, "test_a", hname, rfl⟩
  · cases h.mpr ⟨3, hmethod, "test_a", hname, by decide⟩

end Module

end CodingStandard
