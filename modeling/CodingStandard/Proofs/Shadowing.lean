import CodingStandard.Checker.Python3
import CodingStandard.Proofs.Builtin

namespace CodingStandard

/-!
# Which `apply` is the built-in one

A name at a node means what the innermost scope that binds it makes of it. Inside a function every
binding counts, since the code runs later. Elsewhere a binding below the line of the node comes too
late, but it still hides the scopes around its own, even those that bind the name in time. The main
statement says for every call of `apply` whether it is reported.
-/

namespace Module

variable {m : Module} {id scope line : Nat} {name : String} {b : Binding}

/-- A scope binds a name, on any line. -/
def Binds (m : Module) (name : String) (scope : Nat) : Prop :=
  ∃ b ∈ m.bindings scope, b.name = name

/-- A scope binds a name on a line or above it. -/
def BindsBy (m : Module) (name : String) (line scope : Nat) : Prop :=
  ∃ b ∈ m.bindings scope, b.name = name ∧ b.line ≤ line

instance : Decidable (m.BindsBy name line scope) :=
  inferInstanceAs (Decidable (∃ b ∈ m.bindings scope, b.name = name ∧ b.line ≤ line))

theorem BindsBy.binds (h : m.BindsBy name line scope) : m.Binds name scope := by
  obtain ⟨b, hb, hname, -⟩ := h
  exact ⟨b, hb, hname⟩

theorem mem_bindingsOf : b ∈ m.bindingsOf scope name ↔ b ∈ m.bindings scope ∧ b.name = name := by
  simp [bindingsOf]

theorem bindingsOf_eq_nil_iff : m.bindingsOf scope name = [] ↔ ¬ m.Binds name scope := by
  simp [bindingsOf, Binds]

theorem bindsBy_iff : m.BindsBy name line scope ↔ ∃ b ∈ m.bindingsOf scope name, b.line ≤ line := by
  simp only [BindsBy, mem_bindingsOf, and_assoc]

theorem bindingSeen?_eq_none_iff :
    m.bindingSeen? name line scope = none ↔ ¬ m.Binds name scope := by
  rw [← bindingsOf_eq_nil_iff]
  constructor
  · intro h
    exact List.head?_eq_none_iff.mp (Option.or_eq_none_iff.mp h).2
  · intro hnil
    simp [bindingSeen?, hnil]

/-- The binding that is seen comes in time if any does. -/
theorem line_le_iff_of_bindingSeen? (h : m.bindingSeen? name line scope = some b) :
    b.line ≤ line ↔ m.BindsBy name line scope := by
  rw [bindsBy_iff]
  rcases Option.or_eq_some_iff.mp h with hlast | ⟨hnone, hfirst⟩
  · have hb := List.mem_filter.mp (List.mem_of_getLast? hlast)
    have hline : b.line ≤ line := by simpa using hb.2
    exact ⟨fun _ => ⟨b, hb.1, hline⟩, fun _ => hline⟩
  · have hlate : ∀ b ∈ m.bindingsOf scope name, ¬ b.line ≤ line := by
      simpa using List.getLast?_eq_none_iff.mp hnone
    have hb := hlate b (List.mem_of_head? hfirst)
    exact ⟨fun hline => absurd hline hb, fun ⟨c, hc, hline⟩ => absurd hline (hlate c hc)⟩

/-! ## The scope that decides -/

/-- The scopes that a name at a node is looked up in, from the innermost one that binds it on. -/
def decidingScopes (m : Module) (id : Nat) (name : String) : List Nat :=
  (m.scopeChain id).dropWhile fun scope => (m.bindingsOf scope name).isEmpty

/-- A name that is bound in time, but hidden by a scope further in that binds it too late. -/
def HiddenByLater (m : Module) (id : Nat) (name : String) : Prop :=
  ∃ scope outer, m.decidingScopes id name = scope :: outer ∧
    ¬ m.BindsBy name (m.lineOf id) scope ∧ ∃ s ∈ outer, m.BindsBy name (m.lineOf id) s

theorem lookup?_eq_none_iff :
    m.lookup? id name = none ↔ ∀ scope ∈ m.scopeChain id, ¬ m.Binds name scope := by
  simp only [lookup?, List.findSome?_eq_none_iff, bindingSeen?_eq_none_iff]

theorem exists_decidingScopes_of_lookup? (h : m.lookup? id name = some b) :
    ∃ scope outer, m.decidingScopes id name = scope :: outer ∧
      m.bindingSeen? name (m.lineOf id) scope = some b := by
  obtain ⟨inner, scope, outer, hchain, hseen, hinner⟩ := List.findSome?_eq_some_iff.mp h
  refine ⟨scope, outer, ?_, hseen⟩
  have hempty : ∀ s ∈ inner, (m.bindingsOf s name).isEmpty := fun s hs =>
    List.isEmpty_iff.mpr (bindingsOf_eq_nil_iff.mpr (bindingSeen?_eq_none_iff.mp (hinner s hs)))
  have hbinds : (m.bindingsOf scope name).isEmpty = false := by
    rw [Bool.eq_false_iff, ne_eq, List.isEmpty_iff, bindingsOf_eq_nil_iff]
    intro hunbound
    have hunseen : m.bindingSeen? name (m.lineOf id) scope = none :=
      bindingSeen?_eq_none_iff.mpr hunbound
    cases hseen.symm.trans hunseen
  rw [decidingScopes, hchain, List.dropWhile_append_of_pos hempty, List.dropWhile_cons, hbinds]
  rfl

theorem mem_scopeChain_of_decidingScopes {outer : List Nat}
    (h : m.decidingScopes id name = scope :: outer) : scope ∈ m.scopeChain id :=
  (List.dropWhile_suffix _).subset (h ▸ List.mem_cons_self)

/-- If the scope that decides binds the name too late, one that binds it in time lies around it. -/
theorem mem_outer_of_bindsBy {outer : List Nat} (h : m.decidingScopes id name = scope :: outer)
    {s : Nat} (hs : s ∈ m.scopeChain id) (hby : m.BindsBy name line s)
    (hlate : ¬ m.BindsBy name line scope) : s ∈ outer := by
  -- The scopes that are passed over bind nothing, so `s` is not one of them.
  rw [← List.takeWhile_append_dropWhile
    (p := fun scope => (m.bindingsOf scope name).isEmpty) (l := m.scopeChain id),
    List.mem_append] at hs
  rcases hs with hs | hs
  · have hempty := List.mem_takeWhile_imp hs
    exact absurd hby.binds (bindingsOf_eq_nil_iff.mp (List.isEmpty_iff.mp hempty))
  · rcases List.mem_cons.mp (h ▸ hs : s ∈ scope :: outer) with rfl | hs
    · exact absurd hby hlate
    · exact hs

end Module

namespace Python3

variable {m : Module} {node : Nat}

theorem seesBuiltinApply_iff_of_nested (h : m.isNestedInFunction node = true) :
    seesBuiltinApply m node ↔ ∀ scope ∈ m.scopeChain node, ¬ m.Binds "apply" scope := by
  rw [← Module.lookup?_eq_none_iff, seesBuiltinApply]
  cases m.lookup? node "apply" <;> simp [h]

/-- Code that is not in a function sees the built-in if nothing is bound in time, or if what is
bound in time is hidden. -/
theorem seesBuiltinApply_iff (h : m.isNestedInFunction node = false) :
    seesBuiltinApply m node ↔
      (∀ scope ∈ m.scopeChain node, ¬ m.BindsBy "apply" (m.lineOf node) scope) ∨
        m.HiddenByLater node "apply" := by
  unfold seesBuiltinApply
  cases hlookup : m.lookup? node "apply" with
  | none =>
      have hnone := Module.lookup?_eq_none_iff.mp hlookup
      simp only [true_iff]
      exact .inl fun scope hscope hby => hnone scope hscope hby.binds
  | some b =>
      obtain ⟨scope, outer, hscopes, hseen⟩ := Module.exists_decidingScopes_of_lookup? hlookup
      have hlate : ((!m.isNestedInFunction node && decide (b.line > m.lineOf node)) = true) ↔
          ¬ m.BindsBy "apply" (m.lineOf node) scope := by
        rw [h, ← Module.line_le_iff_of_bindingSeen? hseen, Nat.not_le]
        simp
      rw [hlate]
      constructor
      · intro hlate
        by_cases hany : ∃ s ∈ m.scopeChain node, m.BindsBy "apply" (m.lineOf node) s
        · obtain ⟨s, hs, hby⟩ := hany
          exact .inr ⟨scope, outer, hscopes, hlate, s,
            Module.mem_outer_of_bindsBy hscopes hs hby hlate, hby⟩
        · exact .inl fun s hs hby => hany ⟨s, hs, hby⟩
      · rintro (hnone | ⟨other, others, hother, hlate, -⟩)
        · exact hnone scope (Module.mem_scopeChain_of_decidingScopes hscopes)
        · obtain ⟨rfl, -⟩ := List.cons.inj (hscopes.symm.trans hother)
          exact hlate

variable {site : Site} {lib : Library} {call : Call} {origin : Origin}

theorem message_mem_iff {code : String} :
    (∃ e ∈ (checker.enter site lib).emissions, e.message = code) ↔ code ∈ codes site := by
  simp [checker, Visit.emitting, findings]

theorem builtinApply_mem_codes_iff (hcall : site.home.kind? site.node = some (.call call))
    (hfunc : call.func = .name origin) (hname : origin.text = "apply") :
    builtinApply.code ∈ codes site ↔ seesBuiltinApply site.home site.node := by
  have hother : builtinApply.code ≠ dictHasKey.code := by decide
  have happly : callsBuiltinApply site.home site.node call =
      seesBuiltinApply site.home site.node := by
    simp [callsBuiltinApply, hfunc, hname]
  simp only [codes, hcall, List.mem_append, happly]
  split <;> split <;> simp_all

/-- A call of `apply` inside a function is reported exactly if no scope of its chain binds the name
at all. Any other one is reported if no scope of its chain binds the name in time, and also, though
some scope does, if that scope is hidden by one further in that binds the name too late. -/
theorem warnsOfApply_iff (site : Site) (lib : Library) (call : Call) (origin : Origin)
    (hcall : site.home.kind? site.node = some (.call call)) (hfunc : call.func = .name origin)
    (hname : origin.text = "apply") :
    let m := site.home
    let warned := ∃ e ∈ (checker.enter site lib).emissions, e.message = "W9603"
    (m.isNestedInFunction site.node = true →
      (warned ↔ ∀ scope ∈ m.scopeChain site.node, ¬ m.Binds "apply" scope)) ∧
    (m.isNestedInFunction site.node = false →
      (warned ↔
        (∀ scope ∈ m.scopeChain site.node, ¬ m.BindsBy "apply" (m.lineOf site.node) scope) ∨
          m.HiddenByLater site.node "apply")) := by
  intro m warned
  have hwarned : warned ↔ seesBuiltinApply m site.node :=
    message_mem_iff.trans (builtinApply_mem_codes_iff hcall hfunc hname)
  rw [hwarned]
  exact ⟨seesBuiltinApply_iff_of_nested, seesBuiltinApply_iff⟩

/-! ## A class that binds the name too late -/

/-- A module that binds `apply`, and a class that calls it and binds it on the line below. -/
def lateFile : SourceFile where
  path := .ofString "m.py"
  content := "apply = len\nclass A:\n    apply(f)\n    apply = 1\n".toList
  moduleName := "m"
  shownAs := .ofString "m.py"

def lateTree : Tree :=
  .node .file .plain ⟨1, 0⟩ []
    [.node .expressionStatement .plain ⟨1, 0⟩ []
      [.node .assignment .plain ⟨1, 0⟩ []
        [.node .identifier .left ⟨1, 0⟩ "apply".toList [],
          .node .identifier .right ⟨1, 8⟩ "len".toList []]],
      .node .classDefinition .plain ⟨2, 0⟩ []
        [.node .identifier .name ⟨2, 6⟩ "A".toList [],
          .node .block .body ⟨3, 4⟩ []
            [.node .expressionStatement .plain ⟨3, 4⟩ []
              [.node .call .plain ⟨3, 4⟩ "apply(f)".toList
                [.node .identifier .function ⟨3, 4⟩ "apply".toList [],
                  .node .arguments .arguments ⟨3, 9⟩ "(f)".toList
                    [.node .identifier .plain ⟨3, 10⟩ "f".toList []]]],
              .node .expressionStatement .plain ⟨4, 4⟩ []
                [.node .assignment .plain ⟨4, 4⟩ []
                  [.node .identifier .left ⟨4, 4⟩ "apply".toList [],
                    .node .integer .right ⟨4, 12⟩ "1".toList []]]]]]

/-- The call of `apply` in the class. -/
def lateSite : Site where
  file := lateFile
  home := .ofTree "m" (.ofString "m.py") lateFile.content lateTree
  lines := scan lateFile.content
  node := 3
  attempted := []

def lateCall : Call := ⟨.name ⟨"apply", ⟨3, 4⟩⟩, [.name ⟨"f", ⟨3, 10⟩⟩]⟩

theorem hiddenByLater_late : lateSite.home.HiddenByLater lateSite.node "apply" :=
  ⟨2, [0], by decide +kernel, by decide +kernel, 0, by simp, by decide +kernel⟩

theorem warnsOfApply_iff_late :
    let m := lateSite.home
    m.kind? lateSite.node = some (.call lateCall) ∧ lateCall.func = .name ⟨"apply", ⟨3, 4⟩⟩ ∧
      m.isNestedInFunction lateSite.node = false ∧
      ∃ e ∈ (checker.enter lateSite default).emissions, e.message = "W9603" := by
  have hcall : lateSite.home.kind? lateSite.node = some (.call lateCall) := rfl
  have hnested : lateSite.home.isNestedInFunction lateSite.node = false := by decide +kernel
  obtain ⟨-, hwarned⟩ := warnsOfApply_iff lateSite default lateCall ⟨"apply", ⟨3, 4⟩⟩ hcall rfl rfl
  exact ⟨hcall, rfl, hnested, (hwarned hnested).mpr (.inr hiddenByLater_late)⟩

/-- The call is reported although the module has bound the name on a line above. -/
theorem warnsOfApply_despite_binding :
    let m := lateSite.home
    m.kind? lateSite.node = some (.call lateCall) ∧ m.isNestedInFunction lateSite.node = false ∧
      ¬ ((∃ e ∈ (checker.enter lateSite default).emissions, e.message = "W9603") ↔
        ∀ scope ∈ m.scopeChain lateSite.node,
          ¬ m.BindsBy "apply" (m.lineOf lateSite.node) scope) := by
  refine ⟨rfl, by decide +kernel, fun h => ?_⟩
  have hwarned : ∃ e ∈ (checker.enter lateSite default).emissions, e.message = "W9603" :=
    message_mem_iff.mpr (by decide +kernel)
  exact h.mp hwarned 0 (by decide +kernel) (by decide +kernel)

end Python3

end CodingStandard
