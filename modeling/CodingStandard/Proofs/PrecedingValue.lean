import CodingStandard.Proofs.Bindings
import CodingStandard.Proofs.Scoping
import CodingStandard.Proofs.Shadowing

namespace CodingStandard

/-!
# The value that a name was given before

Two searches go through the scopes of a node. One looks for the binding that a name means: the
innermost scope that binds the name decides, even if it binds it on a later line. The other looks
for the value that the name was given last: there a scope counts only if it binds the name in time.
They part where the binding comes too late, and then the second one goes on outside its scope.
-/

namespace Module

variable {m : Module} {tree : Tree} {id p scope line depth : Nat} {name : String} {b : Binding}
  {scopes : List Nat}

/-! ## The last binding in time -/

/-- A binding of a name on a line or above it, which no other such one of its scope follows. -/
def LastBy (m : Module) (name : String) (line scope : Nat) (b : Binding) : Prop :=
  ∃ front back, m.bindings scope = front ++ b :: back ∧ b.name = name ∧ b.line ≤ line ∧
    ∀ c ∈ back, c.name = name → line < c.line

/-- The last binding of a name in a scope up to a line. -/
def lastBinding? (m : Module) (name : String) (line scope : Nat) : Option Binding :=
  ((m.bindingsOf scope name).filter (·.line ≤ line)).getLast?

theorem bindingSeen?_eq : m.bindingSeen? name line scope =
    (m.lastBinding? name line scope).or (m.bindingsOf scope name).head? := rfl

theorem precedingValue?_eq : m.precedingValue? id name =
    ((m.scopeChain id).findSome? (m.lastBinding? name (m.lineOf id))).bind fun b =>
      m.assignedValue? b.node := rfl

theorem lastBinding?_eq_some_iff :
    m.lastBinding? name line scope = some b ↔ m.LastBy name line scope b := by
  rw [lastBinding?, bindingsOf, List.filter_filter, List.getLast?_filter,
    List.find?_eq_some_iff_append, LastBy]
  constructor
  · rintro ⟨hb, back, front, hsplit, hback⟩
    rw [Bool.and_eq_true, decide_eq_true_eq, beq_iff_eq] at hb
    refine ⟨front.reverse, back.reverse, ?_, hb.2, hb.1, fun c hc hname => ?_⟩
    · rw [← List.reverse_reverse (m.bindings scope), hsplit]
      simp
    · have hlate := hback c (List.mem_reverse.mp hc)
      simpa [hname] using hlate
  · rintro ⟨front, back, hsplit, hname, hline, hback⟩
    refine ⟨by simp [hname, hline], back.reverse, front.reverse, by simp [hsplit], fun c hc => ?_⟩
    have hlate := hback c (List.mem_reverse.mp hc)
    by_cases hc : c.name = name
    · simp [hlate hc, hc]
    · simp [hc]

theorem lastBinding?_eq_none_iff :
    m.lastBinding? name line scope = none ↔ ¬ m.BindsBy name line scope := by
  rw [bindsBy_iff, lastBinding?, List.getLast?_eq_none_iff]
  simp

theorem lastBinding?_of_bindingSeen? (h : m.bindingSeen? name line scope = some b)
    (hline : b.line ≤ line) : m.lastBinding? name line scope = some b := by
  have hby := (line_le_iff_of_bindingSeen? h).mp hline
  rw [bindingSeen?_eq] at h
  cases hlast : m.lastBinding? name line scope with
  | none => exact absurd hby (lastBinding?_eq_none_iff.mp hlast)
  | some c => rwa [hlast, Option.some_or] at h

theorem mem_bindings_of_bindingSeen? (h : m.bindingSeen? name line scope = some b) :
    b ∈ m.bindings scope := by
  rw [bindingSeen?_eq] at h
  have hof : b ∈ m.bindingsOf scope name := by
    rcases Option.or_eq_some_iff.mp h with hlast | ⟨-, hfirst⟩
    · exact (List.mem_filter.mp (List.mem_of_getLast? hlast)).1
    · exact List.mem_of_head? hfirst
  exact (mem_bindingsOf.mp hof).1

/-! ## The answer of a chain of scopes -/

/-- What a chain of scopes says about the value of a name. The first scope that binds the name in
time answers, by the last such binding. -/
inductive Answers (m : Module) (name : String) (line : Nat) : List Nat → Option Expr → Prop where
  | nobody : Answers m name line [] none
  | here {scope : Nat} {outer : List Nat} {b : Binding} (hlast : m.LastBy name line scope b) :
      Answers m name line (scope :: outer) (m.assignedValue? b.node)
  | further {scope : Nat} {outer : List Nat} {value : Option Expr}
      (hlate : ¬ m.BindsBy name line scope) (houter : Answers m name line outer value) :
      Answers m name line (scope :: outer) value

theorem answers_findSome? (m : Module) (name : String) (line : Nat) (scopes : List Nat) :
    m.Answers name line scopes ((scopes.findSome? (m.lastBinding? name line)).bind fun b =>
      m.assignedValue? b.node) := by
  induction scopes with
  | nil => exact .nobody
  | cons scope outer ih =>
      rw [List.findSome?_cons]
      cases hlast : m.lastBinding? name line scope with
      | none => exact .further (lastBinding?_eq_none_iff.mp hlast) ih
      | some b => exact .here (lastBinding?_eq_some_iff.mp hlast)

/-! ## The scope of a binding -/

/-- The scope that a binding belongs to. A parameter belongs to its function, everything else to
the scope that its node stands in. -/
def homeOf (m : Module) (b : Binding) : Nat :=
  if b.kind = .param then b.node else m.scope b.node

theorem isScope_of_mem_scopeChain (h : m.Outlined tree.outline) (hscope : scope ∈ m.scopeChain id) :
    m.isKind NodeKind.isScope scope = true := by
  rcases List.mem_cons.mp hscope with rfl | hscope
  · exact h.isScope_scope id
  · have hkind := (List.mem_filter.mp hscope).2
    unfold isKind at hkind ⊢
    cases hk : m.kind? scope with
    | none => simp [hk] at hkind
    | some kind => simp_all

theorem Outlined.scope_of_mem_bindingsAt (h : m.Outlined tree.outline) (hid : id ∈ m.children p)
    (hb : b ∈ m.bindingsAt depth id) : m.scope b.node = m.innerScope p := by
  induction depth generalizing id p with
  | zero => cases hb
  | succ depth ih =>
      rw [bindingsAt, List.mem_append] at hb
      rcases hb with hb | hb
      · rw [node_of_mem_ownBindings hb, h.scope_of_mem_children hid]
      split at hb
      case isTrue => cases hb
      case isFalse hinside =>
        obtain ⟨child, hchild, hb⟩ := List.mem_flatMap.mp hb
        have hscope : ¬ m.isKind NodeKind.isScope id = true := by
          refine h.not_isScope_of_mem_children hid (fun hclass => hinside ?_)
            (fun hfunction => hinside ?_)
          · exact isKind_or.mpr (.inl hclass)
          · exact isKind_or.mpr (.inr hfunction)
        rw [← h.innerScope_of_mem_children hid hscope]
        exact ih hchild hb

theorem kind_ne_param_of_mem_bindingsAt (hb : b ∈ m.bindingsAt depth id) : b.kind ≠ .param := by
  obtain ⟨kind, -, hbound⟩ := of_mem_bindingsAt hb
  cases kind <;> simp [namesBoundBy] at hbound <;> grind

theorem Outlined.homeOf_eq (h : m.Outlined tree.outline)
    (hscope : m.isKind NodeKind.isScope scope = true) (hb : b ∈ m.bindings scope) :
    m.homeOf b = scope := by
  rcases List.mem_append.mp hb with hb | hb
  · unfold paramBindings at hb
    split at hb
    · obtain ⟨param, -, rfl⟩ := List.mem_map.mp hb
      rfl
    · cases hb
  · obtain ⟨child, hchild, hb⟩ := List.mem_flatMap.mp hb
    rw [homeOf, if_neg (kind_ne_param_of_mem_bindingsAt hb), h.scope_of_mem_bindingsAt hchild hb,
      innerScope_of_isScope hscope]

/-! ## Where the searches agree -/

/-- The scope that decides what a name means, and those further in, which do not bind it. -/
theorem Outlined.exists_scopeChain_of_lookup? (h : m.Outlined tree.outline)
    (hlookup : m.lookup? id name = some b) :
    ∃ inner outer, m.scopeChain id = inner ++ m.homeOf b :: outer ∧
      (∀ s ∈ inner, ¬ m.Binds name s) ∧
        m.bindingSeen? name (m.lineOf id) (m.homeOf b) = some b := by
  obtain ⟨inner, scope, outer, hchain, hseen, hinner⟩ := List.findSome?_eq_some_iff.mp hlookup
  have hmem : scope ∈ m.scopeChain id := hchain ▸ List.mem_append_right _ List.mem_cons_self
  have hhome := h.homeOf_eq (isScope_of_mem_scopeChain h hmem) (mem_bindings_of_bindingSeen? hseen)
  rw [hhome]
  exact ⟨inner, outer, hchain, fun s hs => bindingSeen?_eq_none_iff.mp (hinner s hs), hseen⟩

theorem lastBinding?_eq_none_of_not_binds (h : ¬ m.Binds name scope) :
    m.lastBinding? name line scope = none :=
  lastBinding?_eq_none_iff.mpr fun hby => h hby.binds

/-- The scopes that do not bind a name at all have no part in its value. -/
theorem precedingValue?_of_scopeChain {inner outer : List Nat}
    (hchain : m.scopeChain id = inner ++ outer) (hinner : ∀ s ∈ inner, ¬ m.Binds name s) :
    m.precedingValue? id name = (outer.findSome? (m.lastBinding? name (m.lineOf id))).bind fun b =>
      m.assignedValue? b.node := by
  have hskip : inner.findSome? (m.lastBinding? name (m.lineOf id)) = none :=
    List.findSome?_eq_none_iff.mpr fun s hs => lastBinding?_eq_none_of_not_binds (hinner s hs)
  rw [precedingValue?_eq, hchain, List.findSome?_append, hskip, Option.none_or]

/-- A name has the value of the binding that it means at a node, if that binding comes in time and
is an assignment. A name that means nothing has no value. If its binding comes too late, its value
is what the scopes around that of the binding say. -/
theorem precedingValue?_ofTree (moduleName : String) (path : Path) (source : Text) (tree : Tree)
    (id : Nat) (name : String) :
    let m := ofTree moduleName path source tree
    match m.lookup? id name with
    | none => m.precedingValue? id name = none
    | some b =>
      if b.line ≤ m.lineOf id then m.precedingValue? id name = m.assignedValue? b.node
      else ∃ inner outer, m.scopeChain id = inner ++ m.homeOf b :: outer ∧
        (∀ s ∈ inner, ¬ m.Binds name s) ∧
          m.Answers name (m.lineOf id) outer (m.precedingValue? id name) := by
  intro m
  have h : m.Outlined tree.outline := rfl
  cases hlookup : m.lookup? id name with
  | none =>
      have hunbound := lookup?_eq_none_iff.mp hlookup
      dsimp only
      rw [precedingValue?_of_scopeChain (List.append_nil _).symm hunbound, List.findSome?_nil,
        Option.bind_none]
  | some b =>
      obtain ⟨inner, outer, hchain, hinner, hseen⟩ := h.exists_scopeChain_of_lookup? hlookup
      have hvalue := precedingValue?_of_scopeChain hchain hinner
      rw [List.findSome?_cons] at hvalue
      dsimp only
      split
      case isTrue hline =>
        rw [hvalue, lastBinding?_of_bindingSeen? hseen hline, Option.bind_some]
      case isFalse hline =>
        have hlate : m.lastBinding? name (m.lineOf id) (m.homeOf b) = none :=
          lastBinding?_eq_none_iff.mpr fun hby => hline ((line_le_iff_of_bindingSeen? hseen).mpr hby)
        refine ⟨inner, outer, hchain, hinner, ?_⟩
        rw [hvalue, hlate]
        exact answers_findSome? m name (m.lineOf id) outer

-- The class binds the name too late, and the module had bound it before.
example :
    let m := Python3.lateSite.home
    (m.lookup? 3 "apply").map (·.line) = some 4 ∧
      (m.precedingValue? 3 "apply").map Expr.text = some "len" := by
  cbv

end Module

end CodingStandard
