import CodingStandard.Model.Binding
import Mathlib.Data.List.Basic

namespace CodingStandard

/-!
# Where bindings come from

Every binding of a scope is a parameter of the function that the scope is, or is made by a node
that binds names of its own. The kind of the binding tells the kind of that node.
-/

namespace Import

theorem exists_binding? {i : Import} {name : String} (h : name ∈ i.bindings.map Prod.fst) :
    ∃ imported, i.binding? name = some imported := by
  rw [← Option.isSome_iff_exists, binding?, List.lookup_isSome_iff]
  obtain ⟨pair, hpair, rfl⟩ := List.mem_map.mp h
  exact ⟨pair, hpair, by simp⟩

end Import

namespace Module

variable {m : Module} {scope id : Nat} {b : Binding}

theorem of_mem_ownBindings (h : b ∈ m.ownBindings id) :
    ∃ kind, m.kind? b.node = some kind ∧ (b.name, b.kind) ∈ namesBoundBy kind := by
  unfold ownBindings at h
  split at h
  case h_1 kind hkind =>
    obtain ⟨pair, hpair, rfl⟩ := List.mem_map.mp h
    exact ⟨kind, hkind, hpair⟩
  case h_2 => simp at h

theorem node_of_mem_ownBindings (h : b ∈ m.ownBindings id) : b.node = id := by
  unfold ownBindings at h
  split at h
  · obtain ⟨pair, -, rfl⟩ := List.mem_map.mp h
    rfl
  · cases h

theorem of_mem_bindingsAt {depth : Nat} (h : b ∈ m.bindingsAt depth id) :
    ∃ kind, m.kind? b.node = some kind ∧ (b.name, b.kind) ∈ namesBoundBy kind := by
  induction depth generalizing id with
  | zero => simp [bindingsAt] at h
  | succ depth ih =>
      rw [bindingsAt, List.mem_append] at h
      rcases h with h | h
      · exact of_mem_ownBindings h
      · split at h
        · simp at h
        · obtain ⟨child, _, h⟩ := List.mem_flatMap.mp h
          exact ih h

/-- A binding is made by the names that its node binds, or it is a parameter of a function. -/
theorem of_mem_bindings (h : b ∈ m.bindings scope) :
    (∃ kind, m.kind? b.node = some kind ∧ (b.name, b.kind) ∈ namesBoundBy kind) ∨
      b.kind = .param ∧ ∃ f, m.kind? b.node = some (.functionDef f) := by
  rcases List.mem_append.mp h with h | h
  · unfold paramBindings at h
    split at h
    case h_1 f hf =>
      obtain ⟨p, _, rfl⟩ := List.mem_map.mp h
      obtain ⟨kind, hkind, hf⟩ := Option.bind_eq_some_iff.mp hf
      cases kind <;> simp [NodeKind.function?] at hf
      exact .inr ⟨rfl, _, hkind⟩
    case h_2 => simp at h
  · obtain ⟨child, _, h⟩ := List.mem_flatMap.mp h
    exact .inl (of_mem_bindingsAt h)

theorem of_topLevelBinding? {name : String} (h : m.topLevelBinding? name = some b) :
    b ∈ m.bindings root ∧ b.name = name :=
  ⟨List.mem_of_find?_eq_some h, by simpa using List.find?_some h⟩

theorem kind_eq_classDef_iff (h : b ∈ m.bindings scope) :
    b.kind = .classDef ↔ ∃ c, m.kind? b.node = some (.classDef c) := by
  rcases of_mem_bindings h with ⟨kind, hkind, hbound⟩ | ⟨hparam, f, hf⟩
  · rw [hkind]
    cases kind <;> simp [namesBoundBy] at hbound <;> grind
  · simp [hparam, hf]

theorem kind_eq_imports_iff (h : b ∈ m.bindings scope) :
    b.kind = .imports ↔ ∃ i, m.kind? b.node = some (.imports i) := by
  rcases of_mem_bindings h with ⟨kind, hkind, hbound⟩ | ⟨hparam, f, hf⟩
  · rw [hkind]
    cases kind <;> simp [namesBoundBy] at hbound <;> grind
  · simp [hparam, hf]

theorem exists_binding?_of_mem_bindings (h : b ∈ m.bindings scope) {i : Import}
    (hi : m.kind? b.node = some (.imports i)) : ∃ imported, i.binding? b.name = some imported := by
  rcases of_mem_bindings h with ⟨kind, hkind, hbound⟩ | ⟨_, f, hf⟩
  · obtain rfl : kind = .imports i := Option.some.inj (hkind.symm.trans hi)
    apply Import.exists_binding?
    simp only [namesBoundBy, List.mem_map, Prod.mk.injEq] at hbound
    obtain ⟨pair, hpair, hname, _⟩ := hbound
    exact List.mem_map.mpr ⟨pair, hpair, hname⟩
  · simp [hf] at hi

end Module

end CodingStandard
