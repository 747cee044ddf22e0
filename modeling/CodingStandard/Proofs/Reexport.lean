import CodingStandard.Proofs.Bindings
import CodingStandard.Resolution.Reexport
import Mathlib.Data.Set.Finite.Lattice
import Mathlib.Data.List.Chain
import Mathlib.Logic.Relation

namespace CodingStandard

/-!
# Where chains of re-exports end

A name of a module that is imported from another module leads on to a name there. The search for
a class follows this relation and stops at the first name that it meets twice. Since a name leads
to at most one other name, its answer says how the whole chain goes on: it ends at a class, at
something else or at a module that cannot be had, or it never ends.
-/

namespace Module

/-- The first binding of the name is the class at a node. -/
def BindsClass (m : Module) (name : String) (node : Nat) : Prop :=
  ∃ b c, m.topLevelBinding? name = some b ∧ b.node = node ∧ m.kind? node = some (.classDef c)

/-- The first binding of the name is a `from` import of a name of another module. -/
def BindsImported (m : Module) (name : String) (q : String × String) : Prop :=
  ∃ b i imported, m.topLevelBinding? name = some b ∧ m.kind? b.node = some (.imports i) ∧
    i.isFrom = true ∧ m.importSource? i = some q.1 ∧ i.binding? name = some imported ∧
    imported.name = q.2

/-- The name neither is a class nor leads on to another module. -/
inductive BindsNoClass (m : Module) (name : String) : Prop where
  | unbound (h : m.topLevelBinding? name = none)
  | other (b : Binding) (h : m.topLevelBinding? name = some b)
      (hclass : ∀ c, m.kind? b.node ≠ some (.classDef c))
      (himport : ∀ i, m.kind? b.node ≠ some (.imports i))
  | plainImport (b : Binding) (i : Import) (h : m.topLevelBinding? name = some b)
      (himport : m.kind? b.node = some (.imports i)) (hplain : i.isFrom = false)
  | noSource (b : Binding) (i : Import) (h : m.topLevelBinding? name = some b)
      (himport : m.kind? b.node = some (.imports i)) (hsource : m.importSource? i = none)

section Exported

variable {m : Module} {name : String}

theorem exported_of_bindsClass {node : Nat} (h : m.BindsClass name node) :
    m.exported name = .definition node := by
  obtain ⟨b, c, hb, rfl, hc⟩ := h
  have hkind := (kind_eq_classDef_iff (of_topLevelBinding? hb).1).mpr ⟨c, hc⟩
  simp only [exported, hb, hkind]

theorem exported_of_bindsImported {q : String × String} (h : m.BindsImported name q) :
    m.exported name = .reexport q.1 q.2 := by
  obtain ⟨b, i, imported, hb, hi, hfrom, hsource, himported, hname⟩ := h
  have hkind := (kind_eq_imports_iff (of_topLevelBinding? hb).1).mpr ⟨i, hi⟩
  simp only [exported, hb, hkind, hi, hfrom, hsource, himported, hname, if_true]

theorem exported_of_bindsNoClass (h : m.BindsNoClass name) : m.exported name = .nothing := by
  cases h with
  | unbound h => simp only [exported, h]
  | other b h hclass himport =>
      have hmem := (of_topLevelBinding? h).1
      have hclass : b.kind ≠ .classDef := fun hkind =>
        absurd ((kind_eq_classDef_iff hmem).mp hkind) (not_exists.mpr hclass)
      have himport : b.kind ≠ .imports := fun hkind =>
        absurd ((kind_eq_imports_iff hmem).mp hkind) (not_exists.mpr himport)
      simp only [exported, h]
      split <;> simp_all
  | plainImport b i h himport hplain =>
      have hkind := (kind_eq_imports_iff (of_topLevelBinding? h).1).mpr ⟨i, himport⟩
      simp [exported, h, hkind, himport, hplain]
  | noSource b i h himport hsource =>
      have hkind := (kind_eq_imports_iff (of_topLevelBinding? h).1).mpr ⟨i, himport⟩
      simp [exported, h, hkind, himport, hsource]

variable (m name) in
theorem binds_cases :
    (∃ node, m.BindsClass name node) ∨ (∃ q, m.BindsImported name q) ∨ m.BindsNoClass name := by
  cases hb : m.topLevelBinding? name with
  | none => exact .inr (.inr (.unbound hb))
  | some b =>
      by_cases hclass : ∃ c, m.kind? b.node = some (.classDef c)
      · obtain ⟨c, hc⟩ := hclass
        exact .inl ⟨b.node, b, c, hb, rfl, hc⟩
      by_cases himport : ∃ i, m.kind? b.node = some (.imports i)
      · obtain ⟨i, hi⟩ := himport
        obtain ⟨hmem, rfl⟩ := of_topLevelBinding? hb
        obtain ⟨imported, himported⟩ := exists_binding?_of_mem_bindings hmem hi
        cases hfrom : i.isFrom with
        | false => exact .inr (.inr (.plainImport b i hb hi hfrom))
        | true =>
            cases hsource : m.importSource? i with
            | none => exact .inr (.inr (.noSource b i hb hi hsource))
            | some source =>
                exact .inr (.inl ⟨(source, imported.name), b, i, imported, hb, hi, hfrom,
                  hsource, himported, rfl⟩)
      · exact .inr (.inr (.other b hb (not_exists.mp hclass) (not_exists.mp himport)))

end Exported

end Module

namespace Library

/-- What a library answers when it is asked for a module. -/
def find (lib : Library) (name : String) : Except ResolveError Module := (lib.resolve name).1

theorem find_insert (lib : Library) (name : String) (m : Module) (other : String) :
    (lib.insert name m).find other = if other = name then .ok m else lib.find other := by
  by_cases hname : other = name
  · simp [find, resolve, insert, hname]
  · have hlookup : (lib.insert name m).loaded.lookup other = lib.loaded.lookup other := by
      simp [insert, List.lookup_cons, beq_eq_false_iff_ne.mpr hname]
    rw [if_neg hname, find, find, resolve, resolve, hlookup]
    cases lib.loaded.lookup other with
    | some m => rfl
    | none => cases hsearch : lib.search other <;> simp [insert, hsearch]

/-- Asking for a module does not change what a library answers. -/
theorem find_resolve (lib : Library) (name : String) : (lib.resolve name).2.find = lib.find := by
  have hfind : lib.find name = (lib.resolve name).1 := rfl
  unfold resolve at hfind ⊢
  cases hloaded : lib.loaded.lookup name with
  | some m => rfl
  | none =>
      cases hsearch : lib.search name with
      | error e => rfl
      | ok m =>
          simp only [hloaded, hsearch] at hfind ⊢
          funext other
          rw [find_insert]
          split
          case isTrue hname => rw [hname, hfind]
          case isFalse => rfl

/-- A name of a module, first, is imported there as a name of another module. -/
def Reexports (lib : Library) (p q : String × String) : Prop :=
  ∃ m, lib.find p.1 = .ok m ∧ m.BindsImported p.2 q

abbrev Chain (lib : Library) : String × String → String × String → Prop :=
  Relation.ReflTransGen lib.Reexports

/-- The chain goes no further, and what is found there. -/
inductive Ends (lib : Library) (p : String × String) :
    Except ResolveError (Option ResolvedClass) → Prop where
  | atClass (c : ResolvedClass) (h : lib.find p.1 = .ok c.home)
      (hclass : c.home.BindsClass p.2 c.node) : Ends lib p (.ok (some c))
  | atNoClass (m : Module) (h : lib.find p.1 = .ok m) (hclass : m.BindsNoClass p.2) :
      Ends lib p (.ok none)
  | rejected (e : ResolveError) (h : lib.find p.1 = .error e) : Ends lib p (.error e)

/-- The chain leads on from every name that it leads to. -/
def Endless (lib : Library) (start : String × String) : Prop :=
  ∀ p, lib.Chain start p → ∃ q, lib.Reexports p q

def passable (lib : Library) (start : String × String) : Set (String × String) :=
  {p | lib.Chain start p ∧ ∃ q, lib.Reexports p q}

/-- The chain passes different names up to the first one that it has passed before. -/
def FirstMetTwice (lib : Library) (start p : String × String) : Prop :=
  ∃ passed : List (String × String), (passed ++ [p]).head? = some start ∧
    (passed ++ [p]).IsChain lib.Reexports ∧ passed.Nodup ∧ p ∈ passed

theorem reexports_congr {lib other : Library} (h : lib.find = other.find) :
    lib.Reexports = other.Reexports := by
  unfold Reexports
  rw [h]

theorem Ends.congr {lib other : Library} (h : lib.find = other.find) {p : String × String}
    {r : Except ResolveError (Option ResolvedClass)} (hends : lib.Ends p r) : other.Ends p r := by
  cases hends with
  | atClass c hfind hclass => exact .atClass c (h ▸ hfind) hclass
  | atNoClass m hfind hclass => exact .atNoClass m (h ▸ hfind) hclass
  | rejected e hfind => exact .rejected e (h ▸ hfind)

theorem reexports_or_ends (lib : Library) (p : String × String) :
    (∃ q, lib.Reexports p q) ∨ ∃ r, lib.Ends p r := by
  cases hfind : lib.find p.1 with
  | error e => exact .inr ⟨_, .rejected e hfind⟩
  | ok m =>
      rcases m.binds_cases p.2 with ⟨node, hclass⟩ | ⟨q, himported⟩ | hnone
      · exact .inr ⟨_, .atClass ⟨m, node⟩ hfind hclass⟩
      · exact .inl ⟨q, m, hfind, himported⟩
      · exact .inr ⟨_, .atNoClass m hfind hnone⟩

end Library

namespace Trail

variable {t : Trail} {q : String × String} {r : Except ResolveError (Option ResolvedClass)}

def here (t : Trail) : String × String := (t.moduleName, t.name)

theorem step_of_visited (h : t.here ∈ t.visited) :
    t.step = .inl (.error (.cycle t.here.1 t.here.2), t.library) := by
  rw [step, if_pos (by simpa [here] using h)]
  rfl

theorem step_of_new (hnew : t.here ∉ t.visited) :
    t.step =
      match t.library.find t.here.1 with
      | .error e => .inl (.error e, (t.library.resolve t.here.1).2)
      | .ok m =>
        match m.exported t.here.2 with
        | .definition node => .inl (.ok (some ⟨m, node⟩), (t.library.resolve t.here.1).2)
        | .nothing => .inl (.ok none, (t.library.resolve t.here.1).2)
        | .reexport source imported =>
          .inr ⟨(t.library.resolve t.here.1).2, t.here :: t.visited, source, imported⟩ := by
  have hresolve : t.library.resolve t.here.1 = t.library.resolve t.moduleName := rfl
  rw [step, if_neg (by simpa [here] using hnew), Library.find, hresolve]
  rcases t.library.resolve t.moduleName with ⟨e | m, lib⟩ <;> rfl

theorem step_of_ends (hnew : t.here ∉ t.visited) (h : t.library.Ends t.here r) :
    t.step = .inl (r, (t.library.resolve t.here.1).2) := by
  rw [step_of_new hnew]
  cases h with
  | rejected e hfind => simp only [hfind]
  | atClass c hfind hclass => simp only [hfind, Module.exported_of_bindsClass hclass]
  | atNoClass m hfind hnone => simp only [hfind, Module.exported_of_bindsNoClass hnone]

theorem step_of_reexports (hnew : t.here ∉ t.visited) (h : t.library.Reexports t.here q) :
    t.step = .inr ⟨(t.library.resolve t.here.1).2, t.here :: t.visited, q.1, q.2⟩ := by
  obtain ⟨m, hfind, himported⟩ := h
  rw [step_of_new hnew]
  simp only [hfind, Module.exported_of_bindsImported himported]

end Trail

namespace Library

section Chains

variable {lib : Library} {start p q : String × String}
  {r r' : Except ResolveError (Option ResolvedClass)}

theorem Reexports.unique {q' : String × String} (h : lib.Reexports p q)
    (h' : lib.Reexports p q') : q = q' := by
  have hstep := Trail.step_of_reexports (t := ⟨lib, [], p.1, p.2⟩) List.not_mem_nil h
  rw [Trail.step_of_reexports List.not_mem_nil h'] at hstep
  injection hstep with hstep
  injection hstep with _ _ hsource hname
  exact (Prod.ext hsource hname).symm

theorem Ends.unique (h : lib.Ends p r) (h' : lib.Ends p r') : r = r' := by
  have hstep := Trail.step_of_ends (t := ⟨lib, [], p.1, p.2⟩) List.not_mem_nil h
  rw [Trail.step_of_ends List.not_mem_nil h'] at hstep
  injection hstep with hstep
  exact (congrArg Prod.fst hstep).symm

theorem Ends.not_reexports (h : lib.Ends p r) : ¬ lib.Reexports p q := by
  intro hq
  have hstep := Trail.step_of_ends (t := ⟨lib, [], p.1, p.2⟩) List.not_mem_nil h
  rw [Trail.step_of_reexports List.not_mem_nil hq] at hstep
  cases hstep

theorem Chain.ends_unique (h : lib.Chain start p) (h' : lib.Chain start q) (hp : lib.Ends p r)
    (hq : lib.Ends q r') : r = r' := by
  induction h using Relation.ReflTransGen.head_induction_on with
  | refl =>
      rcases h'.cases_head with rfl | ⟨next, hnext, _⟩
      · exact hp.unique hq
      · exact absurd hnext hp.not_reexports
  | head hfirst _ ih =>
      rcases h'.cases_head with rfl | ⟨next, hnext, hrest⟩
      · exact absurd hfirst hq.not_reexports
      · exact ih (hfirst.unique hnext ▸ hrest)

theorem Endless.not_ends (h : lib.Endless start) (hp : lib.Chain start p) : ¬ lib.Ends p r := by
  intro hends
  obtain ⟨q, hq⟩ := h p hp
  exact hends.not_reexports hq

theorem prefix_or_prefix_of_isChain {l l' : List (String × String)}
    (h : (p :: l).IsChain lib.Reexports) (h' : (p :: l').IsChain lib.Reexports) :
    l <+: l' ∨ l' <+: l := by
  induction l generalizing p l' with
  | nil => exact .inl List.nil_prefix
  | cons a l ih =>
      cases l' with
      | nil => exact .inr List.nil_prefix
      | cons b l' =>
          rw [List.isChain_cons_cons] at h h'
          obtain rfl : a = b := h.1.unique h'.1
          rcases ih h.2 h'.2 with hpart | hpart
          · exact .inl ((List.prefix_cons_inj a).mpr hpart)
          · exact .inr ((List.prefix_cons_inj a).mpr hpart)

theorem eq_of_concat_isPrefix {passed passed' : List (String × String)} (hnodup : passed'.Nodup)
    (hp : p ∈ passed) (h : passed ++ [p] <+: passed' ++ [q]) : p = q := by
  rcases List.prefix_concat_iff.mp h with heq | hpart
  · exact List.singleton_inj.mp (List.append_inj' heq rfl).2
  · have hfresh := (List.nodup_append.mp (hpart.sublist.nodup hnodup)).2.2
    exact absurd rfl (hfresh p hp p (List.mem_singleton_self p))

theorem FirstMetTwice.unique (h : lib.FirstMetTwice start p) (h' : lib.FirstMetTwice start q) :
    p = q := by
  obtain ⟨passed, hstart, hchain, hnodup, hp⟩ := h
  obtain ⟨passed', hstart', hchain', hnodup', hq⟩ := h'
  -- One of the two chains is a part of the other one, and only its last name comes twice.
  obtain ⟨rest, hrest⟩ := List.head?_eq_some_iff.mp hstart
  obtain ⟨rest', hrest'⟩ := List.head?_eq_some_iff.mp hstart'
  rw [hrest] at hchain
  rw [hrest'] at hchain'
  rcases prefix_or_prefix_of_isChain hchain hchain' with hpart | hpart
  · refine eq_of_concat_isPrefix hnodup' hp ?_
    rw [hrest, hrest']
    exact (List.prefix_cons_inj start).mpr hpart
  · refine (eq_of_concat_isPrefix hnodup hq ?_).symm
    rw [hrest, hrest']
    exact (List.prefix_cons_inj start).mpr hpart

theorem exists_next_of_isChain {passed : List (String × String)}
    (h : (passed ++ [p]).IsChain lib.Reexports) (hq : q ∈ passed) :
    ∃ next ∈ passed ++ [p], lib.Reexports q next := by
  obtain ⟨front, back, rfl⟩ := List.append_of_mem hq
  rw [List.append_assoc, List.cons_append] at h ⊢
  have htail := (List.isChain_append.mp h).2.1
  cases back with
  | nil => exact ⟨p, by simp, (List.isChain_cons_cons.mp htail).1⟩
  | cons next back => exact ⟨next, by simp, (List.isChain_cons_cons.mp htail).1⟩

/-- The names that a chain has passed up to one that it meets again are all that it ever leads
to. -/
theorem mem_of_chain {passed : List (String × String)}
    (hstart : (passed ++ [p]).head? = some start)
    (hchain : (passed ++ [p]).IsChain lib.Reexports) (hp : p ∈ passed) (h : lib.Chain start q) :
    q ∈ passed := by
  have hback : ∀ x ∈ passed ++ [p], x ∈ passed := by
    intro x hx
    rcases List.mem_append.mp hx with hx | hx
    · exact hx
    · exact List.mem_singleton.mp hx ▸ hp
  induction h with
  | refl => exact hback start (List.mem_of_head? hstart)
  | tail _ hlast ih =>
      obtain ⟨y, hy, hxy⟩ := exists_next_of_isChain hchain ih
      exact hlast.unique hxy ▸ hback y hy

/-- A chain that meets a name twice goes round from there on. -/
theorem FirstMetTwice.endless (h : lib.FirstMetTwice start p) : lib.Endless start := by
  obtain ⟨passed, hstart, hchain, -, hp⟩ := h
  intro x hx
  obtain ⟨y, _, hxy⟩ := exists_next_of_isChain hchain (mem_of_chain hstart hchain hp hx)
  exact ⟨y, hxy⟩

theorem FirstMetTwice.finite_passable (h : lib.FirstMetTwice start p) :
    (lib.passable start).Finite := by
  obtain ⟨passed, hstart, hchain, -, hp⟩ := h
  exact (List.finite_toSet passed).subset fun x hx => mem_of_chain hstart hchain hp hx.1

theorem Ends.finite_passable (h : lib.Ends p r) (hchain : lib.Chain start p) :
    (lib.passable start).Finite := by
  induction hchain using Relation.ReflTransGen.head_induction_on with
  | refl =>
      refine Set.finite_empty.subset ?_
      rintro q ⟨hq, next, hnext⟩
      rcases hq.cases_head with rfl | ⟨second, hsecond, _⟩
      · exact absurd hnext h.not_reexports
      · exact absurd hsecond h.not_reexports
  | @head first second hfirst hrest ih =>
      refine (ih.insert first).subset ?_
      rintro q ⟨hq, hnext⟩
      rcases hq.cases_head with rfl | ⟨other, hother, hq⟩
      · exact Set.mem_insert ..
      · exact Set.mem_insert_of_mem _ ⟨hfirst.unique hother ▸ hq, hnext⟩

/-- How the search for a class from a name has to answer. -/
inductive Outcome (lib : Library) (start : String × String) :
    Except ResolveError (Option ResolvedClass) → Prop where
  | ends {p : String × String} {r : Except ResolveError (Option ResolvedClass)}
      (hchain : lib.Chain start p) (hends : lib.Ends p r) : Outcome lib start r
  | cycles {p : String × String} (h : lib.FirstMetTwice start p) :
      Outcome lib start (.error (.cycle p.1 p.2))

theorem Outcome.finite_passable (h : lib.Outcome start r) : (lib.passable start).Finite := by
  cases h with
  | ends hchain hends => exact hends.finite_passable hchain
  | cycles htwice => exact htwice.finite_passable

theorem Outcome.unique (h : lib.Outcome start r) (h' : lib.Outcome start r') : r = r' := by
  cases h with
  | ends hchain hends =>
      cases h' with
      | ends hchain' hends' => exact hchain.ends_unique hchain' hends hends'
      | cycles htwice => exact absurd hends (htwice.endless.not_ends hchain)
  | cycles htwice =>
      cases h' with
      | ends hchain hends => exact absurd hends (htwice.endless.not_ends hchain)
      | cycles htwice' => rw [htwice.unique htwice']

end Chains

end Library

namespace Trail

/-- The search from a trail comes to an answer in finitely many steps. -/
inductive Answers : Trail → ClassAnswer → Prop where
  | stop {t : Trail} {a : ClassAnswer} (h : t.step = .inl a) : Answers t a
  | next {t t' : Trail} {a : ClassAnswer} (h : t.step = .inr t') (hrest : Answers t' a) :
      Answers t a

theorem Answers.follow_eq {t : Trail} {a : ClassAnswer} (h : t.Answers a) : t.follow = a := by
  induction h with
  | stop h => rw [follow, h]
  | next h _ ih =>
      rw [follow, h]
      exact ih

/-- A trail has come along the chain from a name without meeting a name twice. -/
structure Follows (lib : Library) (start : String × String) (t : Trail) : Prop where
  find : t.library.find = lib.find
  head : (t.visited.reverse ++ [t.here]).head? = some start
  chain : (t.visited.reverse ++ [t.here]).IsChain lib.Reexports
  nodup : t.visited.Nodup

section Follows

variable {lib : Library} {start q : String × String} {t : Trail}

theorem follows_start (lib : Library) (start : String × String) :
    Follows lib start ⟨lib, [], start.1, start.2⟩ :=
  ⟨rfl, rfl, List.isChain_singleton _, List.nodup_nil⟩

theorem Follows.next (h : Follows lib start t) (hnew : t.here ∉ t.visited)
    (hq : lib.Reexports t.here q) :
    Follows lib start ⟨(t.library.resolve t.here.1).2, t.here :: t.visited, q.1, q.2⟩ := by
  refine ⟨(t.library.find_resolve _).trans h.find, ?_, ?_, List.nodup_cons.mpr ⟨hnew, h.nodup⟩⟩
  · rw [List.reverse_cons, List.head?_append, h.head]
    rfl
  · rw [List.reverse_cons, List.isChain_append]
    refine ⟨h.chain, List.isChain_singleton _, ?_⟩
    simpa [here] using hq

theorem Follows.chain_of_mem (h : Follows lib start t) {p : String × String}
    (hp : p ∈ t.visited.reverse ++ [t.here]) : lib.Chain start p := by
  refine List.IsChain.induction (lib.Chain start) _ h.chain (fun _ _ hxy hx => hx.tail hxy) ?_ p hp
  intro hne
  rw [Option.some.inj ((List.head?_eq_some_head hne).symm.trans h.head)]

/-- A step ends the search with the answer that is due, or takes the trail on. -/
theorem Follows.step (h : Follows lib start t) :
    (∃ a, t.step = .inl a ∧ lib.Outcome start a.1) ∨
      ∃ t', t.step = .inr t' ∧ Follows lib start t' ∧ t'.visited = t.here :: t.visited := by
  by_cases hnew : t.here ∈ t.visited
  · refine .inl ⟨_, step_of_visited hnew, .cycles ⟨t.visited.reverse, h.head, h.chain, ?_, ?_⟩⟩
    · exact List.nodup_reverse.mpr h.nodup
    · exact List.mem_reverse.mpr hnew
  rcases lib.reexports_or_ends t.here with ⟨q, hq⟩ | ⟨r, hr⟩
  · refine .inr ⟨_, step_of_reexports hnew ?_, h.next hnew hq, rfl⟩
    rwa [Library.reexports_congr h.find]
  · refine .inl ⟨_, step_of_ends hnew (hr.congr h.find.symm), .ends (h.chain_of_mem ?_) hr⟩
    simp

theorem Follows.length_visited_le (h : Follows lib start t)
    (hfinite : (lib.passable start).Finite) :
    t.visited.length ≤ hfinite.toFinset.card := by
  rw [← List.toFinset_card_of_nodup h.nodup]
  refine Finset.card_le_card ?_
  intro p hp
  have hp := List.mem_reverse.mpr (List.mem_toFinset.mp hp)
  obtain ⟨q, _, hq⟩ := Library.exists_next_of_isChain h.chain hp
  exact hfinite.mem_toFinset.mpr ⟨h.chain_of_mem (List.mem_append_left _ hp), q, hq⟩

theorem Follows.answers (hfinite : (lib.passable start).Finite) (room : Nat)
    (h : Follows lib start t) (hroom : hfinite.toFinset.card < t.visited.length + room) :
    ∃ a, t.Answers a ∧ lib.Outcome start a.1 := by
  -- Each step passes a new name, and there is room for finitely many of them.
  induction room generalizing t with
  | zero => exact absurd (h.length_visited_le hfinite) (Nat.not_le.mpr hroom)
  | succ room ih =>
      rcases h.step with ⟨a, ha, houtcome⟩ | ⟨t', ht', hnext, hvisited⟩
      · exact ⟨a, .stop ha, houtcome⟩
      · have hlength : t'.visited.length = t.visited.length + 1 := by
          rw [hvisited, List.length_cons]
        obtain ⟨a, ha, houtcome⟩ := ih hnext (by omega)
        exact ⟨a, .next ht' ha, houtcome⟩

theorem Follows.finite_passable {a : ClassAnswer} (h : Follows lib start t) (ha : t.Answers a) :
    (lib.passable start).Finite := by
  induction ha with
  | stop hstop =>
      rcases h.step with ⟨a, ha, houtcome⟩ | ⟨t', ht', -⟩
      · exact houtcome.finite_passable
      · cases hstop.symm.trans ht'
  | next hnext _ ih =>
      rcases h.step with ⟨a, ha, -⟩ | ⟨t', ht', hfollows, -⟩
      · cases hnext.symm.trans ha
      · cases hnext.symm.trans ht'
        exact ih hfollows

end Follows

end Trail

namespace Library

variable {lib : Library} {start p : String × String}
  {r : Except ResolveError (Option ResolvedClass)}

theorem lookupClass_answers (h : (lib.passable start).Finite) :
    ∃ answer, Trail.Answers ⟨lib, [], start.1, start.2⟩ answer ∧
      lib.lookupClass start.1 start.2 = answer ∧ lib.Outcome start answer.1 := by
  obtain ⟨answer, hanswer, houtcome⟩ := (Trail.follows_start lib start).answers h
    (h.toFinset.card + 1) (by omega)
  exact ⟨answer, hanswer, hanswer.follow_eq, houtcome⟩

/-- A search comes to an answer exactly if finitely many names lead on from its start. -/
theorem exists_answers_iff (lib : Library) (start : String × String) :
    (∃ answer, Trail.Answers ⟨lib, [], start.1, start.2⟩ answer) ↔
      (lib.passable start).Finite :=
  ⟨fun ⟨_, hanswer⟩ => (Trail.follows_start lib start).finite_passable hanswer,
    fun h => (lookupClass_answers h).imp fun _ => And.left⟩

theorem lookupClass_eq_iff (h : (lib.passable start).Finite) :
    (lib.lookupClass start.1 start.2).1 = r ↔ lib.Outcome start r := by
  obtain ⟨answer, _, hlookup, houtcome⟩ := lookupClass_answers h
  rw [hlookup]
  exact ⟨fun heq => heq ▸ houtcome, fun hr => houtcome.unique hr⟩

theorem lookupClass_of_ends (hchain : lib.Chain start p) (hends : lib.Ends p r) :
    (lib.lookupClass start.1 start.2).1 = r :=
  (lookupClass_eq_iff (hends.finite_passable hchain)).mpr (.ends hchain hends)

theorem finite_reexported (lib : Library) (moduleName : String) :
    {name | ∃ q, lib.Reexports (moduleName, name) q}.Finite := by
  cases hfind : lib.find moduleName with
  | error e =>
      refine Set.finite_empty.subset ?_
      rintro name ⟨q, m, hm, _⟩
      simp [hfind] at hm
  | ok m =>
      refine (List.finite_toSet ((m.bindings Module.root).map Binding.name)).subset ?_
      rintro name ⟨q, m', hm', b, i, imported, hb, _⟩
      obtain rfl : m = m' := Except.ok.inj (hfind.symm.trans hm')
      exact List.mem_map.mpr ⟨b, Module.of_topLevelBinding? hb⟩

/-- Where finitely many modules are met from a name, finitely many names lead on. -/
theorem finite_passable_of_met {start : String × String}
    (h : {moduleName | ∃ name m, lib.Chain start (moduleName, name) ∧
      lib.find moduleName = .ok m}.Finite) : (lib.passable start).Finite := by
  refine (h.biUnion fun moduleName _ =>
    (lib.finite_reexported moduleName).image (Prod.mk moduleName)).subset ?_
  rintro ⟨moduleName, name⟩ ⟨hchain, q, hq⟩
  have ⟨m, hm, _⟩ := hq
  exact Set.mem_biUnion ⟨name, m, hchain, hm⟩ ⟨name, ⟨q, hq⟩, rfl⟩

/-- A library that finds finitely many modules has finitely many names that lead on. -/
theorem finite_passable (h : {name | ∃ m, lib.find name = .ok m}.Finite)
    (start : String × String) : (lib.passable start).Finite :=
  finite_passable_of_met (h.subset fun _ ⟨_, m, _, hm⟩ => ⟨m, hm⟩)

theorem outcome_class_iff {c : ResolvedClass} :
    lib.Outcome start (.ok (some c)) ↔ ∃ p, lib.Chain start p ∧
      lib.find p.1 = .ok c.home ∧ c.home.BindsClass p.2 c.node := by
  constructor
  · intro h
    cases h with
    | ends hchain hends =>
        cases hends with
        | atClass _ hfind hclass => exact ⟨_, hchain, hfind, hclass⟩
  · rintro ⟨p, hchain, hfind, hclass⟩
    exact .ends hchain (.atClass c hfind hclass)

theorem outcome_none_iff :
    lib.Outcome start (.ok none) ↔ ∃ p m, lib.Chain start p ∧
      lib.find p.1 = .ok m ∧ m.BindsNoClass p.2 := by
  constructor
  · intro h
    cases h with
    | ends hchain hends =>
        cases hends with
        | atNoClass m hfind hnone => exact ⟨_, m, hchain, hfind, hnone⟩
  · rintro ⟨p, m, hchain, hfind, hnone⟩
    exact .ends hchain (.atNoClass m hfind hnone)

theorem outcome_error_iff {e : ResolveError} :
    lib.Outcome start (.error e) ↔ (∃ p, lib.Chain start p ∧ lib.find p.1 = .error e) ∨
      lib.Endless start ∧ ∃ p, lib.FirstMetTwice start p ∧ e = .cycle p.1 p.2 := by
  constructor
  · intro h
    cases h with
    | ends hchain hends =>
        cases hends with
        | rejected _ hfind => exact .inl ⟨_, hchain, hfind⟩
    | cycles htwice => exact .inr ⟨htwice.endless, _, htwice, rfl⟩
  · rintro (⟨p, hchain, hfind⟩ | ⟨_, p, htwice, rfl⟩)
    · exact .ends hchain (.rejected e hfind)
    · exact .cycles htwice

/-- A library that finds finitely many modules answers every search for a class. The chain of
re-exports from the name decides the answer: a class at its end, something else there, a module
that cannot be had, or the first name that a chain without end meets twice. -/
theorem lookupClass_decided (lib : Library)
    (hfinite : {name | ∃ m, lib.find name = .ok m}.Finite) (moduleName name : String) :
    let start := (moduleName, name)
    let found := (lib.lookupClass moduleName name).1
    (∃ answer, Trail.Answers ⟨lib, [], moduleName, name⟩ answer ∧
      lib.lookupClass moduleName name = answer) ∧
    (∀ c, found = .ok (some c) ↔ ∃ p, lib.Chain start p ∧
      lib.find p.1 = .ok c.home ∧ c.home.BindsClass p.2 c.node) ∧
    (found = .ok none ↔ ∃ p m, lib.Chain start p ∧
      lib.find p.1 = .ok m ∧ m.BindsNoClass p.2) ∧
    (∀ e, found = .error e ↔ (∃ p, lib.Chain start p ∧ lib.find p.1 = .error e) ∨
      lib.Endless start ∧ ∃ p, lib.FirstMetTwice start p ∧ e = .cycle p.1 p.2) ∧
    (∀ e, (∀ p : String × String, e ≠ .cycle p.1 p.2) →
      (found = .error e ↔ ∃ p, lib.Chain start p ∧ lib.find p.1 = .error e)) ∧
    (∀ p, (∀ other, lib.find other ≠ .error (.cycle p.1 p.2)) →
      (found = .error (.cycle p.1 p.2) ↔ lib.Endless start ∧ lib.FirstMetTwice start p)) := by
  intro start found
  have hpassable := finite_passable hfinite start
  have hfound : ∀ r, found = r ↔ lib.Outcome start r := fun r => lookupClass_eq_iff hpassable
  refine ⟨?_, ?_, ?_, ?_, ?_, ?_⟩
  · obtain ⟨answer, hanswer, hlookup, _⟩ := lookupClass_answers hpassable
    exact ⟨answer, hanswer, hlookup⟩
  · intro c
    rw [hfound, outcome_class_iff]
  · rw [hfound, outcome_none_iff]
  · intro e
    rw [hfound, outcome_error_iff]
  · intro e he
    rw [hfound, outcome_error_iff, or_iff_left]
    rintro ⟨_, p, _, rfl⟩
    exact he p rfl
  · intro p hp
    rw [hfound, outcome_error_iff, or_iff_right]
    · refine and_congr_right fun _ => ⟨?_, fun htwice => ⟨p, htwice, rfl⟩⟩
      rintro ⟨q, htwice, heq⟩
      injection heq with hmodule hname
      obtain rfl : p = q := Prod.ext hmodule hname
      exact htwice
    · rintro ⟨q, _, hfind⟩
      exact hp q.1 hfind

theorem finite_find_ofModules (modules : List (String × Module)) :
    {name | ∃ m, (ofModules modules).find name = .ok m}.Finite := by
  refine (List.finite_toSet (modules.map Prod.fst)).subset ?_
  rintro name ⟨m, hm⟩
  by_contra hname
  have hnone : modules.lookup name = none := by
    rw [List.lookup_eq_none_iff]
    intro pair hpair
    simp only [bne_iff_ne]
    rintro rfl
    exact hname (List.mem_map.mpr ⟨pair, hpair, rfl⟩)
  simp [find, resolve, ofModules, hnone] at hm

/-- A library of three modules, each with one `from` import: the first one imports a name from
the second one, which the other two import from each other under changing names. -/
def roundabout : Library :=
  let importing (name source imported : String) (asName : Option String) : String × Module :=
    (name, ⟨name, .ofString "m.py", [], false,
      #[⟨.root none, ⟨1, 0⟩, none, [1]⟩,
        ⟨.imports ⟨some source, 0, true, [⟨imported, asName⟩], false⟩, ⟨1, 0⟩, some 0, []⟩]⟩)
  ofModules [importing "pkg" "pkg.a" "A" none, importing "pkg.a" "pkg.b" "B" (some "A"),
    importing "pkg.b" "pkg.a" "A" (some "B")]

theorem firstMetTwice_roundabout : roundabout.FirstMetTwice ("pkg", "A") ("pkg.a", "A") := by
  have hfirst : roundabout.Reexports ("pkg", "A") ("pkg.a", "A") :=
    ⟨_, rfl, _, _, _, rfl, rfl, rfl, rfl, rfl, rfl⟩
  have hsecond : roundabout.Reexports ("pkg.a", "A") ("pkg.b", "B") :=
    ⟨_, rfl, _, _, _, rfl, rfl, rfl, rfl, rfl, rfl⟩
  have hthird : roundabout.Reexports ("pkg.b", "B") ("pkg.a", "A") :=
    ⟨_, rfl, _, _, _, rfl, rfl, rfl, rfl, rfl, rfl⟩
  exact ⟨[("pkg", "A"), ("pkg.a", "A"), ("pkg.b", "B")], rfl,
    by simp [hfirst, hsecond, hthird], by decide, by decide⟩

theorem lookupClass_decided_roundabout :
    {name | ∃ m, roundabout.find name = .ok m}.Finite ∧
      (roundabout.lookupClass "pkg" "A").1 = .error (.cycle "pkg.a" "A") := by
  have hfinite : {name | ∃ m, roundabout.find name = .ok m}.Finite := finite_find_ofModules _
  exact ⟨hfinite, ((lookupClass_decided roundabout hfinite "pkg" "A").2.2.2.1 _).mpr
    (.inr ⟨firstMetTwice_roundabout.endless, _, firstMetTwice_roundabout, rfl⟩)⟩

end Library

end CodingStandard
