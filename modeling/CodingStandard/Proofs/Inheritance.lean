import CodingStandard.Checker.TestClass
import Mathlib.Data.List.Basic
import Mathlib.Logic.Relation

namespace CodingStandard

/-!
# Classes that derive from `TestCase`

Whether a class derives from `TestCase` is searched for along its bases. The names of the classes
seen are handed on from one base to the next and never taken back, so the search ends. What it has
seen in vain stays closed: no such class names a `TestCase`, and all its bases have been seen too.
Names stand for classes there, and the first class of a name is meant. Only the class that the
search starts from need not be the first of its name; then the first one passes for seen.
-/

namespace TestClass

variable {m : Module} {c d e : ClassDef} {base : Expr} {bases rest : List Expr}
  {seen between after : List String} {answer : Bool} {name : String}

/-! ## Deriving from a class -/

/-- A class has a `TestCase` among its bases, in whatever module. -/
def ExtendsTestCase (c : ClassDef) : Prop := ∃ base ∈ c.bases, isTestCase base = true

/-- A class has another class of the module among its bases. -/
def Extends (m : Module) (c d : ClassDef) : Prop := ∃ base ∈ c.bases, baseClass? m base = some d

/-- A chain of classes leads from a class to one that has a `TestCase` among its bases. -/
def Derives (m : Module) (c : ClassDef) : Prop :=
  ∃ d, Relation.ReflTransGen (Extends m) c d ∧ ExtendsTestCase d

/-- Such a chain leads through no class of a name, whatever its first class is called. -/
def DerivesAvoiding (m : Module) (name : String) (c : ClassDef) : Prop :=
  ∃ d, Relation.ReflTransGen (fun c d => Extends m c d ∧ d.name ≠ name) c d ∧ ExtendsTestCase d

/-- The class of the module that a name means. -/
def classNamed? (m : Module) (name : String) : Option ClassDef :=
  (m.topLevelClass? name).bind m.class?

def classNames (m : Module) : List String :=
  (m.children Module.root).filterMap fun id => (m.class? id).map (·.name)

theorem of_classNamed? (h : classNamed? m name = some d) :
    d.name = name ∧ name ∈ classNames m := by
  obtain ⟨id, hid, hd⟩ := Option.bind_eq_some_iff.mp h
  have hname : (m.class? id).map (·.name) = some name := by simpa using List.find?_some hid
  have hmem : name ∈ classNames m :=
    List.mem_filterMap.mpr ⟨id, List.mem_of_find?_eq_some hid, hname⟩
  rw [hd, Option.map_some, Option.some.injEq] at hname
  exact ⟨hname, hmem⟩

theorem classNamed?_name (h : baseClass? m base = some d) : classNamed? m d.name = some d := by
  rw [(of_classNamed? h).1]
  exact h

theorem name_mem_classNames (h : baseClass? m base = some d) : d.name ∈ classNames m :=
  (of_classNamed? (classNamed?_name h)).2

theorem eq_of_name_eq {base' : Expr} (hd : baseClass? m base = some d)
    (he : baseClass? m base' = some e) (hname : d.name = e.name) : d = e := by
  have hd := classNamed?_name hd
  rw [hname, classNamed?_name he] at hd
  exact (Option.some.inj hd).symm

theorem DerivesAvoiding.derives (h : DerivesAvoiding m name c) : Derives m c := by
  obtain ⟨d, hchain, hd⟩ := h
  exact ⟨d, hchain.lift id fun _ _ hstep => hstep.1, hd⟩

theorem Derives.derivesAvoiding (h : Derives m c) (hc : classNamed? m c.name = some c) :
    DerivesAvoiding m c.name c := by
  obtain ⟨d, hchain, hd⟩ := h
  refine ⟨d, ?_, hd⟩
  clear hd
  induction hchain with
  | refl => exact Relation.ReflTransGen.refl
  | @tail b e _ hstep ih =>
      -- A chain that comes back to its first class is cut short there.
      by_cases hname : e.name = c.name
      · obtain ⟨base, -, he⟩ := hstep
        have hsame := classNamed?_name he
        rw [hname, hc, Option.some.injEq] at hsame
        rw [← hsame]
      · exact ih.tail ⟨hstep, hname⟩

/-! ## The search -/

/-- The search through bases, without a bound: the names seen before it, the bases that are still to
be asked, the answer, and the names seen after it. -/
inductive Search (m : Module) : List String → List Expr → Bool → List String → Prop where
  | nothing {seen : List String} : Search m seen [] false seen
  | testCase {seen : List String} {base : Expr} {rest : List Expr}
      (htest : isTestCase base = true) : Search m seen (base :: rest) true seen
  /-- The base is no class of the module, or one that has been seen. -/
  | skip {seen after : List String} {base : Expr} {rest : List Expr} {answer : Bool}
      (htest : isTestCase base = false) (hskip : ∀ d, baseClass? m base = some d → d.name ∈ seen)
      (hrest : Search m seen rest answer after) : Search m seen (base :: rest) answer after
  | found {seen after : List String} {base : Expr} {rest : List Expr} {d : ClassDef}
      (htest : isTestCase base = false) (hd : baseClass? m base = some d) (hnew : d.name ∉ seen)
      (hfound : Search m (d.name :: seen) d.bases true after) :
      Search m seen (base :: rest) true after
  | inVain {seen between after : List String} {base : Expr} {rest : List Expr} {d : ClassDef}
      {answer : Bool} (htest : isTestCase base = false) (hd : baseClass? m base = some d)
      (hnew : d.name ∉ seen) (hvain : Search m (d.name :: seen) d.bases false between)
      (hrest : Search m between rest answer after) : Search m seen (base :: rest) answer after

theorem Search.subset (h : Search m seen bases answer after) : seen ⊆ after := by
  induction h with
  | nothing => exact List.Subset.refl _
  | testCase => exact List.Subset.refl _
  | skip _ _ _ ih => exact ih
  | found _ _ _ _ ih => exact fun x hx => ih (List.mem_cons_of_mem _ hx)
  | inVain _ _ _ _ _ ihvain ihrest =>
      exact fun x hx => ihrest (ihvain (List.mem_cons_of_mem _ hx))

theorem Search.unique {answer' : Bool} {after' : List String} (h : Search m seen bases answer after)
    (h' : Search m seen bases answer' after') : answer = answer' ∧ after = after' := by
  induction h generalizing answer' after' with
  | nothing =>
      cases h'
      exact ⟨rfl, rfl⟩
  | testCase htest =>
      cases h' <;> simp_all
  | skip htest hskip _ ih =>
      cases h' with
      | testCase htest' => simp [htest] at htest'
      | skip _ _ hrest => exact ih hrest
      | found _ hd hnew => exact absurd (hskip _ hd) hnew
      | inVain _ hd hnew => exact absurd (hskip _ hd) hnew
  | found htest hd hnew _ ih =>
      cases h' with
      | testCase htest' => simp [htest] at htest'
      | skip _ hskip => exact absurd (hskip _ hd) hnew
      | found _ hd' _ hfound =>
          obtain rfl := Option.some.inj (hd.symm.trans hd')
          exact ih hfound
      | inVain _ hd' _ hvain =>
          obtain rfl := Option.some.inj (hd.symm.trans hd')
          cases (ih hvain).1
  | inVain htest hd hnew _ _ ihvain ihrest =>
      cases h' with
      | testCase htest' => simp [htest] at htest'
      | skip _ hskip => exact absurd (hskip _ hd) hnew
      | found _ hd' _ hfound =>
          obtain rfl := Option.some.inj (hd.symm.trans hd')
          cases (ihvain hfound).1
      | inVain _ hd' _ hvain hrest =>
          obtain rfl := Option.some.inj (hd.symm.trans hd')
          obtain ⟨-, rfl⟩ := ihvain hvain
          exact ihrest hrest

/-! ## The search ends -/

/-- The names of the classes of a module that have not been seen. -/
def unseen (m : Module) (seen : List String) : List String := (classNames m).filter (· ∉ seen)

theorem length_unseen_le (h : seen ⊆ after) :
    (unseen m after).length ≤ (unseen m seen).length := by
  refine (List.monotone_filter_right _ fun name hname => ?_).length_le
  simp only [decide_eq_true_eq] at hname ⊢
  exact fun hmem => hname (h hmem)

theorem length_unseen_cons_lt (hname : name ∈ classNames m) (hnew : name ∉ seen) :
    (unseen m (name :: seen)).length < (unseen m seen).length := by
  have hcons : unseen m (name :: seen) = (unseen m seen).filter (· ≠ name) := by
    rw [unseen, unseen, List.filter_filter]
    exact List.filter_congr fun x _ => by simp [not_or]
  rw [hcons, List.length_filter_lt_length_iff_exists]
  exact ⟨name, List.mem_filter.mpr ⟨hname, by simpa using hnew⟩, by simp⟩

/-- A function on classes answers for the bases as the search does: a class that has been seen is
passed over, and the bases of another one are searched. -/
def Follows (m : Module) (derives : List String → ClassDef → Bool × List String)
    (seen : List String) : Prop :=
  ∀ base d, baseClass? m base = some d →
    d.name ∈ seen ∧ derives seen d = (false, seen) ∨
      d.name ∉ seen ∧ Search m (d.name :: seen) d.bases (derives seen d).1 (derives seen d).2

theorem search_anyBase {derives : List String → ClassDef → Bool × List String}
    (hderives : ∀ after, seen ⊆ after → Follows m derives after) (bases : List Expr) :
    Search m seen bases (anyBase m derives seen bases).1 (anyBase m derives seen bases).2 := by
  induction bases generalizing seen with
  | nil => exact .nothing
  | cons base rest ih =>
      rw [anyBase]
      by_cases htest : isTestCase base = true
      · rw [if_pos htest]
        exact .testCase htest
      rw [if_neg htest]
      have htest := Bool.eq_false_iff.mpr htest
      cases hbase : baseClass? m base with
      | none => exact .skip htest (by simp [hbase]) (ih hderives)
      | some d =>
          dsimp only
          rcases hderives seen (List.Subset.refl _) base d hbase with ⟨hseen, heq⟩ | ⟨hnew, hsearch⟩
          · rw [heq]
            refine .skip htest (fun d' hd' => ?_) (ih hderives)
            obtain rfl := Option.some.inj (hbase.symm.trans hd')
            exact hseen
          · rcases hresult : derives seen d with ⟨_ | _, between⟩
            · rw [hresult] at hsearch
              refine .inVain htest hbase hnew hsearch (ih fun after hafter => hderives after ?_)
              exact fun x hx => hafter (hsearch.subset (List.mem_cons_of_mem _ hx))
            · rw [hresult] at hsearch
              exact .found htest hbase hnew hsearch

theorem follows_derivesWithin (bound : Nat) (seen : List String)
    (h : (unseen m seen).length ≤ bound) : Follows m (derivesWithin m bound) seen := by
  induction bound generalizing seen with
  | zero =>
      intro base d hd
      refine .inl ⟨?_, rfl⟩
      by_contra hnew
      have hlt := length_unseen_cons_lt (name_mem_classNames hd) hnew
      omega
  | succ bound ih =>
      intro base d hd
      rw [derivesWithin]
      by_cases hseen : d.name ∈ seen
      · exact .inl ⟨hseen, if_pos (List.contains_iff_mem.mpr hseen)⟩
      · rw [if_neg (by simpa using hseen)]
        refine .inr ⟨hseen, search_anyBase (fun after hafter => ih after ?_) d.bases⟩
        have hlt := length_unseen_cons_lt (name_mem_classNames hd) hseen
        have hle := @length_unseen_le m _ _ hafter
        omega

theorem length_unseen_le_children (m : Module) (seen : List String) :
    (unseen m seen).length ≤ (m.children Module.root).length :=
  calc (unseen m seen).length
    _ ≤ (classNames m).length := List.length_filter_le _ _
    _ ≤ (m.children Module.root).length := List.length_filterMap_le _ _

theorem search_derivesFromTestCase (m : Module) (c : ClassDef) :
    ∃ after, Search m [c.name] c.bases (derivesFromTestCase m c) after := by
  have hfollows : ∀ after, [c.name] ⊆ after →
      Follows m (derivesWithin m ((m.children Module.root).length + 1)) after := by
    intro after _
    apply follows_derivesWithin
    have hle := length_unseen_le_children m after
    omega
  exact ⟨_, search_anyBase hfollows c.bases⟩

/-! ## What the search finds -/

theorem Search.derivesAvoiding (h : Search m seen bases answer after) (hanswer : answer = true)
    (hbases : ∀ base ∈ bases, base ∈ c.bases) (hname : name ∈ seen) :
    DerivesAvoiding m name c := by
  induction h generalizing c with
  | nothing => cases hanswer
  | testCase htest => exact ⟨c, .refl, _, hbases _ List.mem_cons_self, htest⟩
  | skip _ _ _ ih => exact ih hanswer (fun b hb => hbases b (List.mem_cons_of_mem _ hb)) hname
  | found _ hd hnew _ ih =>
      obtain ⟨e, hchain, he⟩ := ih rfl (fun _ hb => hb) (List.mem_cons_of_mem _ hname)
      have hextends : Extends m c _ := ⟨_, hbases _ List.mem_cons_self, hd⟩
      exact ⟨e, hchain.head ⟨hextends, fun heq => hnew (heq ▸ hname)⟩, he⟩
  | inVain _ _ _ hvain _ _ ih =>
      exact ih hanswer (fun b hb => hbases b (List.mem_cons_of_mem _ hb))
        (hvain.subset (List.mem_cons_of_mem _ hname))

/-- Nothing is to be found among bases any more: none is a `TestCase`, and each class of the module
among them has been seen. -/
def Exhausted (m : Module) (seen : List String) (bases : List Expr) : Prop :=
  ∀ base ∈ bases, isTestCase base = false ∧ ∀ d, baseClass? m base = some d → d.name ∈ seen

theorem Exhausted.mono (h : Exhausted m seen bases) (hseen : seen ⊆ after) :
    Exhausted m after bases :=
  fun base hbase => ⟨(h base hbase).1, fun d hd => hseen ((h base hbase).2 d hd)⟩

theorem Exhausted.cons (htest : isTestCase base = false)
    (hseen : ∀ d, baseClass? m base = some d → d.name ∈ seen) (hrest : Exhausted m seen rest) :
    Exhausted m seen (base :: rest) :=
  List.forall_mem_cons.mpr ⟨⟨htest, hseen⟩, hrest⟩

/-- A search in vain exhausts its bases and those of every class that it has seen. -/
theorem Search.exhausted (h : Search m seen bases answer after) (hanswer : answer = false) :
    Exhausted m after bases ∧ ∀ base d, baseClass? m base = some d → d.name ∈ after →
      d.name ∉ seen → Exhausted m after d.bases := by
  induction h with
  | nothing => exact ⟨fun _ hbase => absurd hbase List.not_mem_nil,
      fun _ _ _ hafter hnew => absurd hafter hnew⟩
  | testCase => cases hanswer
  | skip htest hskip hrest ih =>
      obtain ⟨hbases, hclosed⟩ := ih hanswer
      exact ⟨hbases.cons htest fun d hd => hrest.subset (hskip d hd), hclosed⟩
  | found => cases hanswer
  | @inVain seen between after base rest d answer htest hd hnew hvain hrest ihvain ihrest =>
      obtain ⟨hbases, hclosed⟩ := ihrest hanswer
      obtain ⟨hown, hbetween⟩ := ihvain rfl
      refine ⟨hbases.cons htest fun d' hd' => ?_, fun base' e he hafter hunseen => ?_⟩
      · obtain rfl := Option.some.inj (hd.symm.trans hd')
        exact hrest.subset (hvain.subset List.mem_cons_self)
      -- A class seen in the meantime is the one just asked, or lies behind it.
      by_cases hmem : e.name ∈ between
      · by_cases hsame : d.name = e.name
        · obtain rfl := eq_of_name_eq hd he hsame
          exact hown.mono hrest.subset
        · refine (hbetween base' e he hmem ?_).mono hrest.subset
          exact fun hcons => (List.mem_cons.mp hcons).elim (fun heq => hsame heq.symm) hunseen
      · exact hclosed base' e he hafter hmem

theorem Search.not_derivesAvoiding (h : Search m [c.name] c.bases false after) :
    ¬ DerivesAvoiding m c.name c := by
  obtain ⟨hbases, hclosed⟩ := h.exhausted rfl
  rintro ⟨e, hchain, base, hbase, htest⟩
  have hexhausted : Exhausted m after e.bases := by
    clear htest hbase
    induction hchain with
    | refl => exact hbases
    | tail _ hstep ih =>
        obtain ⟨⟨base, hbase, hd⟩, hname⟩ := hstep
        exact hclosed base _ hd ((ih base hbase).2 _ hd) (by simpa using hname)
  rw [(hexhausted base hbase).1] at htest
  cases htest

/-- The search for a `TestCase` ends with one answer, and it finds every chain that leads through no
other class of the name of the first one. If that class is the one that its name means, it finds
every chain. -/
theorem derivesFromTestCase_iff (m : Module) (c : ClassDef) :
    (∀ answer, (∃ after, Search m [c.name] c.bases answer after) ↔
        answer = derivesFromTestCase m c) ∧
      (derivesFromTestCase m c = true ↔ DerivesAvoiding m c.name c) ∧
      (classNamed? m c.name = some c → (derivesFromTestCase m c = true ↔ Derives m c)) := by
  obtain ⟨after, hsearch⟩ := search_derivesFromTestCase m c
  have hiff : derivesFromTestCase m c = true ↔ DerivesAvoiding m c.name c := by
    constructor
    · intro hanswer
      exact hsearch.derivesAvoiding hanswer (fun _ hbase => hbase) List.mem_cons_self
    · intro hderives
      by_contra hanswer
      rw [Bool.eq_false_iff.mpr hanswer] at hsearch
      exact hsearch.not_derivesAvoiding hderives
  refine ⟨fun answer => ⟨fun ⟨_, h⟩ => (h.unique hsearch).1, fun h => h ▸ ⟨after, hsearch⟩⟩, hiff,
    fun hc => hiff.trans ⟨DerivesAvoiding.derives, fun h => h.derivesAvoiding hc⟩⟩

/-! ## A name that is bound twice -/

def emptyClass (line : Nat) (name : String) (bases : List String) : Tree :=
  .node .classDefinition .plain ⟨line, 0⟩ []
    [.node .identifier .name ⟨line, 6⟩ name.toList [],
      .node .arguments .superclasses ⟨line, 7⟩ [] (bases.map fun base =>
        .node .identifier .plain ⟨line, 8⟩ base.toList []),
      .node .block .body ⟨line + 1, 4⟩ [] []]

/-- A test case `A` by way of `C`, and then another class `A` that extends it. -/
def reboundTree : Tree :=
  .node .file .plain ⟨1, 0⟩ []
    [emptyClass 1 "A" ["B", "C"], emptyClass 3 "B" ["A"], emptyClass 5 "C" ["TestCase"],
      emptyClass 7 "A" ["A"]]

def rebound : Module := .ofTree "m" (.ofString "m.py") [] reboundTree

def reboundBase (line : Nat) (name : String) : Expr := .name ⟨name, ⟨line, 8⟩⟩

def firstA : ClassDef := ⟨"A", [reboundBase 1 "B", reboundBase 1 "C"], [], none⟩

def classC : ClassDef := ⟨"C", [reboundBase 5 "TestCase"], [], none⟩

def secondA : ClassDef := ⟨"A", [reboundBase 7 "A"], [], none⟩

/-- The first class is a test case, although its base `B` extends it in turn. -/
theorem derivesFromTestCase_iff_cyclic :
    rebound.class? 1 = some firstA ∧ classNamed? rebound firstA.name = some firstA ∧
      Derives rebound firstA := by
  have hfirst : classNamed? rebound firstA.name = some firstA := rfl
  obtain ⟨-, -, hiff⟩ := derivesFromTestCase_iff rebound firstA
  exact ⟨rfl, hfirst, (hiff hfirst).mp (by decide +kernel)⟩

/-- The second one is a test case too, and the search does not find it. -/
theorem derivesFromTestCase_misses_rebound :
    rebound.class? 4 = some secondA ∧
      ¬ (derivesFromTestCase rebound secondA = true ↔ Derives rebound secondA) := by
  refine ⟨rfl, fun h => ?_⟩
  have hfirst : Extends rebound secondA firstA := ⟨reboundBase 7 "A", List.mem_singleton_self _, rfl⟩
  have hthird : Extends rebound firstA classC := ⟨reboundBase 1 "C", by simp [firstA], rfl⟩
  have htest : ExtendsTestCase classC :=
    ⟨reboundBase 5 "TestCase", List.mem_singleton_self _, by decide +kernel⟩
  have hderives : Derives rebound secondA := ⟨classC, .head hfirst (.single hthird), htest⟩
  have hmissed : derivesFromTestCase rebound secondA = false := by decide +kernel
  rw [h.mpr hderives] at hmissed
  cases hmissed

end TestClass

end CodingStandard
