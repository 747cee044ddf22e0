import CodingStandard.Checker.Docstring.Interface
import CodingStandard.Proofs.DottedName
import CodingStandard.Proofs.Reexport

namespace CodingStandard

/-!
# Interfaces under the names of their imports

A module may name an interface of another module in several ways, depending on how it imports it,
and may import it through modules that only pass it on. All of them mean the class where it is
defined, so they give its methods the same documentation.
-/

namespace Module

/-- The first binding of a name is an import statement, in which the name stands for one of the
imports. -/
def BindsImport (m : Module) (name : String) (i : Import) (imported : ImportName) : Prop :=
  ∃ b, m.topLevelBinding? name = some b ∧ m.kind? b.node = some (.imports i) ∧
    i.binding? name = some imported

end Module

namespace Interface

open ModuleName

/-- A reference means a name of another module. Its first segment is bound by an import. -/
inductive Refers (m : Module) : (reference : String) → (target : String × String) → Prop where
  /-- `from M import X [as N]`, and `X` or `N`. -/
  | fromImport {head source : String} {i : Import} {imported : ImportName}
      (hbinds : m.BindsImport head i imported) (hhead : IsSimple head) (hfrom : i.isFrom = true)
      (hsource : m.ImportsFrom i source) : Refers m head (source, imported.name)
  /-- `import M`, and `M.X`. -/
  | plainImport {head moduleName : String} {i : Import} {imported : ImportName}
      (hbinds : m.BindsImport head i imported) (hhead : (segments moduleName).head? = some head)
      (hplain : i.isFrom = false) (hunaliased : imported.asName = none)
      (hmodule : ⟨moduleName, none⟩ ∈ i.names) (name : String) :
      Refers m (moduleName ++ "." ++ name) (moduleName, name)
  /-- `import M as N`, and `N.X`. -/
  | aliasedImport {head : String} {i : Import} {imported : ImportName}
      (hbinds : m.BindsImport head i imported) (hhead : IsSimple head) (hplain : i.isFrom = false)
      (haliased : imported.asName = some head) (name : String) :
      Refers m (head ++ "." ++ name) (imported.name, name)
  /-- `from P import L [as N]`, and `L.X` or `N.X`. -/
  | submodule {head source : String} {i : Import} {imported : ImportName}
      (hbinds : m.BindsImport head i imported) (hhead : IsSimple head) (hfrom : i.isFrom = true)
      (hsource : m.ImportsFrom i source) (name : String) :
      Refers m (head ++ "." ++ name) (source ++ "." ++ imported.name, name)

section Locate

variable {m : Module} {reference head : String} {i : Import} {imported : ImportName}

theorem locate_of_bindsImport {rest : List String} (hsegments : segments reference = head :: rest)
    (h : m.BindsImport head i imported) :
    locate m reference = (importedName m i imported head rest).bind (targetOf reference) := by
  obtain ⟨b, hb, hi, himported⟩ := h
  have hkind := (Module.kind_eq_imports_iff (Module.of_topLevelBinding? hb).1).mpr ⟨i, hi⟩
  simp only [locate, hsegments, List.headD_cons, List.tail_cons, hb, hkind, hi, himported]

theorem importedName_of_importsFrom {source : String} (hfrom : i.isFrom = true)
    (hsource : m.ImportsFrom i source) (rest : List String) :
    importedName m i imported head rest = .ok (ofSegments (source :: imported.name :: rest)) := by
  rw [importedName, if_pos hfrom, hsource.importSource?_eq]

theorem targetOf_append (reference front : String) {back : String} (h : IsSimple back) :
    targetOf reference (front ++ "." ++ back) = .ok (.elsewhere front back) := by
  simp only [targetOf, splitLast?_append front h]

theorem locate_of_refers {target : String × String} (h : Refers m reference target)
    (hsimple : IsSimple target.2) : locate m reference = .ok (.elsewhere target.1 target.2) := by
  cases h with
  | @fromImport head source i imported hbinds hhead hfrom hsource =>
      have hfull : importedName m i imported reference [] =
          .ok (source ++ "." ++ imported.name) := by
        rw [importedName_of_importsFrom hfrom hsource, ofSegments_cons_cons, ofSegments_singleton]
      rw [locate_of_bindsImport (segments_eq_singleton hhead) hbinds, hfull]
      exact targetOf_append _ _ hsimple
  | @plainImport head moduleName i imported hbinds hhead hplain hunaliased _ name =>
      -- The import binds the first segment only, so the full name is the reference itself.
      obtain ⟨rest, hrest⟩ := List.head?_eq_some_iff.mp hhead
      have hsegments : segments (moduleName ++ "." ++ name) = head :: (rest ++ [name]) := by
        rw [segments_append, hrest, segments_eq_singleton hsimple, List.cons_append]
      have hfull : importedName m i imported head (rest ++ [name]) =
          .ok (moduleName ++ "." ++ name) := by
        rw [importedName, if_neg (by simp [hplain]), if_neg (by simp [hunaliased]), ← hsegments,
          ofSegments_segments]
      rw [locate_of_bindsImport hsegments hbinds, hfull]
      exact targetOf_append _ _ hsimple
  | @aliasedImport head i imported hbinds hhead hplain haliased name =>
      have hsegments := segments_append_of_isSimple hhead hsimple
      have hfull : importedName m i imported head [name] =
          .ok (imported.name ++ "." ++ name) := by
        rw [importedName, if_neg (by simp [hplain]), if_pos (by simp [haliased]),
          ofSegments_cons_cons, ofSegments_singleton]
      rw [locate_of_bindsImport hsegments hbinds, hfull]
      exact targetOf_append _ _ hsimple
  | @submodule head source i imported hbinds hhead hfrom hsource name =>
      have hsegments := segments_append_of_isSimple hhead hsimple
      have hfull : importedName m i imported head [name] =
          .ok (source ++ "." ++ imported.name ++ "." ++ name) := by
        rw [importedName_of_importsFrom hfrom hsource, ofSegments_cons_cons,
          ofSegments_cons_cons, ofSegments_singleton]
      rw [locate_of_bindsImport hsegments hbinds, hfull]
      exact targetOf_append _ _ hsimple

end Locate

theorem locate_of_bindsClass {m : Module} {name : String} {node : Nat} (hsimple : IsSimple name)
    (h : m.BindsClass name node) : locate m name = .ok (.here node) := by
  obtain ⟨b, c, hb, rfl, hc⟩ := h
  have hkind := (Module.kind_eq_classDef_iff (Module.of_topLevelBinding? hb).1).mpr ⟨c, hc⟩
  simp only [locate, segments_eq_singleton hsimple, List.headD_cons, hb, hkind,
    List.length_singleton, if_true]

theorem defines_of_locate {m : Module} {lib : Library} {reference moduleName name : String}
    {c : ResolvedClass} (hlocate : locate m reference = .ok (.elsewhere moduleName name))
    (hfound : (lib.lookupClass moduleName name).1 = .ok (some c)) (method : String) :
    (defines m lib reference method).1 = .ok (c.defines method) := by
  simp only [defines, hlocate]
  generalize lib.lookupClass moduleName name = answer at hfound ⊢
  obtain ⟨_, lib'⟩ := answer
  obtain rfl := hfound
  rfl

/-- However a module imports a class, directly or through modules that re-export it, a reference
to it documents the methods that a reference in the module of the class itself documents. -/
theorem defines_imported {lib : Library} {referrer home : Module} {moduleName className : String}
    {node : Nat} (hhome : lib.find moduleName = .ok home)
    (hclass : home.BindsClass className node) (hsimple : IsSimple className)
    {reference : String} {target : String × String} (href : Refers referrer reference target)
    (htarget : IsSimple target.2) (hchain : lib.Chain target (moduleName, className))
    (method : String) :
    ∃ documented, (defines home lib className method).1 = .ok documented ∧
      (defines referrer lib reference method).1 = .ok documented := by
  refine ⟨home.definesDirectly node method, ?_, ?_⟩
  · simp only [defines, locate_of_bindsClass hsimple hclass]
  · have hends : lib.Ends (moduleName, className) (.ok (some ⟨home, node⟩)) :=
      .atClass ⟨home, node⟩ hhome hclass
    exact defines_of_locate (locate_of_refers href htarget)
      (Library.lookupClass_of_ends hchain hends) method

/-- A module of a package that defines an interface. -/
def ifaces : Module :=
  ⟨"zi.ifaces", .ofString "zi/ifaces.py", [], false,
    #[⟨.root none, ⟨1, 0⟩, none, [1]⟩,
      ⟨.classDef ⟨"IFoo", [], [], none⟩, ⟨1, 0⟩, some 0, [2]⟩,
      ⟨.functionDef ⟨"run", [], [], none, false⟩, ⟨2, 4⟩, some 1, []⟩]⟩

/-- The module and its package, which passes the interface on by `from .ifaces import IFoo as
IBar`. -/
def passedOn : Library :=
  .ofModules [("zi.ifaces", ifaces),
    ("zi", ⟨"zi", .ofString "zi/__init__.py", [], false,
      #[⟨.root none, ⟨1, 0⟩, none, [1]⟩,
        ⟨.imports ⟨some "ifaces", 1, true, [⟨"IFoo", some "IBar"⟩], false⟩, ⟨1, 0⟩, some 0,
          []⟩]⟩)]

def passenger : Module :=
  ⟨"app", .ofString "app.py", [], false,
    #[⟨.root none, ⟨1, 0⟩, none, [1]⟩,
      ⟨.imports ⟨none, 0, false, [⟨"zi", none⟩], false⟩, ⟨1, 0⟩, some 0, []⟩]⟩

theorem defines_imported_passedOn :
    passedOn.find "zi.ifaces" = .ok ifaces ∧ ifaces.BindsClass "IFoo" 1 ∧ IsSimple "IFoo" ∧
      Refers passenger "zi.IBar" ("zi", "IBar") ∧ IsSimple "IBar" ∧
      passedOn.Chain ("zi", "IBar") ("zi.ifaces", "IFoo") ∧
      (defines passenger passedOn "zi.IBar" "run").1 = .ok true := by
  have hsimple : IsSimple "IFoo" ∧ IsSimple "IBar" := by
    simp [IsSimple]
  have hclass : ifaces.BindsClass "IFoo" 1 := ⟨_, _, rfl, rfl, rfl⟩
  have hreference : "zi.IBar" = "zi" ++ "." ++ "IBar" := by decide
  have href : Refers passenger "zi.IBar" ("zi", "IBar") := by
    rw [hreference]
    exact .plainImport ⟨_, rfl, rfl, rfl⟩ rfl rfl rfl (List.mem_singleton_self _) "IBar"
  have hchain : passedOn.Chain ("zi", "IBar") ("zi.ifaces", "IFoo") :=
    .single ⟨_, rfl, _, _, _, rfl, rfl, rfl, rfl, rfl, rfl⟩
  refine ⟨rfl, hclass, hsimple.1, href, hsimple.2, hchain, ?_⟩
  obtain ⟨documented, hlocal, himported⟩ :=
    defines_imported rfl hclass hsimple.1 href hsimple.2 hchain "run"
  have hrun : (defines ifaces passedOn "IFoo" "run").1 = .ok true := rfl
  rw [himported, ← hlocal, hrun]

end Interface

end CodingStandard
