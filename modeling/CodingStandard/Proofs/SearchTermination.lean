import CodingStandard.Proofs.InterfaceSearch
import CodingStandard.Proofs.ModuleFiles

namespace CodingStandard

/-!
# Searches in a file tree come to an end

A relative import leads to a module whose name is a package and then the module part of the import.
As long as the segments of such parts are names of files, a longer name of a module that is found
needs a longer way through the tree, and a tree has finitely many ways. A segment that names no file
adds to the name of a module and not to its path: one file is then found under more and more names.
-/

namespace FileTree

/-! ## What lies in a tree -/

/-- A node is one of the entries of a directory. -/
def Holds (dir node : FileTree) : Prop :=
  ∃ entries name, dir = directory entries ∧ (name, node) ∈ entries

abbrev Within (tree : FileTree) : FileTree → Prop := Relation.ReflTransGen Holds tree

theorem wellFounded_holds : WellFounded fun node dir : FileTree => dir.Holds node := by
  refine Subrelation.wf (r := fun node dir => sizeOf node < sizeOf dir) ?_ (measure sizeOf).wf
  rintro node _ ⟨entries, name, rfl, hentry⟩
  have hlt := List.sizeOf_lt_of_mem hentry
  simp only [Prod.mk.sizeOf_spec, directory.sizeOf_spec] at hlt ⊢
  omega

theorem finite_holds (dir : FileTree) : {node | dir.Holds node}.Finite := by
  refine (List.finite_toSet ((dir.entries?.getD []).map Prod.snd)).subset ?_
  rintro node ⟨entries, name, rfl, hentry⟩
  exact List.mem_map.mpr ⟨(name, node), hentry, rfl⟩

theorem finite_within (tree : FileTree) : {node | tree.Within node}.Finite := by
  induction tree using wellFounded_holds.induction with
  | _ tree ih =>
      refine ((tree.finite_holds.biUnion ih).insert tree).subset fun node hnode => ?_
      rcases hnode.cases_head with rfl | ⟨inner, hinner, hrest⟩
      · exact Set.mem_insert ..
      · exact Set.mem_insert_of_mem _ (Set.mem_biUnion hinner hrest)

theorem mem_of_lookup {entries : List (String × FileTree)} {name : String} {node : FileTree}
    (h : entries.lookup name = some node) : (name, node) ∈ entries := by
  obtain ⟨front, back, rfl, -⟩ := List.lookup_eq_some_iff.mp h
  exact List.mem_append_right _ List.mem_cons_self

/-- A component leads nowhere, or to a node from which the rest of a path goes on. -/
theorem follow?_cons (around : List FileTree) (node : FileTree) (c : Component) :
    (∀ rest, follow? around node (c :: rest) = none) ∨
      ∃ around' node', (∀ rest, follow? around node (c :: rest) = follow? around' node' rest) ∧
        ∀ tree : FileTree, (∀ dir ∈ node :: around, tree.Within dir) →
          ∀ dir ∈ node' :: around', tree.Within dir := by
  cases node with
  | text | binary => exact .inl fun rest => by cases c <;> cases around <;> rfl
  | directory entries =>
      cases c with
      | name name =>
          cases hlookup : entries.lookup (String.ofList name) with
          | none => exact .inl fun rest => by rw [follow?, hlookup]
          | some inner =>
              refine .inr ⟨directory entries :: around, inner, fun rest => ?_, fun tree h => ?_⟩
              · rw [follow?, hlookup]
              · have hinner := (List.forall_mem_cons.mp h).1.tail
                  ⟨entries, _, rfl, mem_of_lookup hlookup⟩
                exact List.forall_mem_cons.mpr ⟨hinner, h⟩
      | parent =>
          cases around with
          | nil => exact .inr ⟨[], directory entries, fun rest => rfl, fun tree h => h⟩
          | cons up around =>
              exact .inr ⟨around, up, fun rest => rfl, fun tree h => (List.forall_mem_cons.mp h).2⟩
      | root | current =>
          exact .inr ⟨around, directory entries, fun rest => by cases around <;> rfl, fun tree h => h⟩

theorem within_of_follow? {tree node found : FileTree} {around : List FileTree}
    {components : List Component} (hwithin : ∀ dir ∈ node :: around, tree.Within dir)
    (h : follow? around node components = some found) : tree.Within found := by
  induction components generalizing around node with
  | nil =>
      rw [follow?] at h
      exact Option.some.inj h ▸ hwithin node List.mem_cons_self
  | cons c components ih =>
      rcases follow?_cons around node c with hnone | ⟨around', node', hgoes, hkeeps⟩
      · cases (hnone components).symm.trans h
      · exact ih (hkeeps tree hwithin) ((hgoes components).symm.trans h)

theorem within_of_readText? {tree : FileTree} {path : Path} {source : Text}
    (h : tree.readText? path = some source) : tree.Within (text source) := by
  have hwithin : ∀ dir ∈ [tree], tree.Within dir := by simp [Relation.ReflTransGen.refl]
  rw [readText?] at h
  split at h
  next content hget =>
    split_ifs at h
    exact Option.some.inj h ▸ within_of_follow? hwithin hget
  next => cases h

/-- A tree holds finitely many texts. -/
theorem finite_texts (tree : FileTree) :
    {source | ∃ path, tree.readText? path = some source}.Finite := by
  refine Set.Finite.of_injOn (f := text) (t := {node | tree.Within node}) ?_ ?_ tree.finite_within
  · rintro source ⟨path, hread⟩
    exact within_of_readText? hread
  · intro a _ b _ hab
    exact text.inj hab

/-! ## Ways through a tree -/

theorem finite_routes (around : List FileTree) (node : FileTree) :
    {names : List Text | (follow? around node (names.map .name)).isSome}.Finite := by
  induction node using wellFounded_holds.induction generalizing around with
  | _ node ih =>
      cases node with
      | text | binary =>
          refine (Set.finite_singleton []).subset ?_
          rintro (_ | ⟨name, names⟩) hnames
          · rfl
          · cases hnames
      | directory entries =>
          have hinner := (List.finite_toSet entries).biUnion fun e he =>
            (ih e.2 ⟨entries, e.1, rfl, he⟩ (directory entries :: around)).image
              (List.cons e.1.toList)
          refine (hinner.insert []).subset ?_
          rintro (_ | ⟨name, names⟩) hnames
          · exact Set.mem_insert ..
          · change (follow? around (directory entries) (.name name :: names.map .name)).isSome
              at hnames
            rw [follow?] at hnames
            split at hnames
            next inner hlookup =>
              refine Set.mem_insert_of_mem _ (Set.mem_biUnion (mem_of_lookup hlookup) ?_)
              exact ⟨names, hnames, by rw [String.toList_ofList]⟩
            next => cases hnames

theorem finite_routes_behind (components : List Component) (around : List FileTree)
    (node : FileTree) :
    {names : List Text | (follow? around node (components ++ names.map .name)).isSome}.Finite := by
  induction components generalizing around node with
  | nil => exact finite_routes around node
  | cons c components ih =>
      simp only [List.cons_append]
      rcases follow?_cons around node c with hnone | ⟨around', node', hgoes, -⟩
      · simp [hnone]
      · simp only [hgoes]
        exact ih around' node'

theorem isSome_of_isFile {tree : FileTree} {path : Path} (h : tree.isFile path = true) :
    (follow? [] tree path.components).isSome := by
  rw [isFile, get?] at h
  split at h <;> simp_all

/-! ## Names of modules that are found -/

section Names

variable {tree : FileTree} {dir root path : Path} {front rest : List String} {name : String}

/-- The names of a module behind a directory, when one of its two files is there. -/
theorem finite_modules (tree : FileTree) (dir : Path) :
    {names : List Text | (∀ name ∈ names, Path.IsName name ∧ '.' ∉ name) ∧
      (tree.isFile ((dir.below names).withExtension "py".toList) = true ∨
        tree.isFile ((dir.below names).join ModuleName.packageFile) = true)}.Finite := by
  have hroutes := finite_routes_behind dir.components [] tree
  have hfile := hroutes.preimage (f := fun p : List Text × Text => p.1 ++ [p.2 ++ '.' :: "py".toList])
    (Function.Injective.injOn fun p q h => by
      obtain ⟨hinit, hlast⟩ := List.append_inj' h rfl
      exact Prod.ext hinit (List.append_cancel_right (List.singleton_inj.mp hlast)))
  have hpackage := hroutes.preimage (f := fun names : List Text => names ++ ["__init__.py".toList])
    (Function.Injective.injOn fun _ _ h => List.append_cancel_right h)
  refine (((hfile.image fun p => p.1 ++ [p.2]).union hpackage).insert []).subset ?_
  rintro names ⟨hnames, hfound⟩
  rcases List.eq_nil_or_concat names with rfl | ⟨init, last, hlast⟩
  · exact Set.mem_insert ..
  refine Set.mem_insert_of_mem _ (hfound.imp (fun hplain => ?_) fun hinit => ?_)
  · rw [List.concat_eq_append] at hlast
    subst hlast
    rw [List.forall_mem_append, List.forall_mem_singleton] at hnames
    have hsome := isSome_of_isFile hplain
    rw [Path.components_withExtension_below dir (fun name hname => (hnames.1 name hname).1)
      hnames.2.1 hnames.2.2 (hnames.2.1.withExtension (by decide)), List.append_assoc] at hsome
    exact ⟨(init, last), by simpa using hsome, rfl⟩
  · have hsome := isSome_of_isFile hinit
    rw [ModuleName.components_join_packageFile,
      Path.components_below dir fun name hname => (hnames name hname).1, List.append_assoc] at hsome
    simpa using hsome

/-- Finitely many modules are found in an import root under names that start with the same segments
and go on with names of files. -/
theorem finite_names (tree : FileTree) (root : Path) (front : List String) :
    {name | ∃ rest, ModuleName.segments name = front ++ rest ∧
      (∀ part ∈ rest, Path.IsName part.toList) ∧
        ∃ path ∈ ModuleName.candidates root name, tree.isFile path = true}.Finite := by
  refine ((tree.finite_modules (root.below (front.map String.toList))).image fun names =>
    ModuleName.ofSegments (front ++ names.map String.ofList)).subset ?_
  rintro name ⟨rest, hsegments, hrest, path, hpath, hfile⟩
  refine ⟨rest.map String.toList, ⟨?_, ?_⟩, ?_⟩
  · rw [List.forall_mem_map]
    intro part hpart
    exact ⟨hrest part hpart, ModuleName.isSimple_of_mem_segments
      (hsegments ▸ List.mem_append_right front hpart)⟩
  · rw [ModuleName.candidates_eq, hsegments, List.map_append, Path.below_append] at hpath
    rcases List.mem_pair.mp hpath with rfl | rfl
    · exact .inl hfile
    · exact .inr hfile
  · have hid : String.ofList ∘ String.toList = id := funext fun s => String.ofList_toList
    simp only [List.map_map, hid, List.map_id]
    rw [← hsegments, ModuleName.ofSegments_segments]

end Names

end FileTree

/-! ## Chains of imports -/

/-- A source holds an import, whatever its module is called. -/
def Parser.Imports (parser : Parser) (source : Text) (i : Import) : Prop :=
  ∃ name path n, (parser.moduleOf name path source).kind? n = some (.imports i)

theorem Parser.finite_imports (parser : Parser) (source : Text) :
    {i | parser.Imports source i}.Finite := by
  have hkinds := List.finite_toSet
    ((parser.moduleOf "" (.ofString "") source).nodes.toList.map Node.kind)
  refine (hkinds.preimage (f := NodeKind.imports)
    (Function.Injective.injOn fun _ _ => NodeKind.imports.inj)).subset ?_
  rintro i ⟨name, path, n, hkind⟩
  obtain ⟨node, hnode, hi⟩ := Option.map_eq_some_iff.mp hkind
  exact List.mem_map.mpr ⟨node, Array.mem_toList_iff.mpr (Array.mem_of_getElem? hnode), hi⟩

/-- The segments of the module part that an import names. -/
def Import.parts (i : Import) : List String := (i.source.map ModuleName.segments).getD []

theorem Import.isSimple_of_mem_parts {i : Import} {part : String} (h : part ∈ i.parts) :
    ModuleName.IsSimple part := by
  unfold parts at h
  cases hsource : i.source with
  | none => simp [hsource] at h
  | some source =>
      rw [hsource, Option.map_some, Option.getD_some] at h
      exact ModuleName.isSimple_of_mem_segments h

namespace FileTree

/-- The module parts of relative imports in a tree consist of names that files can have. -/
def RelativesNamed (tree : FileTree) (parser : Parser) : Prop :=
  ∀ path source i, tree.readText? path = some source → parser.Imports source i → i.level ≠ 0 →
    ∀ part ∈ i.parts, Path.IsName part.toList

/-- What the imports in a tree name. -/
def sources (tree : FileTree) (parser : Parser) : Set String :=
  {name | ∃ path source i, tree.readText? path = some source ∧ parser.Imports source i ∧
    i.source = some name}

theorem finite_sources (tree : FileTree) (parser : Parser) : (tree.sources parser).Finite := by
  have hall := tree.finite_texts.biUnion fun source _ =>
    (parser.finite_imports source).image Import.source
  refine (hall.preimage (f := some) (Option.some_injective _).injOn).subset ?_
  rintro name ⟨path, source, i, hread, hi, hname⟩
  exact Set.mem_biUnion ⟨path, hread⟩ ⟨i, hi, hname⟩

end FileTree

namespace ModuleName

/-- A name starts with segments that another one starts with, and goes on with names of files. -/
def Extends (name base : String) : Prop :=
  ∃ front rest, front <+: segments base ∧ segments name = front ++ rest ∧
    ∀ part ∈ rest, Path.IsName part.toList

theorem extends_refl (name : String) : Extends name name :=
  ⟨segments name, [], List.prefix_refl _, (List.append_nil _).symm, List.forall_mem_nil _⟩

theorem Extends.take_append {name base : String} (h : Extends name base) (k : Nat)
    {parts : List String} (hparts : ∀ part ∈ parts, IsSimple part ∧ Path.IsName part.toList)
    (hne : (segments name).take k ++ parts ≠ []) :
    Extends (ofSegments ((segments name).take k ++ parts)) base := by
  obtain ⟨front, rest, hfront, hname, hrest⟩ := h
  refine ⟨front.take k, rest.take (k - front.length) ++ parts,
    (List.take_prefix k front).trans hfront, ?_, ?_⟩
  · rw [segments_ofSegments hne, hname, List.take_append, List.append_assoc]
    rw [List.forall_mem_append]
    exact ⟨fun part hpart => isSimple_of_mem_segments (List.mem_of_mem_take hpart),
      fun part hpart => (hparts part hpart).1⟩
  · rw [List.forall_mem_append]
    exact ⟨fun part hpart => hrest part (List.mem_of_mem_take hpart),
      fun part hpart => (hparts part hpart).2⟩

end ModuleName

namespace Module

variable {m : Module} {i : Import} {source : String}

theorem exists_package_eq_take (m : Module) :
    ∃ k, m.package = (ModuleName.segments m.name).take k := by
  unfold package
  split
  · exact ⟨_, (List.take_length).symm⟩
  · exact ⟨_, List.dropLast_eq_take⟩

/-- A relative import keeps a part of the name of its module. -/
theorem exists_take_of_importSource? (hlevel : i.level ≠ 0) (h : m.importSource? i = some source) :
    ∃ k, (ModuleName.segments m.name).take k ++ i.parts ≠ [] ∧
      source = ModuleName.ofSegments ((ModuleName.segments m.name).take k ++ i.parts) := by
  rw [importSource?, if_neg hlevel, climb?_eq] at h
  obtain ⟨base, hbase, hfull⟩ := Option.bind_eq_some_iff.mp h
  obtain ⟨-, hbase⟩ := Option.ite_none_right_eq_some.mp hbase
  obtain ⟨k, hk⟩ := m.exists_package_eq_take
  rw [Option.some.injEq, hk, List.take_take] at hbase
  obtain ⟨hne, hsource⟩ := Option.ite_none_left_eq_some.mp hfull
  rw [← hbase] at hne hsource
  exact ⟨_, by simpa [Import.parts] using hne, (Option.some.inj hsource).symm⟩

end Module

namespace ImportPath

variable {imports : ImportPath} {tree : FileTree} {name : String} {m : Module}
  {start p : String × String}

theorem exists_file_of_find (hloaded : imports.loaded = [])
    (h : (imports.library tree).find name = .ok m) :
    ∃ path source, (∃ root ∈ imports.roots, path ∈ ModuleName.candidates root name) ∧
      tree.isFile path = true ∧ tree.readText? path = some source ∧
        m = imports.parser.moduleOf name path source := by
  have hsearch : tree.findModule imports.parser imports.roots name = .ok m := by
    rw [← h]
    simp only [Library.find, Library.resolve, library, hloaded, List.lookup_nil]
    cases tree.findModule imports.parser imports.roots name <;> rfl
  rw [FileTree.findModule] at hsearch
  split at hsearch
  next => cases hsearch
  next path hpath =>
    split at hsearch
    next source hread =>
      obtain ⟨root, hroot, hcandidate⟩ := List.mem_flatMap.mp (List.mem_of_find?_eq_some hpath)
      exact ⟨path, source, ⟨root, hroot, hcandidate⟩, List.find?_some hpath, hread,
        (Except.ok.inj hsearch).symm⟩
    next => cases hsearch

/-- Every module that a search meets is called after its start or after what some import names. -/
theorem extends_of_chain (hloaded : imports.loaded = [])
    (hnamed : tree.RelativesNamed imports.parser) (h : (imports.library tree).Chain start p) :
    ∃ base ∈ insert start.1 (tree.sources imports.parser), ModuleName.Extends p.1 base := by
  induction h with
  | refl => exact ⟨start.1, Set.mem_insert .., ModuleName.extends_refl _⟩
  | @tail q r _ hstep ih =>
      obtain ⟨base, hbase, hextends⟩ := ih
      obtain ⟨m, hm, b, i, imported, -, hi, -, hsource, -⟩ := hstep
      obtain ⟨path, source, -, -, hread, rfl⟩ := exists_file_of_find hloaded hm
      have himports : imports.parser.Imports source i := ⟨_, _, _, hi⟩
      by_cases hlevel : i.level = 0
      · rw [Module.importSource?, if_pos hlevel] at hsource
        exact ⟨r.1, Set.mem_insert_of_mem _ ⟨path, source, i, hread, himports, hsource⟩,
          ModuleName.extends_refl _⟩
      · obtain ⟨k, hne, hr⟩ := Module.exists_take_of_importSource? hlevel hsource
        rw [hr]
        have hparts := hnamed path source i hread himports hlevel
        exact ⟨base, hbase, hextends.take_append k
          (fun part hpart => ⟨Import.isSimple_of_mem_parts hpart, hparts part hpart⟩) hne⟩

/-- Where the relative imports of a tree name files, every search for a class comes to an end. -/
theorem terminates_library (hloaded : imports.loaded = [])
    (hnamed : tree.RelativesNamed imports.parser) : (imports.library tree).Terminates := by
  rw [Library.terminates_iff]
  intro start
  apply Library.finite_passable_of_met
  have hall := ((tree.finite_sources imports.parser).insert start.1).biUnion fun base _ =>
    (List.finite_toSet (ModuleName.segments base).inits).biUnion fun front _ =>
      (List.finite_toSet imports.roots).biUnion fun root _ => tree.finite_names root front
  refine hall.subset ?_
  rintro name ⟨_, m, hchain, hm⟩
  obtain ⟨base, hbase, front, rest, hfront, hsegments, hrest⟩ :=
    extends_of_chain hloaded hnamed hchain
  obtain ⟨path, source, ⟨root, hroot, hcandidate⟩, hfile, -⟩ := exists_file_of_find hloaded hm
  exact Set.mem_biUnion hbase (Set.mem_biUnion ((List.mem_inits front _).mpr hfront)
    (Set.mem_biUnion hroot ⟨rest, hsegments, hrest, path, hcandidate, hfile⟩))

end ImportPath

/-! ## Parsers of some sources -/

namespace Parser

/-- A parser that knows some sources, and makes a module without contents of the others. -/
def ofTable (known : List (Text × Tree)) : Parser where
  parse source := ⟨(known.lookup source).getD (.node .file .plain ⟨1, 0⟩ [] []), false⟩

theorem moduleOf_ofTable {known : List (Text × Tree)} (h : (known.map Prod.fst).Nodup)
    {source : Text} {t : Tree} (hmem : (source, t) ∈ known) (name : String) (path : Path) :
    (ofTable known).moduleOf name path source = .ofTree name path source t := by
  have hlookup : known.lookup source = some t := by
    obtain ⟨front, back, rfl⟩ := List.append_of_mem hmem
    rw [List.map_append, List.map_cons, List.nodup_append] at h
    refine List.lookup_eq_some_iff.mpr ⟨front, back, rfl, fun entry hentry => ?_⟩
    simpa [bne_iff_ne] using h.2.2 _ (List.mem_map_of_mem hentry) source List.mem_cons_self |>.symm
  simp only [moduleOf, ofTable, hlookup, Option.getD_some, Module.ofTree]

/-- Whether the relative imports of a tree name files. -/
def namesFiles (t : Tree) : Bool :=
  (t.outline.number none 0).all fun node =>
    match node.kind with
    | .imports i => i.level == 0 || i.parts.all fun part => Path.IsName part.toList
    | _ => true

theorem namesFiles_iff {t : Tree} : namesFiles t = true ↔
    ∀ node ∈ t.outline.number none 0, ∀ i, node.kind = .imports i → i.level ≠ 0 →
      ∀ part ∈ i.parts, Path.IsName part.toList := by
  rw [namesFiles, List.all_eq_true]
  refine forall₂_congr fun node _ => ?_
  cases node.kind <;> simp [or_iff_not_imp_left]

theorem relativesNamed_ofTable {known : List (Text × Tree)}
    (h : ∀ entry ∈ known, namesFiles entry.2 = true) (tree : FileTree) :
    tree.RelativesNamed (ofTable known) := by
  rintro - source i - ⟨name, path, n, hkind⟩
  obtain ⟨node, hnode, hi⟩ := Option.map_eq_some_iff.mp hkind
  have hmem : node ∈ ((ofTable known).parse source).tree.outline.number none 0 := by
    simpa [moduleOf, Module.ofTree] using Array.mem_of_getElem? hnode
  refine namesFiles_iff.mp ?_ node hmem i hi
  cases hlookup : known.lookup source with
  | none => simp only [ofTable, hlookup]; rfl
  | some t =>
      obtain ⟨front, back, rfl, -⟩ := List.lookup_eq_some_iff.mp hlookup
      simpa [ofTable, hlookup] using h (source, t) (by simp)

end Parser

/-! ## A search without end -/

namespace Dotted

/-- An import by two dots that are apart: the second one belongs to the module part. -/
def source : Text := "from . .y import I\n".toList

/-- A class that implements what the import leads to. -/
def user : Text :=
  "from y import I\n\n\n@implementer(I)\nclass A:\n    def f(self):\n        pass\n".toList

def tree : FileTree := .directory [("m.py", .text user), ("y.py", .text source)]

def parsed : Tree :=
  let leaf (kind : TreeKind) (column : Nat) (text : String) : Tree :=
    .node kind .plain ⟨1, column⟩ text.toList []
  .node .file .plain ⟨1, 0⟩ "from . .y import I".toList
    [.node .importFrom .plain ⟨1, 0⟩ "from . .y import I".toList
      [leaf .token 0 "from",
        .node .relativeImport .moduleName ⟨1, 5⟩ ". .y".toList
          [.node .other .plain ⟨1, 5⟩ ". .".toList [leaf .token 5 ".", leaf .token 7 "."],
            .node .dottedName .plain ⟨1, 8⟩ "y".toList [leaf .identifier 8 "y"]],
        leaf .token 10 "import",
        .node .dottedName .name ⟨1, 17⟩ "I".toList [leaf .identifier 17 "I"]]]

/-- The names under which the module is asked for, one after the other. -/
def name (k : Nat) : String := ModuleName.ofSegments (List.replicate k "" ++ ["y"])

theorem segments_name (k : Nat) :
    ModuleName.segments (name k) = List.replicate k "" ++ ["y"] := by
  refine ModuleName.segments_ofSegments (by simp) ?_
  rw [List.forall_mem_append, List.forall_mem_singleton]
  exact ⟨fun part hpart => by rw [List.eq_of_mem_replicate hpart, ModuleName.IsSimple]; decide,
    by rw [ModuleName.IsSimple]; decide⟩

theorem name_injective : Function.Injective name := by
  intro j k h
  have hlength := congrArg (List.length <| ModuleName.segments ·) h
  simpa [segments_name] using hlength

/-- Empty segments lead nowhere from the top directory. -/
theorem below_replicate (k : Nat) :
    (Path.ofString "/").below (List.replicate k []) = .ofString "/" := by
  induction k with
  | zero => rfl
  | succ k ih =>
      rw [List.replicate_succ]
      exact ih

theorem candidates_name (k : Nat) : ModuleName.candidates (.ofString "/") (name k) =
    [.ofString "/y.py", .ofString "/y/__init__.py"] := by
  have hbase : (Path.ofString "/").below ((ModuleName.segments (name k)).map String.toList) =
      .ofString "/y" := by
    rw [segments_name, List.map_append, List.map_replicate, Path.below_append]
    have htop := below_replicate k
    rw [show "".toList = [] from rfl, htop]
    rfl
  rw [ModuleName.candidates_eq, hbase]
  decide

variable {imports : ImportPath}

theorem find_name (hloaded : imports.loaded = []) (hroots : imports.roots = [.ofString "/"])
    (k : Nat) : (imports.library tree).find (name k) =
      .ok (imports.parser.moduleOf (name k) (.ofString "/y.py") source) := by
  have hsearch : tree.findModule imports.parser imports.roots (name k) =
      .ok (imports.parser.moduleOf (name k) (.ofString "/y.py") source) := by
    rw [FileTree.findModule, hroots, List.flatMap_singleton, candidates_name]
    rfl
  simp only [Library.find, Library.resolve, ImportPath.library, hloaded, List.lookup_nil, hsearch]

theorem importSource?_name {m : Module} {k : Nat} {i : Import} (hname : m.name = name k)
    (hplain : m.isPackage = false) (hlevel : i.level = 1) (hsource : i.source = some ".y") :
    m.importSource? i = some (name (k + 1)) := by
  have hpackage : m.package = List.replicate k "" := by
    rw [Module.package, hplain, if_neg (by decide), hname, segments_name, List.dropLast_concat]
  have hparts : ModuleName.segments ".y" = ["", "y"] := by decide
  rw [Module.importSource?, if_neg (by omega), hlevel, hsource, hpackage, Nat.sub_self,
    Module.climb?]
  simp [hparts, name, List.replicate_succ']

/-- Each name leads on to the next one, which is found in the same file. -/
theorem reexports_name (hloaded : imports.loaded = []) (hroots : imports.roots = [.ofString "/"])
    (hparser : (imports.parser.parse source).tree = parsed) (k : Nat) :
    (imports.library tree).Reexports (name k, "I") (name (k + 1), "I") := by
  have hmodule : imports.parser.moduleOf (name k) (.ofString "/y.py") source =
      { Module.ofTree (name k) (.ofString "/y.py") source parsed with
        syntaxErrors := (imports.parser.parse source).hasErrors } := by
    rw [Parser.moduleOf, hparser]
  refine ⟨_, find_name hloaded hroots k, ?_⟩
  rw [hmodule]
  exact ⟨_, _, _, rfl, rfl, rfl, importSource?_name rfl rfl rfl rfl, rfl, rfl⟩

/-- The search for the class never ends: the module is asked for under one name after the other, and
none of them comes twice. -/
theorem not_answers (hloaded : imports.loaded = []) (hroots : imports.roots = [.ofString "/"])
    (hparser : (imports.parser.parse source).tree = parsed) :
    ¬ ∃ answer, Trail.Answers ⟨imports.library tree, [], "y", "I"⟩ answer := by
  rw [(imports.library tree).exists_answers_iff ("y", "I")]
  have hstep := reexports_name hloaded hroots hparser
  have hchain : ∀ k, (imports.library tree).Chain ("y", "I") (name k, "I") := by
    intro k
    induction k with
    | zero => exact .refl
    | succ k ih => exact ih.tail (hstep k)
  exact (Set.infinite_of_injective_forall_mem
    (fun j k h => name_injective (congrArg Prod.fst h))
    fun k => ⟨hchain k, _, hstep k⟩)

end Dotted

end CodingStandard
