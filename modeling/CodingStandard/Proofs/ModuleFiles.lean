import CodingStandard.Proofs.PathSteps
import CodingStandard.Resolution.ImportPath
import Mathlib.Data.List.Induction

namespace CodingStandard

/-!
# Naming a file and finding it again

The name of a module takes the path of its file apart, from the file up through the packages around
it, and the search for a module puts the path together again from the directory where the packages
end. So a file is among those that are searched for under the name that it gives.
-/

namespace ModuleName

theorem segments_ofSegments {parts : List String} (hne : parts ≠ [])
    (hparts : ∀ part ∈ parts, IsSimple part) : segments (ofSegments parts) = parts := by
  have hsplit : Text.splitOn '.' (Text.join ['.'] (parts.map String.toList)) =
      parts.map String.toList := by
    rw [Text.splitOn_eq, Text.join, List.splitOn_intercalate '.' (by simpa [IsSimple] using hparts)
      (by simpa using hne)]
  rw [segments, ofSegments, String.toList_ofList, hsplit, List.map_map]
  simp

end ModuleName

namespace Path

/-- What names lead to from a directory. -/
def below (dir : Path) (names : List Text) : Path := names.foldl (fun dir name => dir.join ⟨name⟩) dir

variable {dir : Path} {names : List Text} {last : Text}

theorem below_concat (dir : Path) (names : List Text) (last : Text) :
    dir.below (names ++ [last]) = (dir.below names).join ⟨last⟩ := by
  rw [below, List.foldl_append]
  rfl

theorem below_append (dir : Path) (front back : List Text) :
    dir.below (front ++ back) = (dir.below front).below back := List.foldl_append

theorem components_below (dir : Path) (h : ∀ name ∈ names, IsName name) :
    (dir.below names).components = dir.components ++ names.map .name := by
  induction names using List.reverseRecOn with
  | nil => simp [below]
  | append_singleton names last ih =>
      rw [List.forall_mem_append, List.forall_mem_singleton] at h
      rw [below_concat, components_join_of_isName _ h.2, ih h.1, List.append_assoc, List.map_append,
        List.map_singleton]

/-- What names lead to, with an extension put to the last of them. -/
theorem components_withExtension_below {extension : Text} (dir : Path)
    (h : ∀ name ∈ names, IsName name) (hlast : IsName last) (hdot : '.' ∉ last)
    (hfile : IsName (last ++ '.' :: extension)) :
    ((dir.below (names ++ [last])).withExtension extension).components =
      dir.components ++ names.map .name ++ [.name (last ++ '.' :: extension)] := by
  rw [below_concat, withExtension_join _ hlast hdot, components_join_of_isName _ hfile,
    components_below dir h]

end Path

namespace ModuleName

theorem candidatesIn_eq (coding : NameCoding) (root : Path) (name : String) :
    candidatesIn coding root name =
      let base := root.below ((segments name).map fun segment => coding.encode segment.toList)
      [base.withExtension "py".toList, base.join packageFile] := by
  rw [candidatesIn, Path.below, List.foldl_map]
  rfl

theorem candidates_eq (root : Path) (name : String) :
    candidates root name =
      let base := root.below ((segments name).map String.toList)
      [base.withExtension "py".toList, base.join packageFile] := by
  have hencode : ∀ segment ∈ segments name,
      NameCoding.unicode.encode segment.toList = segment.toList := fun segment _ =>
    NameCoding.unicode.decode_units segment.toList
  rw [candidates, candidatesIn_eq, List.map_congr_left hencode]

theorem components_join_packageFile (dir : Path) :
    (dir.join packageFile).components = dir.components ++ [.name "__init__.py".toList] :=
  Path.components_join_of_isName dir (by constructor <;> decide)

end ModuleName

namespace NameCoding

variable {coding : NameCoding} {name t : Text}

/-- A name that is a text, and that may be a segment of a dotted name. -/
structure IsSegment (coding : NameCoding) (name : Text) : Prop where
  isText : coding.IsText name
  dot_notMem : '.' ∉ name

theorem toList_read (coding : NameCoding) (name : Text) :
    (coding.read name).toList = coding.decode name := String.toList_ofList

theorem encode_ascii (coding : NameCoding) (h : t.all (·.toNat < 0x80)) : coding.encode t = t := by
  induction t with
  | nil => rfl
  | cons c t ih =>
      rw [List.all_cons, Bool.and_eq_true, decide_eq_true_eq] at h
      rw [encode, List.flatMap_cons, coding.units_ascii c h.1]
      exact congrArg (c :: ·) (ih h.2)

/-- A name that is a text is written as it was read. -/
theorem IsText.encode_read (h : coding.IsText name) :
    coding.encode (coding.read name).toList = name := by
  obtain ⟨t, rfl⟩ := h
  exact congrArg coding.encode ((toList_read coding _).trans (coding.decode_units t))

theorem IsSegment.isSimple_read (h : coding.IsSegment name) :
    ModuleName.IsSimple (coding.read name) := by
  intro hdot
  refine h.dot_notMem ?_
  rw [← h.isText.encode_read]
  refine List.mem_flatMap.mpr ⟨'.', hdot, ?_⟩
  rw [coding.units_ascii '.' (by decide)]
  exact List.mem_singleton_self '.'

theorem IsSegment.eq_of_read_ascii (h : coding.IsSegment name) {s : String}
    (hread : coding.read name = s) (hs : s.toList.all (·.toNat < 0x80)) : name = s.toList := by
  rw [← h.isText.encode_read, hread, encode_ascii coding hs]

theorem IsSegment.of_ascii (h : name.all (·.toNat < 0x80)) (hdot : '.' ∉ name) :
    coding.IsSegment name := ⟨⟨name, encode_ascii coding h⟩, hdot⟩

end NameCoding

namespace ModuleName

theorem candidatesIn_ofSegments {coding : NameCoding} {root : Path} {names : List Text}
    (hne : names ≠ []) (h : ∀ name ∈ names, coding.IsSegment name) :
    candidatesIn coding root (ofSegments (names.map coding.read)) =
      [(root.below names).withExtension "py".toList, (root.below names).join packageFile] := by
  have hsimple : ∀ part ∈ names.map coding.read, IsSimple part := by
    rw [List.forall_mem_map]
    exact fun name hname => (h name hname).isSimple_read
  have hnames : (names.map coding.read).map (fun part => coding.encode part.toList) = names := by
    rw [List.map_map]
    exact (List.map_congr_left fun name hname => (h name hname).isText.encode_read).trans
      (List.map_id _)
  rw [candidatesIn_eq, segments_ofSegments (by simpa using hne) hsimple, hnames]

end ModuleName

namespace FileTree

variable {tree : FileTree} {coding : NameCoding} {path dir : Path}

/-- A package whose directory has a name. -/
def IsNamedPackage (tree : FileTree) (dir : Path) : Prop :=
  tree.isPackage dir = true ∧ dir.fileName?.isSome

instance : Decidable (tree.IsNamedPackage dir) := inferInstanceAs (Decidable (_ ∧ _))

/-- The packages around a file that lie one in the other, the innermost first. -/
def packagesOf (tree : FileTree) (path : Path) : List Path :=
  ((path.parent?.map Path.ancestors).getD []).takeWhile (tree.IsNamedPackage ·)

theorem packagesAround_of_not (h : ¬ tree.IsNamedPackage dir) (coding : NameCoding)
    (outer : List Path) : tree.packagesAround coding (dir :: outer) = ([], some dir) := by
  rw [packagesAround]
  split
  next hpackage =>
    rw [IsNamedPackage, not_and, Option.not_isSome_iff_eq_none] at h
    rw [h hpackage]
  next => rfl

theorem packagesAround_of_name {name : Text} (h : tree.isPackage dir = true)
    (hname : dir.fileName? = some name) (coding : NameCoding) (outer : List Path) :
    tree.packagesAround coding (dir :: outer) =
      ((tree.packagesAround coding outer).1 ++ [coding.read name],
        (tree.packagesAround coding outer).2) := by
  rw [packagesAround, if_pos h, hname]

theorem exists_ancestorsWithin (bound : Nat) (dir : Path) :
    ∃ outer, Path.ancestorsWithin bound dir = dir :: outer := by
  cases bound with
  | zero => exact ⟨[], rfl⟩
  | succ bound =>
      rw [Path.ancestorsWithin]
      split
      · exact ⟨_, rfl⟩
      · exact ⟨[], rfl⟩

/-- The packages around a directory lead to it from a directory that is none. -/
structure LeadsTo (tree : FileTree) (dirs : List Path) (dir : Path) (names : List Text)
    (root : Path) : Prop where
  around : ∀ coding, tree.packagesAround coding dirs = (names.map coding.read, some root)
  isAbsolute : root.isAbsolute = true
  outside : ¬ tree.IsNamedPackage root
  components : dir.components = root.components ++ names.map .name
  packages : (dirs.takeWhile (tree.IsNamedPackage ·)).filterMap Path.fileName? = names.reverse

theorem leadsTo_of_not (habsolute : dir.isAbsolute = true) (h : ¬ tree.IsNamedPackage dir)
    (bound : Nat) : tree.LeadsTo (Path.ancestorsWithin bound dir) dir [] dir := by
  obtain ⟨outer, houter⟩ := exists_ancestorsWithin bound dir
  rw [houter]
  exact ⟨fun coding => packagesAround_of_not h coding outer, habsolute, h, by simp, by simp [h]⟩

theorem LeadsTo.concat {dirs names root} {parent : Path} {name : Text}
    (h : tree.LeadsTo dirs parent names root) (hpackage : tree.isPackage dir = true)
    (hname : dir.fileName? = some name)
    (hparent : dir.components = parent.components ++ [.name name]) :
    tree.LeadsTo (dir :: dirs) dir (names ++ [name]) root where
  around coding := by
    rw [packagesAround_of_name hpackage hname, h.around, List.map_append, List.map_singleton]
  isAbsolute := h.isAbsolute
  outside := h.outside
  components := by rw [hparent, h.components]; simp
  packages := by
    have hnamed : tree.IsNamedPackage dir := ⟨hpackage, by rw [hname]; rfl⟩
    rw [List.takeWhile_cons_of_pos (by simpa using hnamed), List.filterMap_cons_some hname,
      h.packages]
    simp

theorem exists_leadsTo (tree : FileTree) {bound : Nat} {dir : Path}
    (habsolute : dir.isAbsolute = true) (hbound : dir.steps.length ≤ bound + 1) :
    ∃ names root, tree.LeadsTo (Path.ancestorsWithin bound dir) dir names root := by
  induction bound generalizing dir with
  | zero =>
      refine ⟨[], dir, leadsTo_of_not habsolute ?_ 0⟩
      rintro ⟨-, hsome⟩
      obtain ⟨name, hname⟩ := Option.isSome_iff_exists.mp hsome
      obtain ⟨front, last, hsteps, -⟩ := Path.exists_steps_of_fileName? habsolute hname
      simp [hsteps] at hbound
  | succ bound ih =>
      by_cases hnamed : tree.IsNamedPackage dir
      · obtain ⟨hpackage, hsome⟩ := hnamed
        obtain ⟨name, hname⟩ := Option.isSome_iff_exists.mp hsome
        obtain ⟨front, last, hsteps, hlast⟩ := Path.exists_steps_of_fileName? habsolute hname
        obtain ⟨parent, hparent, hfront⟩ :=
          Path.exists_parent? hsteps (List.cons_ne_nil _ _) (by rw [hlast]; simp)
        rw [hsteps, ← hfront, List.length_append, List.length_singleton] at hbound
        obtain ⟨names, root, hleads⟩ := ih (Path.isAbsolute_of_steps hfront) (by omega)
        rw [Path.ancestorsWithin, hparent]
        refine ⟨_, root, hleads.concat hpackage hname ?_⟩
        rw [Path.components, hsteps, List.map_append, ← hfront, List.map_singleton, hlast,
          ← Path.components]
      · exact ⟨[], dir, leadsTo_of_not habsolute hnamed _⟩

/-- The packages around a file lead to it from the import root of its module. -/
theorem exists_leadsTo_file (tree : FileTree) {path : Path} {file : Text}
    (habsolute : path.isAbsolute = true) (hfile : path.fileName? = some file) :
    ∃ dir names root, path.parent? = some dir ∧ tree.LeadsTo dir.ancestors dir names root ∧
      path.components = root.components ++ names.map .name ++ [.name file] := by
  obtain ⟨front, last, hsteps, hlast⟩ := Path.exists_steps_of_fileName? habsolute hfile
  obtain ⟨dir, hdir, hfront⟩ :=
    Path.exists_parent? hsteps (List.cons_ne_nil _ _) (by rw [hlast]; simp)
  obtain ⟨names, root, hleads⟩ :=
    tree.exists_leadsTo (Path.isAbsolute_of_steps hfront) (Nat.le_succ dir.steps.length)
  refine ⟨dir, names, root, hdir, hleads, ?_⟩
  rw [← hleads.components, Path.components, hsteps, List.map_append, ← hfront, List.map_singleton,
    hlast, ← Path.components]

/-- The file that makes a directory a package counts as the package, save where it is no package
with a name. -/
theorem LeadsTo.moduleAtIn_eq {names root} {stem : Text}
    (h : tree.LeadsTo dir.ancestors dir names root) (hdir : path.parent? = some dir)
    (hstem : path.fileStem? = some stem) (coding : NameCoding) : tree.moduleAtIn coding path =
      ⟨ModuleName.ofSegments ((if coding.read stem = "__init__" ∧ names ≠ [] then names
        else names ++ [stem]).map coding.read), root⟩ := by
  have hroot : (Option.filter (!·.text.isEmpty) (some root)).getD (Path.ofString ".") = root := by
    rw [Option.filter_some_pos (by simp [Path.text_ne_nil h.isAbsolute]), Option.getD_some]
  rw [moduleAtIn, hdir, hstem, Option.map_some, Option.map_some, Option.getD_some,
    Option.getD_some, h.around]
  simp only [hroot]
  cases names <;> by_cases hinit : coding.read stem = "__init__" <;>
    simp [hinit, ModuleName.ofSegments_singleton]

theorem LeadsTo.isName {dirs names root} (h : tree.LeadsTo dirs dir names root) :
    ∀ name ∈ names, Path.IsName name := by
  intro name hname
  have hmem : .name name ∈ dir.components := by
    rw [h.components]
    exact List.mem_append_right _ (List.mem_map_of_mem hname)
  exact (Path.of_name_mem_components hmem).2

/-- What holds of the names of the packages holds of the names that lead to the directory. -/
theorem LeadsTo.forall_mem {dirs names root} {p : Text → Prop}
    (h : tree.LeadsTo dirs dir names root)
    (hdirs : ∀ dir ∈ dirs.takeWhile (tree.IsNamedPackage ·), ∀ name ∈ dir.fileName?, p name) :
    ∀ name ∈ names, p name := by
  intro name hname
  have hmem : name ∈ (dirs.takeWhile (tree.IsNamedPackage ·)).filterMap Path.fileName? := by
    rwa [h.packages, List.mem_reverse]
  obtain ⟨package, hpackage, hpackageName⟩ := List.mem_filterMap.mp hmem
  exact hdirs package hpackage _ hpackageName

/-- The file of a module is among those that are searched for under the name of the module, in the
root that it gives, and the root is no package with a name. The names that the name of the module is
made of have to be texts, for only those are written again as they were read. -/
theorem moduleAt_found (coding : NameCoding) (tree : FileTree) (path : Path)
    (habsolute : path.isAbsolute = true) (hextension : path.extension? = some "py".toList)
    (hstem : ∀ stem ∈ path.fileStem?, coding.IsSegment stem)
    (hpackages : ∀ dir ∈ tree.packagesOf path, ∀ name ∈ dir.fileName?, coding.IsSegment name) :
    let m := tree.moduleAtIn coding path
    (∃ candidate ∈ ModuleName.candidatesIn coding m.root m.name, candidate.same path = true) ∧
      (tree.isFile (m.root.join ModuleName.packageFile) = false ∨ m.root.fileName? = none) := by
  obtain ⟨stem, hfileStem, hne, hfileName⟩ := Path.fileName?_of_extension? hextension
  have hsegment : coding.IsSegment stem := hstem stem hfileStem
  obtain ⟨dir, names, root, hdir, hleads, hcomponents⟩ :=
    tree.exists_leadsTo_file habsolute hfileName
  have hfile : Path.IsName (stem ++ '.' :: "py".toList) :=
    (Path.of_name_mem_components (by rw [hcomponents]; simp)).2
  rw [packagesOf, hdir, Option.map_some, Option.getD_some] at hpackages
  have hsegments : ∀ name ∈ names, coding.IsSegment name := hleads.forall_mem hpackages
  rw [hleads.moduleAtIn_eq hdir hfileStem]
  refine ⟨?_, ?_⟩
  · simp only [Path.same, beq_iff_eq, hcomponents]
    split
    next hpackage =>
      obtain ⟨hinit, houter⟩ := hpackage
      rw [ModuleName.candidatesIn_ofSegments houter hsegments]
      refine ⟨_, List.mem_cons_of_mem _ List.mem_cons_self, ?_⟩
      rw [ModuleName.components_join_packageFile, Path.components_below _ hleads.isName,
        hsegment.eq_of_read_ascii hinit (by decide)]
      rfl
    next =>
      have hall : ∀ name ∈ names ++ [stem], coding.IsSegment name := by
        rw [List.forall_mem_append, List.forall_mem_singleton]
        exact ⟨hsegments, hsegment⟩
      rw [ModuleName.candidatesIn_ofSegments (by simp) hall]
      exact ⟨_, List.mem_cons_self, Path.components_withExtension_below _ hleads.isName
        (hfile.stem hne hsegment.dot_notMem) hsegment.dot_notMem hfile⟩
  · have houtside := hleads.outside
    rw [IsNamedPackage, isPackage, not_and_or] at houtside
    exact houtside.imp (by simp [Path.text_ne_nil hleads.isAbsolute]) (by simp)

/-- A package in a package, with one module. -/
def nested : FileTree :=
  directory [("src", directory [("pkg", directory [("__init__.py", text []),
    ("sub", directory [("__init__.py", text []), ("mod.py", text [])])])])]

theorem moduleAt_found_nested :
    let path := Path.ofString "/src/pkg/sub/mod.py"
    let m := nested.moduleAtIn .bytes path
    nested.isFile path = true ∧
      nested.packagesOf path = [.ofString "/src/pkg/sub", .ofString "/src/pkg"] ∧
      m = ⟨"pkg.sub.mod", .ofString "/src"⟩ ∧
      (∃ candidate ∈ ModuleName.candidatesIn .bytes m.root m.name, candidate.same path = true) ∧
      (nested.isFile (m.root.join ModuleName.packageFile) = false ∨ m.root.fileName? = none) := by
  intro path m
  have hpackages : nested.packagesOf path = [.ofString "/src/pkg/sub", .ofString "/src/pkg"] := by
    decide
  have hsegment : ∀ name ∈ ["mod".toList, "sub".toList, "pkg".toList],
      NameCoding.bytes.IsSegment name := fun name hname =>
    .of_ascii (by revert name; decide) (by revert name; decide)
  refine ⟨by decide, hpackages, by decide +kernel, moduleAt_found .bytes nested path (by decide)
    (by decide) ?_ ?_⟩
  · rintro stem ⟨⟩
    exact hsegment _ (by decide)
  · rw [hpackages]
    simp only [List.forall_mem_cons, List.not_mem_nil, false_implies, implies_true, and_true]
    constructor <;> (rintro name ⟨⟩; exact hsegment _ (by decide))

/-- A file whose name is a byte that stands for no character, and a directory in a package. -/
def misread : FileTree :=
  directory [("p", directory [("__init__.py", text []), ("x.py", text []),
    ("sub", directory []), ("q", directory [("\xff.py", text [])])])]

/-- A file with a name that is no text is not among those that are searched for. Where the path
goes out of a directory again, the packages around the file are not found. -/
theorem moduleAt_misread :
    (let path := Path.ofString "/p/q/\xff.py"
      let m := misread.moduleAtIn .bytes path
      misread.isFile path = true ∧ path.isAbsolute = true ∧ path.extension? = some "py".toList ∧
        misread.packagesOf path = [] ∧ (∀ stem ∈ path.fileStem?, '.' ∉ stem) ∧
        m = ⟨"\ufffd", .ofString "/p/q"⟩ ∧
        ∀ candidate ∈ ModuleName.candidatesIn .bytes m.root m.name, candidate.same path = false) ∧
      (let path := Path.ofString "/p/sub/../x.py"
        let m := misread.moduleAtIn .bytes path
        misread.isFile path = true ∧ m = ⟨"x", .ofString "/p/sub/.."⟩ ∧
          misread.isFile (m.root.join ModuleName.packageFile) = true ∧ m.root.resolved = ["p"]) := by
  decide +kernel

end FileTree

end CodingStandard
