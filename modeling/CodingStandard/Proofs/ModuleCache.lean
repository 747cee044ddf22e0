import CodingStandard.Resolution.ImportPath
import Mathlib.Data.List.Induction

namespace CodingStandard

/-!
# Modules that are remembered

An import path remembers every module that it has found, while import roots are added and files
change. A module that has been found once is given again from then on; a search that fails leaves
nothing behind. Import roots are added at the end, so as long as no file changes, a module that is
remembered is the one that a new search would find.
-/

namespace FileTree

/-- The first file for a module, root by root. In one root the module file comes before the
initialisation file of a package. -/
inductive FirstFile (tree : FileTree) (name : String) : List Path → Path → Prop where
  | plain {root rest file init} (h : ModuleName.candidates root name = [file, init])
      (hfile : tree.isFile file = true) : FirstFile tree name (root :: rest) file
  | package {root rest file init} (h : ModuleName.candidates root name = [file, init])
      (hfile : tree.isFile file = false) (hinit : tree.isFile init = true) :
      FirstFile tree name (root :: rest) init
  | later {root rest file init path} (h : ModuleName.candidates root name = [file, init])
      (hfile : tree.isFile file = false) (hinit : tree.isFile init = false)
      (hrest : FirstFile tree name rest path) : FirstFile tree name (root :: rest) path

/-- What a search that remembers nothing comes to. -/
inductive Searched (tree : FileTree) (parser : Parser) (roots : List Path) (name : String) :
    Except ResolveError Module → Prop where
  | loaded (path : Path) (source : Text) (hfirst : tree.FirstFile name roots path)
      (hread : tree.readText? path = some source) :
      Searched tree parser roots name (.ok (parser.moduleOf name path source))
  | unreadable (path : Path) (hfirst : tree.FirstFile name roots path)
      (hread : tree.readText? path = none) :
      Searched tree parser roots name (.error (.unreadable path))
  | missing (hnone : ∀ path, ¬ tree.FirstFile name roots path) :
      Searched tree parser roots name (.error (.notFound name))

variable {tree : FileTree} {parser : Parser} {roots : List Path} {name : String}

theorem firstFile_iff {path : Path} :
    tree.FirstFile name roots path ↔
      (roots.flatMap fun root => ModuleName.candidates root name).find? tree.isFile =
        some path := by
  induction roots with
  | nil => exact iff_of_false nofun (by simp)
  | cons root rest ih =>
      obtain ⟨file, init, h⟩ : ∃ file init, ModuleName.candidates root name = [file, init] :=
        ⟨_, _, rfl⟩
      rw [List.flatMap_cons, h, List.cons_append, List.cons_append, List.nil_append]
      constructor
      · rintro (⟨h', hfile⟩ | ⟨h', hfile, hinit⟩ | ⟨h', hfile, hinit, hrest⟩) <;>
          cases h.symm.trans h'
        · simp [hfile]
        · simp [hfile, hinit]
        · simpa [hfile, hinit] using ih.mp hrest
      · intro hfind
        cases hfile : tree.isFile file with
        | true =>
            obtain rfl : file = path := by simpa [hfile] using hfind
            exact .plain h hfile
        | false =>
            cases hinit : tree.isFile init with
            | true =>
                obtain rfl : init = path := by simpa [hfile, hinit] using hfind
                exact .package h hfile hinit
            | false => exact .later h hfile hinit (ih.mpr (by simpa [hfile, hinit] using hfind))

variable (tree parser roots name) in
theorem searched_findModule :
    tree.Searched parser roots name (tree.findModule parser roots name) := by
  unfold findModule
  split
  case h_1 hfind =>
    refine .missing fun path hfirst => ?_
    rw [firstFile_iff, hfind] at hfirst
    cases hfirst
  case h_2 path hfind =>
    split
    case h_1 source hread => exact .loaded path source (firstFile_iff.mpr hfind) hread
    case h_2 hread => exact .unreadable path (firstFile_iff.mpr hfind) hread

/-- A module that is found stays the first one when import roots are added behind. -/
theorem findModule_append {m : Module} (h : tree.findModule parser roots name = .ok m)
    (more : List Path) : tree.findModule parser (roots ++ more) name = .ok m := by
  unfold findModule at h ⊢
  rw [List.flatMap_append, List.find?_append]
  cases hfind : (roots.flatMap fun root => ModuleName.candidates root name).find? tree.isFile with
  | none => simp [hfind] at h
  | some path => simpa [hfind] using h

end FileTree

namespace ImportPath

theorem loaded_addRoot (imports : ImportPath) (root : Path) :
    (imports.addRoot root).loaded = imports.loaded := by
  unfold addRoot
  split <;> rfl

theorem roots_addRoot (imports : ImportPath) (root : Path) :
    ∃ more, (imports.addRoot root).roots = imports.roots ++ more := by
  unfold addRoot
  split
  · exact ⟨[], by simp⟩
  · exact ⟨[root], rfl⟩

theorem parser_addRoot (imports : ImportPath) (root : Path) :
    (imports.addRoot root).parser = imports.parser := by
  unfold addRoot
  split <;> rfl

theorem loaded_ofRootsBy (parser : Parser) (roots : List Path) :
    (ofRootsBy parser roots).loaded = [] := by
  induction roots using List.reverseRecOn with
  | nil => rfl
  | append_singleton roots root ih =>
      rw [ofRootsBy, List.foldl_append]
      exact (loaded_addRoot _ root).trans ih

theorem parser_ofRootsBy (parser : Parser) (roots : List Path) :
    (ofRootsBy parser roots).parser = parser := by
  induction roots using List.reverseRecOn with
  | nil => rfl
  | append_singleton roots root ih =>
      rw [ofRootsBy, List.foldl_append]
      exact (parser_addRoot _ root).trans ih

/-! ## Runs -/

/-- Something that happens to an import path or to the files around it. -/
inductive Event where
  | addRoot (root : Path)
  | resolve (name : String)
  /-- The files are changed into those of another tree. -/
  | change (tree : FileTree)

/-- An import path and the files that it is used on. -/
structure Setting where
  imports : ImportPath
  tree : FileTree

namespace Setting

/-- An import path that has not been used yet. -/
def fresh (parser : Parser) (roots : List Path) (tree : FileTree) : Setting :=
  ⟨ofRootsBy parser roots, tree⟩

def step (s : Setting) : Event → Setting
  | .addRoot root => { s with imports := s.imports.addRoot root }
  | .resolve name => { s with imports := (s.imports.resolve s.tree name).2 }
  | .change tree => { s with tree }

def run (s : Setting) (events : List Event) : Setting := events.foldl step s

/-- The module that is given for a name. -/
def answer (s : Setting) (name : String) : Except ResolveError Module :=
  (s.imports.resolve s.tree name).1

/-- What a new search for a name would find. -/
def found (s : Setting) (name : String) : Except ResolveError Module :=
  s.tree.findModule s.imports.parser s.imports.roots name

/-- What is remembered for a name. -/
def remembered? (s : Setting) (name : String) : Option Module := s.imports.loaded.lookup name

/-- No question for the name was answered by a module. -/
def Unanswered (s : Setting) (name : String) (events : List Event) : Prop :=
  ∀ before after, events = before ++ .resolve name :: after →
    ∃ e, (s.run before).answer name = .error e

@[simp] theorem run_nil (s : Setting) : s.run [] = s := rfl

@[simp] theorem run_cons (s : Setting) (e : Event) (events : List Event) :
    s.run (e :: events) = (s.step e).run events := rfl

theorem run_append (s : Setting) (front back : List Event) :
    s.run (front ++ back) = (s.run front).run back := List.foldl_append

variable {s : Setting} {name : String} {m : Module} {events : List Event}

theorem answer_of_remembered (h : s.remembered? name = some m) : s.answer name = .ok m := by
  have hlookup : (s.imports.library s.tree).loaded.lookup name = some m := h
  simp [answer, ImportPath.resolve, Library.resolve, hlookup]

theorem answer_of_not_remembered (h : s.remembered? name = none) :
    s.answer name = s.found name := by
  have hlookup : (s.imports.library s.tree).loaded.lookup name = none := h
  have hsearch : (s.imports.library s.tree).search name = s.found name := rfl
  simp only [answer, ImportPath.resolve, Library.resolve, hlookup, hsearch]
  cases s.found name <;> rfl

/-- A question leaves behind what it was answered by, unless it failed. -/
theorem remembered?_step_resolve (s : Setting) (asked name : String) :
    (s.step (.resolve asked)).remembered? name =
      if name = asked then (s.answer asked).toOption else s.remembered? name := by
  cases hasked : s.remembered? asked with
  | some m =>
      have hlookup : (s.imports.library s.tree).loaded.lookup asked = some m := hasked
      have hkept : s.step (.resolve asked) = s := by
        simp only [step, ImportPath.resolve, Library.resolve, hlookup]
        rfl
      rw [hkept, answer_of_remembered hasked]
      split
      case isTrue hname => rw [hname, hasked]; rfl
      case isFalse => rfl
  | none =>
      have hlookup : (s.imports.library s.tree).loaded.lookup asked = none := hasked
      have hsearch : (s.imports.library s.tree).search asked = s.found asked := rfl
      rw [answer_of_not_remembered hasked]
      simp only [remembered?, step, ImportPath.resolve, Library.resolve, hlookup, hsearch]
      by_cases hname : name = asked
      · subst hname
        cases s.found name with
        | error e => simpa [Except.toOption] using hlookup
        | ok m => simp [Library.insert, Except.toOption]
      · cases s.found asked with
        | error e => simp [hname, ImportPath.library]
        | ok m =>
            simp [Library.insert, hname, List.lookup_cons, beq_eq_false_iff_ne.mpr hname,
              ImportPath.library]

/-- What is remembered is never forgotten or replaced. -/
theorem remembered?_step (h : s.remembered? name = some m) (e : Event) :
    (s.step e).remembered? name = some m := by
  cases e with
  | addRoot root => exact (congrArg (List.lookup name) (loaded_addRoot ..)).trans h
  | change tree => exact h
  | resolve asked =>
      rw [remembered?_step_resolve]
      split
      case isTrue hname => rw [← hname, answer_of_remembered h]; rfl
      case isFalse => exact h

theorem remembered?_run (h : s.remembered? name = some m) (events : List Event) :
    (s.run events).remembered? name = some m := by
  induction events generalizing s with
  | nil => exact h
  | cons e events ih => exact ih (remembered?_step h e)

theorem remembered?_fresh (parser : Parser) (roots : List Path) (tree : FileTree)
    (name : String) : (fresh parser roots tree).remembered? name = none :=
  congrArg (List.lookup name) (loaded_ofRootsBy parser roots)

/-- Only a question that was answered leaves something behind. -/
theorem Unanswered.remembered?_eq (h : s.Unanswered name events)
    (hs : s.remembered? name = none) : (s.run events).remembered? name = none := by
  induction events using List.reverseRecOn with
  | nil => exact hs
  | append_singleton events e ih =>
      have hbefore := ih fun before after hsplit =>
        h before (after ++ [e]) (by rw [hsplit]; simp)
      rw [run_append, run_cons, run_nil]
      cases e with
      | addRoot root => exact (congrArg (List.lookup name) (loaded_addRoot ..)).trans hbefore
      | change tree => exact hbefore
      | resolve asked =>
          rw [remembered?_step_resolve]
          split
          case isTrue hname =>
            subst hname
            obtain ⟨e, herror⟩ := h events [] rfl
            rw [herror]
            rfl
          case isFalse => exact hbefore

/-- Everything that is remembered would be found again. -/
def UpToDate (s : Setting) : Prop :=
  ∀ name m, s.remembered? name = some m → s.found name = .ok m

theorem UpToDate.answer_eq (h : s.UpToDate) (name : String) : s.answer name = s.found name := by
  cases hname : s.remembered? name with
  | none => exact answer_of_not_remembered hname
  | some m => rw [answer_of_remembered hname, h name m hname]

theorem UpToDate.step (h : s.UpToDate) {e : Event} (he : ∀ tree, e ≠ .change tree) :
    (s.step e).UpToDate := by
  intro name m hm
  cases e with
  | change tree => exact absurd rfl (he tree)
  | addRoot root =>
      obtain ⟨more, hmore⟩ := roots_addRoot s.imports root
      have hold := h name m ((congrArg (List.lookup name) (loaded_addRoot ..)).symm.trans hm)
      rw [found, Setting.step, parser_addRoot, hmore]
      exact FileTree.findModule_append hold more
  | resolve asked =>
      change s.found name = _
      rw [remembered?_step_resolve] at hm
      split at hm
      case isTrue hname =>
        rw [hname, ← h.answer_eq]
        cases hanswer : s.answer asked with
        | error e => simp [hanswer, Except.toOption] at hm
        | ok found => simpa [hanswer, Except.toOption] using hm
      case isFalse => exact h name m hm

theorem parser_run (s : Setting) (events : List Event) :
    (s.run events).imports.parser = s.imports.parser := by
  induction events generalizing s with
  | nil => rfl
  | cons e events ih =>
      rw [run_cons, ih]
      cases e with
      | addRoot root => exact parser_addRoot s.imports root
      | resolve | change => rfl

theorem tree_run (hevents : ∀ tree, .change tree ∉ events) : (s.run events).tree = s.tree := by
  induction events generalizing s with
  | nil => rfl
  | cons e events ih =>
      rw [run_cons, ih fun tree hmem => hevents tree (List.mem_cons_of_mem e hmem)]
      cases e with
      | change tree => exact absurd List.mem_cons_self (hevents tree)
      | addRoot | resolve => rfl

theorem UpToDate.run (h : s.UpToDate) (hevents : ∀ tree, .change tree ∉ events) :
    (s.run events).UpToDate := by
  induction events generalizing s with
  | nil => exact h
  | cons e events ih =>
      refine ih (h.step fun tree he => hevents tree (by simp [he])) fun tree hmem => ?_
      exact hevents tree (List.mem_cons_of_mem e hmem)

end Setting

open Setting in
/-- Whatever has been asked before, and however import roots and files have changed: the first
module that was found for a name is given for it from then on, and as long as there is none, every
question is a new search. While no file changes, every question is answered as by a new search. -/
theorem resolve_remembersFirst (parser : Parser) (roots : List Path) (tree : FileTree)
    (events : List Event) (name : String) :
    let start := fresh parser roots tree
    let now := start.run events
    (∀ front back m, events = front ++ .resolve name :: back → start.Unanswered name front →
      (start.run front).answer name = .ok m →
        (start.run front).tree.Searched parser (start.run front).imports.roots name (.ok m) ∧
          now.answer name = .ok m) ∧
    (start.Unanswered name events →
      now.tree.Searched parser now.imports.roots name (now.answer name)) ∧
    ((∀ tree', .change tree' ∉ events) →
      tree.Searched parser now.imports.roots name (now.answer name)) := by
  intro start now
  have hfresh := remembered?_fresh parser roots tree name
  have hsearch : ∀ events, start.Unanswered name events →
      (start.run events).answer name = (start.run events).found name :=
    fun events h => answer_of_not_remembered (h.remembered?_eq hfresh)
  have hsearched : ∀ events, (start.run events).tree.Searched parser
      (start.run events).imports.roots name ((start.run events).found name) := by
    intro events
    have hparser : (start.run events).imports.parser = parser :=
      (parser_run start events).trans (parser_ofRootsBy parser roots)
    rw [found, hparser]
    exact FileTree.searched_findModule ..
  refine ⟨?_, fun h => ?_, fun hevents => ?_⟩
  · rintro front back m rfl hfront hm
    refine ⟨?_, answer_of_remembered ?_⟩
    · rw [← hm, hsearch front hfront]
      exact hsearched front
    · change (start.run (front ++ .resolve name :: back)).remembered? name = some m
      rw [run_append, run_cons]
      refine remembered?_run ?_ back
      rw [remembered?_step_resolve, if_pos rfl, hm]
      rfl
  · rw [hsearch events h]
    exact hsearched events
  · have htree : now.tree = tree := tree_run hevents
    have hnow : now.UpToDate := UpToDate.run (fun name m hm => by
      rw [remembered?_fresh] at hm
      cases hm) hevents
    rw [hnow.answer_eq, ← htree]
    exact hsearched events

end ImportPath

end CodingStandard
