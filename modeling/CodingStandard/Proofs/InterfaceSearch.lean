import CodingStandard.Checker.Docstring.Interface
import CodingStandard.Proofs.Reexport

namespace CodingStandard

/-!
# The search through interfaces

A class may name several interfaces. They are asked one after the other, and the library
remembers what it has found on the way. It still gives the same answers, so what the search comes
to is decided by the answers that the first library gives: the first interface that defines the
method ends it, and so does the first one that cannot be had.
-/

namespace Trail

variable {t t' : Trail} {a : ClassAnswer}

theorem find_of_step_inl (h : t.step = .inl a) : a.2.find = t.library.find := by
  have hresolve := t.library.find_resolve t.moduleName
  by_cases hvisited : t.here ∈ t.visited
  · rw [step_of_visited hvisited] at h
    cases h
    rfl
  rcases t.library.reexports_or_ends t.here with ⟨q, hq⟩ | ⟨r, hr⟩
  · rw [step_of_reexports hvisited hq] at h
    cases h
  · rw [step_of_ends hvisited hr] at h
    cases h
    exact hresolve

theorem find_of_step_inr (h : t.step = .inr t') : t'.library.find = t.library.find := by
  have hresolve := t.library.find_resolve t.moduleName
  by_cases hvisited : t.here ∈ t.visited
  · rw [step_of_visited hvisited] at h
    cases h
  rcases t.library.reexports_or_ends t.here with ⟨q, hq⟩ | ⟨r, hr⟩
  · rw [step_of_reexports hvisited hq] at h
    cases h
    exact hresolve
  · rw [step_of_ends hvisited hr] at h
    cases h

theorem Answers.find_eq (h : t.Answers a) : a.2.find = t.library.find := by
  induction h with
  | stop h => exact find_of_step_inl h
  | next h _ ih => exact ih.trans (find_of_step_inr h)

end Trail

namespace Library

variable {lib other : Library}

/-- Every search for a class comes to an answer. -/
def Terminates (lib : Library) : Prop :=
  ∀ moduleName name, ∃ answer, Trail.Answers ⟨lib, [], moduleName, name⟩ answer

theorem terminates_iff : lib.Terminates ↔ ∀ start, (lib.passable start).Finite :=
  ⟨fun h start => (lib.exists_answers_iff start).mp (h start.1 start.2),
    fun h moduleName name => (lib.exists_answers_iff (moduleName, name)).mpr (h _)⟩

theorem terminates_of_finite (h : {name | ∃ m, lib.find name = .ok m}.Finite) : lib.Terminates :=
  terminates_iff.mpr (finite_passable h)

theorem Terminates.congr (h : lib.find = other.find) (hlib : lib.Terminates) :
    other.Terminates := by
  rw [terminates_iff] at hlib ⊢
  intro start
  have hstart := hlib start
  unfold passable Chain at hstart ⊢
  rwa [← reexports_congr h]

theorem Outcome.congr {start : String × String} {r : Except ResolveError (Option ResolvedClass)}
    (h : lib.find = other.find) (houtcome : lib.Outcome start r) : other.Outcome start r := by
  have hreexports := reexports_congr h
  cases houtcome with
  | ends hchain hends => exact .ends (by rwa [Chain, ← hreexports]) (hends.congr h)
  | cycles htwice => exact .cycles (by rwa [FirstMetTwice, ← hreexports])

/-- Libraries that find the same modules find the same classes. -/
theorem lookupClass_congr (h : lib.find = other.find) (hlib : lib.Terminates)
    (moduleName name : String) :
    (lib.lookupClass moduleName name).1 = (other.lookupClass moduleName name).1 := by
  have houtcome := (lookupClass_eq_iff (terminates_iff.mp hlib (moduleName, name))).mp rfl
  have hother := terminates_iff.mp (hlib.congr h) (moduleName, name)
  exact ((lookupClass_eq_iff hother).mpr (houtcome.congr h)).symm

theorem find_lookupClass (hlib : lib.Terminates) (moduleName name : String) :
    (lib.lookupClass moduleName name).2.find = lib.find := by
  obtain ⟨answer, hanswer⟩ := hlib moduleName name
  rw [lookupClass, hanswer.follow_eq]
  exact hanswer.find_eq

end Library

namespace Interface

/-! ## One interface -/

/-- What the class that a search has found says about a method. -/
def verdict (interface method moduleName name : String) :
    Except ResolveError (Option ResolvedClass) → Except CheckError Bool
  | .ok (some c) => .ok (c.defines method)
  | .ok none => .error (.structural ("interface " ++ name ++ " is not a class in " ++ moduleName))
  | .error (.notFound missing) => .error (.lookup ("module " ++ missing ++ " for " ++ interface))
  | .error e => .error (.resolve e)

variable {m : Module} {lib other : Library} {method interface : String} {e : CheckError}

theorem defines_of_elsewhere {moduleName name : String}
    (h : locate m interface = .ok (.elsewhere moduleName name)) :
    defines m lib interface method =
      (verdict interface method moduleName name (lib.lookupClass moduleName name).1,
        (lib.lookupClass moduleName name).2) := by
  simp only [defines, h]
  rcases lib.lookupClass moduleName name with ⟨(_ | _ | _) | (_ | _), _⟩ <;> rfl

theorem defines_congr (h : lib.find = other.find) (hlib : lib.Terminates)
    (interface method : String) :
    (defines m lib interface method).1 = (defines m other interface method).1 := by
  cases hlocate : locate m interface with
  | error e => simp only [defines, hlocate]
  | ok target =>
      cases target with
      | here node => simp only [defines, hlocate]
      | elsewhere moduleName name =>
          rw [defines_of_elsewhere hlocate, defines_of_elsewhere hlocate,
            Library.lookupClass_congr h hlib]

theorem find_defines (m : Module) (hlib : lib.Terminates) (interface method : String) :
    (defines m lib interface method).2.find = lib.find := by
  cases hlocate : locate m interface with
  | error e => simp only [defines, hlocate]
  | ok target =>
      cases target with
      | here node => simp only [defines, hlocate]
      | elsewhere moduleName name =>
          rw [defines_of_elsewhere hlocate]
          exact Library.find_lookupClass hlib moduleName name

theorem importedName_ne_resolve (i : Import) (imported : ImportName) (head : String)
    (rest : List String) (error : ResolveError) :
    importedName m i imported head rest ≠ .error (.resolve error) := by
  unfold importedName
  split_ifs
  · split <;> simp
  · simp
  · simp

theorem bind_targetOf_ne_resolve {full : Except CheckError String} {error : ResolveError}
    (h : full ≠ .error (.resolve error)) :
    full.bind (targetOf interface) ≠ .error (.resolve error) := by
  cases full with
  | error e =>
      rintro ⟨⟩
      exact h rfl
  | ok full =>
      change targetOf interface full ≠ _
      unfold targetOf
      split <;> simp

/-- Where a reference leads is found without a library. -/
theorem locate_ne_resolve (error : ResolveError) :
    locate m interface ≠ .error (.resolve error) := by
  unfold locate
  dsimp only
  split
  · simp
  · split
    · split
      · exact bind_targetOf_ne_resolve (importedName_ne_resolve _ _ _ _ error)
      · simp
    · split <;> simp
    · simp

/-- A module that is missing is not reported as such. -/
theorem defines_ne_notFound (missing : String) :
    (defines m lib interface method).1 ≠ .error (.resolve (.notFound missing)) := by
  cases hlocate : locate m interface with
  | error e =>
      simp only [defines, hlocate]
      rintro ⟨⟩
      exact locate_ne_resolve _ hlocate
  | ok target =>
      cases target with
      | here node => simp [defines, hlocate]
      | elsewhere moduleName name =>
          rw [defines_of_elsewhere hlocate]
          rcases (lib.lookupClass moduleName name).1 with (_ | _ | _) | (_ | _) <;> simp [verdict]

/-! ## Several interfaces -/

/-- The search passes over the interface: it does not define the method, or its imports go in
circles. -/
def Passes (m : Module) (lib : Library) (method interface : String) : Prop :=
  (defines m lib interface method).1 = .ok false ∨
    ∃ moduleName name,
      (defines m lib interface method).1 = .error (.resolve (.cycle moduleName name))

/-- The interface cannot be asked, for another reason than imports that go in circles. -/
def Fails (m : Module) (lib : Library) (method interface : String) (e : CheckError) : Prop :=
  (defines m lib interface method).1 = .error e ∧
    ∀ moduleName name, e ≠ .resolve (.cycle moduleName name)

/-- An interface fails, and the search passes over those in front of it. -/
def FailsFirst (m : Module) (lib : Library) (method : String) (interfaces : List String)
    (e : CheckError) : Prop :=
  ∃ front interface back, interfaces = front ++ interface :: back ∧
    (∀ passed ∈ front, Passes m lib method passed) ∧ Fails m lib method interface e

theorem Passes.congr (h : lib.find = other.find) (hlib : lib.Terminates)
    (hpasses : Passes m lib method interface) : Passes m other method interface := by
  rwa [Passes, ← defines_congr h hlib]

theorem Fails.congr (h : lib.find = other.find) (hlib : lib.Terminates)
    (hfails : Fails m lib method interface e) : Fails m other method interface e := by
  rwa [Fails, ← defines_congr h hlib]

theorem Passes.not_fails (h : Passes m lib method interface) :
    ¬ Fails m lib method interface e := by
  rintro ⟨hdefines, hcycle⟩
  rcases h with h | ⟨moduleName, name, h⟩
  · rw [h] at hdefines
    cases hdefines
  · rw [h] at hdefines
    exact hcycle moduleName name (Except.error.inj hdefines).symm

theorem not_failsFirst_nil : ¬ FailsFirst m lib method [] e := by simp [FailsFirst]

theorem failsFirst_cons {rest : List String} :
    FailsFirst m lib method (interface :: rest) e ↔
      Fails m lib method interface e ∨
        Passes m lib method interface ∧ FailsFirst m lib method rest e := by
  constructor
  · rintro ⟨front, failing, back, hsplit, hpasses, hfails⟩
    cases front with
    | nil =>
        obtain ⟨rfl, -⟩ := List.cons.inj hsplit
        exact .inl hfails
    | cons first front =>
        obtain ⟨rfl, hrest⟩ := List.cons.inj hsplit
        rw [List.forall_mem_cons] at hpasses
        exact .inr ⟨hpasses.1, front, failing, back, hrest, hpasses.2, hfails⟩
  · rintro (hfails | ⟨hpasses, front, failing, back, rfl, hfront, hfails⟩)
    · exact ⟨[], interface, rest, rfl, List.forall_mem_nil _, hfails⟩
    · exact ⟨interface :: front, failing, back, rfl, List.forall_mem_cons.mpr ⟨hpasses, hfront⟩,
        hfails⟩

/-- An interface that defines the method ends the search before any interface behind it. -/
theorem not_failsFirst_of_true (h : (defines m lib interface method).1 = .ok true)
    (rest : List String) : ¬ FailsFirst m lib method (interface :: rest) e := by
  simp [failsFirst_cons, Fails, Passes, h]

theorem FailsFirst.congr (h : lib.find = other.find) (hlib : lib.Terminates)
    {interfaces : List String} (hfails : FailsFirst m lib method interfaces e) :
    FailsFirst m other method interfaces e := by
  obtain ⟨front, interface, back, hsplit, hpasses, hfails⟩ := hfails
  refine ⟨front, interface, back, hsplit, ?_, hfails.congr h hlib⟩
  intro passed hpassed
  exact (hpasses passed hpassed).congr h hlib

theorem FailsFirst.ne_cycle {interfaces : List String}
    (h : FailsFirst m lib method interfaces e) (moduleName name : String) :
    e ≠ .resolve (.cycle moduleName name) := by
  obtain ⟨front, interface, back, -, -, -, hcycle⟩ := h
  exact hcycle moduleName name

theorem FailsFirst.ne_notFound {interfaces : List String}
    (h : FailsFirst m lib method interfaces e) (missing : String) :
    e ≠ .resolve (.notFound missing) := by
  obtain ⟨front, interface, back, -, -, hdefines, -⟩ := h
  rintro rfl
  exact defines_ne_notFound missing hdefines

variable (m lib method interface) in
theorem defines_cases : (defines m lib interface method).1 = .ok true ∨
    Passes m lib method interface ∨ ∃ e, Fails m lib method interface e := by
  rcases hdefines : (defines m lib interface method).1 with e | _ | _
  · by_cases hcycle : ∃ moduleName name, e = .resolve (.cycle moduleName name)
    · obtain ⟨moduleName, name, rfl⟩ := hcycle
      exact .inr (.inl (.inr ⟨moduleName, name, hdefines⟩))
    · exact .inr (.inr ⟨e, hdefines, fun moduleName name he => hcycle ⟨moduleName, name, he⟩⟩)
  · exact .inr (.inl (.inl hdefines))
  · exact .inl rfl

theorem anyDefines_cons_of_true (h : (defines m lib interface method).1 = .ok true)
    (rest : List String) :
    anyDefines m method lib (interface :: rest) =
      (.ok true, (defines m lib interface method).2) := by
  rw [anyDefines]
  rcases hdefines : defines m lib interface method with ⟨found, lib'⟩
  rw [hdefines] at h
  cases h
  rfl

theorem anyDefines_cons_of_passes (h : Passes m lib method interface) (rest : List String) :
    anyDefines m method lib (interface :: rest) =
      anyDefines m method (defines m lib interface method).2 rest := by
  rw [anyDefines]
  unfold Passes at h
  rcases hdefines : defines m lib interface method with ⟨found, lib'⟩
  rw [hdefines] at h
  rcases h with h | ⟨moduleName, name, h⟩ <;> cases h <;> rfl

theorem anyDefines_cons_of_fails (h : Fails m lib method interface e) (rest : List String) :
    anyDefines m method lib (interface :: rest) =
      (.error e, (defines m lib interface method).2) := by
  rw [anyDefines]
  obtain ⟨h, hcycle⟩ := h
  rcases hdefines : defines m lib interface method with ⟨found, lib'⟩
  rw [hdefines] at h
  cases h
  rcases e with _ | _ | (_ | _ | _)
  case resolve.cycle => exact absurd rfl (hcycle _ _)
  all_goals rfl

theorem find_anyDefines (hlib : lib.Terminates) (interfaces : List String) :
    (anyDefines m method lib interfaces).2.find = lib.find := by
  induction interfaces generalizing lib with
  | nil => rfl
  | cons interface rest ih =>
      have hfind := find_defines m hlib interface method
      rcases defines_cases m lib method interface with h | h | ⟨e, h⟩
      · rwa [anyDefines_cons_of_true h]
      · rw [anyDefines_cons_of_passes h, ih (hlib.congr hfind.symm), hfind]
      · rwa [anyDefines_cons_of_fails h]

/-- The search fails with the error of the first interface that fails, if it passes over those in
front of it. -/
theorem anyDefines_eq_error_iff (hlib : lib.Terminates) (interfaces : List String) :
    (anyDefines m method lib interfaces).1 = .error e ↔
      FailsFirst m lib method interfaces e := by
  induction interfaces generalizing lib with
  | nil => exact iff_of_false nofun not_failsFirst_nil
  | cons interface rest ih =>
      rw [failsFirst_cons]
      rcases defines_cases m lib method interface with h | h | ⟨e', h⟩
      · rw [anyDefines_cons_of_true h, ← failsFirst_cons]
        exact iff_of_false nofun (not_failsFirst_of_true h rest)
      · have hfind := find_defines m hlib interface method
        rw [anyDefines_cons_of_passes h, ih (hlib.congr hfind.symm), or_iff_right h.not_fails,
          and_iff_right h]
        exact ⟨fun hrest => hrest.congr hfind (hlib.congr hfind.symm),
          fun hrest => hrest.congr hfind.symm hlib⟩
      · rw [anyDefines_cons_of_fails h]
        constructor
        · rintro ⟨⟩
          exact .inl h
        · rintro (h' | ⟨hpasses, -⟩)
          · exact h.1.symm.trans h'.1
          · exact absurd h hpasses.not_fails

theorem anyDefines_of_passes (hlib : lib.Terminates) {interfaces : List String}
    (h : ∀ interface ∈ interfaces, Passes m lib method interface) :
    (anyDefines m method lib interfaces).1 = .ok false := by
  induction interfaces generalizing lib with
  | nil => rfl
  | cons interface rest ih =>
      rw [List.forall_mem_cons] at h
      have hfind := (find_defines m hlib interface method).symm
      rw [anyDefines_cons_of_passes h.1]
      exact ih (hlib.congr hfind) fun other hother => (h.2 other hother).congr hfind hlib

end Interface

end CodingStandard
