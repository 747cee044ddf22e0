import CodingStandard.Proofs.Isolation
import Mathlib.Data.List.Perm.Basic

namespace CodingStandard

/-!
# The order of reports

Reports are sorted by file, line, code and column. The key leaves out what a message says, so many
violations tie, and those keep the order in which they were found. Nevertheless a report does not
depend on the order of the checkers or of the files: violations that tie are about one file and
have one code, so they come from one checker, which finds them in one order.
-/

/-! ## Sorting with ties -/

section Ties

variable {α β : Type}

/-- Values compared by a key. -/
theorem transCmp_on (cmp : β → β → Ordering) [Std.TransCmp cmp] (key : α → β) :
    Std.TransCmp fun a b => cmp (key a) (key b) where
  eq_swap {a b} := (Std.OrientedCmp.eq_swap : cmp (key a) (key b) = (cmp (key b) (key a)).swap)
  isLE_trans hab hbc := (Std.TransCmp.isLE_trans hab hbc :)

variable {cmp : α → α → Ordering}

/-- The members of a list that tie with a value, in their order. -/
def tiedWith (cmp : α → α → Ordering) (a : α) (l : List α) : List α := l.filter (cmp a · == .eq)

theorem mem_tiedWith {a b : α} {l : List α} : b ∈ tiedWith cmp a l ↔ b ∈ l ∧ cmp a b = .eq := by
  simp [tiedWith]

variable [Std.TransCmp cmp]

/-- Sorting keeps the order of the members that tie. -/
theorem tiedWith_mergeSort (a : α) (l : List α) :
    tiedWith cmp a (l.mergeSort fun x y => (cmp x y).isLE) = tiedWith cmp a l := by
  have hordered : (tiedWith cmp a l).Pairwise fun x y => (cmp x y).isLE := by
    apply List.pairwise_of_forall_mem_list
    intro x hx y hy
    have hxa : cmp x a = .eq := Std.OrientedCmp.eq_symm (mem_tiedWith.mp hx).2
    rw [Std.TransCmp.congr_left hxa, (mem_tiedWith.mp hy).2]
    rfl
  have hsublist : (tiedWith cmp a l).Sublist (l.mergeSort fun x y => (cmp x y).isLE) :=
    List.sublist_mergeSort (fun _ _ _ => Std.TransCmp.isLE_trans) isLE_total hordered
      List.filter_sublist
  have hkept : (tiedWith cmp a l).Sublist
      (tiedWith cmp a (l.mergeSort fun x y => (cmp x y).isLE)) := by
    have h := hsublist.filter (cmp a · == .eq)
    simpa only [tiedWith, List.filter_filter, Bool.and_self] using h
  exact (hkept.eq_of_length ((List.mergeSort_perm ..).filter _).length_eq.symm).symm

/-- Two sorted lists are equal if the members that tie stand in both in the same order. -/
theorem eq_of_tiedWith_eq {l l' : List α} (hl : l.Pairwise fun a b => (cmp a b).isLE)
    (hl' : l'.Pairwise fun a b => (cmp a b).isLE)
    (h : ∀ a, tiedWith cmp a l = tiedWith cmp a l') : l = l' := by
  have hmem : ∀ a, a ∈ l ↔ a ∈ l' := by
    intro a
    simpa [mem_tiedWith, Std.ReflCmp.compare_self] using congrArg (a ∈ ·) (h a)
  induction l generalizing l' with
  | nil =>
      refine (List.eq_nil_iff_forall_not_mem.mpr fun a ha => ?_).symm
      simpa using (hmem a).mpr ha
  | cons a l ih =>
      cases l' with
      | nil => simpa using (hmem a).mp List.mem_cons_self
      | cons b l' =>
          rw [List.pairwise_cons] at hl hl'
          -- Each of the two heads is a member of the other list, hence not before its head.
          have hab : (cmp a b).isLE := by
            rcases List.mem_cons.mp ((hmem b).mpr List.mem_cons_self) with rfl | hb
            · simp [Std.ReflCmp.compare_self]
            · exact hl.1 b hb
          have hba : (cmp b a).isLE := by
            rcases List.mem_cons.mp ((hmem a).mp List.mem_cons_self) with rfl | ha
            · simp [Std.ReflCmp.compare_self]
            · exact hl'.1 a ha
          have htie : cmp a b = .eq := Std.OrientedCmp.isLE_antisymm hab hba
          have hhead := h a
          rw [tiedWith, tiedWith, List.filter_cons_of_pos (by simp [Std.ReflCmp.compare_self]),
            List.filter_cons_of_pos (by simp [htie])] at hhead
          obtain rfl : a = b := (List.cons.inj hhead).1
          have htail : ∀ c, tiedWith cmp c l = tiedWith cmp c l' := by
            intro c
            have hc := h c
            unfold tiedWith at hc ⊢
            rw [List.filter_cons, List.filter_cons] at hc
            split at hc
            · exact (List.cons.inj hc).2
            · exact hc
          rw [ih hl.2 hl'.2 htail fun c => ?_]
          simpa [mem_tiedWith, Std.ReflCmp.compare_self] using congrArg (c ∈ ·) (htail c)

end Ties

theorem Component.key_injective : Function.Injective Component.key := by
  intro a b h
  cases a <;> cases b <;> simp_all [key, List.map_inj_right, Char.toNat_inj]

instance : Std.TransCmp Path.order :=
  transCmp_on (List.compareLex (List.compareLex compare))
    fun path : Path => path.components.map Component.key

theorem Path.order_eq_iff {a b : Path} : order a b = .eq ↔ a.same b := by
  rw [order, Std.LawfulEqCmp.compare_eq_iff_eq, same, beq_iff_eq]
  exact (List.map_injective_iff.mpr Component.key_injective).eq_iff

namespace Violation

instance : Std.TransCmp order :=
  have := transCmp_on Path.order fun v : Violation => v.location.file
  have := transCmp_on compare fun v : Violation => v.location.line
  have := transCmp_on compare fun v : Violation => v.code
  have := transCmp_on compare fun v : Violation => v.location.column
  inferInstanceAs (Std.TransCmp (compareLex _ (compareLex _ (compareLex _ _))))

/-- One violation stands before another in a report, or ties with it: it is about an earlier file
or, in the same file, an earlier line or, on the same line, has a smaller code or, with the same
code, a column that is not larger. -/
def NotAfter (a b : Violation) : Prop :=
  Path.order a.location.file b.location.file = .lt ∨
    a.location.file.same b.location.file ∧
      (a.location.line < b.location.line ∨
        a.location.line = b.location.line ∧
          (a.code < b.code ∨ a.code = b.code ∧ a.location.column ≤ b.location.column))

theorem isLE_order_iff {a b : Violation} : (order a b).isLE ↔ NotAfter a b := by
  have hcode : compare a.code b.code = .lt ↔ a.code < b.code := by
    change compareOfLessAndEq a.code b.code = .lt ↔ a.code < b.code
    unfold compareOfLessAndEq
    split_ifs <;> simp_all
  simp only [order, Ordering.isLE_then_iff_or, Path.order_eq_iff, NotAfter, hcode,
    Nat.isLE_compare, Std.LawfulEqCmp.compare_eq_iff_eq, Std.compare_eq_lt]

theorem code_eq_of_tie {a b : Violation} (h : order a b = .eq) : a.code = b.code := by
  simp only [order, Ordering.then_eq_eq] at h
  exact Std.LawfulEqCmp.eq_of_compare h.2.2.1

theorem same_file_of_tie {a b : Violation} (h : order a b = .eq) :
    a.location.file.same b.location.file := by
  simp only [order, Ordering.then_eq_eq] at h
  exact Path.order_eq_iff.mp h.1

theorem pairwise_isLE_sort (vs : List Violation) :
    (sort vs).Pairwise fun a b => (order a b).isLE :=
  List.pairwise_mergeSort (fun _ _ _ => Std.TransCmp.isLE_trans) isLE_total vs

/-- Reports are equal if the violations that tie were found in the same order. -/
theorem sort_eq_of_tiedWith_eq {vs ws : List Violation}
    (h : ∀ v, tiedWith order v vs = tiedWith order v ws) : sort vs = sort ws := by
  apply eq_of_tiedWith_eq (pairwise_isLE_sort vs) (pairwise_isLE_sort ws)
  intro v
  rw [sort, sort, tiedWith_mergeSort, tiedWith_mergeSort, h v]

end Violation

/-! ## One file -/

namespace Linter

/-- A run fails where the calls of the checker of docstrings alone fail. -/
theorem error_callAll (file : SourceFile) (m : Module) (lines : Scan)
    (due : List (Nat × Checker)) (hdue : ∀ x ∈ due, Builtin x.2) {p q : Progress}
    (hlibrary : p.library = q.library) (hp : p.error = none) (hq : q.error = none) :
    (callAll file m lines due p).error =
      (callAll file m lines (due.filter (·.2.name == "docstring")) q).error := by
  induction due generalizing p q with
  | nil => exact hp.trans hq.symm
  | cons x due ih =>
      obtain ⟨node, c⟩ := x
      rw [List.forall_mem_cons] at hdue
      by_cases hname : c.name = "docstring"
      · obtain ⟨settings, rfl⟩ := hdue.1.eq_docstring hname
        have hvisit : (DocstringRule.checker settings).enter
              ⟨file, m, lines, node, p.sink.attempted⟩ p.library =
            (DocstringRule.checker settings).enter
              ⟨file, m, lines, node, q.sink.attempted⟩ q.library := by
          rw [hlibrary]
          rfl
        have hfails : (call file m lines node p (DocstringRule.checker settings)).error =
            (call file m lines node q (DocstringRule.checker settings)).error :=
          congrArg Visit.error hvisit
        rw [List.filter_cons_of_pos (by simp [hname])]
        cases hfailed :
            (call file m lines node p (DocstringRule.checker settings)).error.isSome with
        | true =>
            rw [callAll_cons_of_failed hfailed, callAll_cons_of_failed (hfails ▸ hfailed)]
            exact hfails
        | false =>
            have hnone := Option.isSome_eq_false_iff.mp hfailed
            rw [Option.isNone_iff_eq_none] at hnone
            rw [callAll_cons hfailed, callAll_cons (hfails ▸ hfailed)]
            exact ih hdue.2 (congrArg Visit.library hvisit) hnone (hfails ▸ hnone)
      · obtain ⟨found, hfound⟩ := hdue.1.offline hname
        have hcall : (call file m lines node p c).error = none := by
          rw [call, hfound]
          rfl
        have hkept : (call file m lines node p c).library = q.library := by
          rw [call, hfound]
          exact hlibrary
        rw [List.filter_cons_of_neg (by simpa using hname),
          callAll_cons (congrArg Option.isSome hcall)]
        exact ih hdue.2 hkept hcall hq

section OneFile

variable {checkers : List Checker} (hnames : (checkers.map Checker.name).Nodup)
  (filter : MessageFilter) (overrides : List (String × Severity)) (file : SourceFile) (m : Module)
  (lib : Library)

include hnames

theorem filter_agenda_docstring {checkers' : List Checker} (hperm : checkers.Perm checkers') :
    ((configured checkers filter overrides).agenda m).filter (·.2.name == "docstring") =
      ((configured checkers' filter overrides).agenda m).filter (·.2.name == "docstring") := by
  have hnames' := (hperm.map Checker.name).nodup_iff.mp hnames
  by_cases h : ∃ c ∈ checkers, c.name = "docstring"
  · obtain ⟨c, hc, hname⟩ := h
    have halone : (configured [c] filter overrides).checkers = [c] := rfl
    rw [← hname, filter_agenda hnames hc halone m]
    exact (filter_agenda hnames' (hperm.mem_iff.mp hc) halone m).symm
  · have hnone : ∀ cs : List Checker, (∀ c ∈ cs, c ∈ checkers) →
        ((configured cs filter overrides).agenda m).filter (·.2.name == "docstring") = [] := by
      intro cs hcs
      apply List.filter_eq_nil_iff.mpr
      intro x hx hname
      exact h ⟨x.2, hcs _ (mem_checkers_of_mem_agenda hx), by simpa using hname⟩
    rw [hnone checkers fun _ hc => hc, hnone checkers' fun _ hc => hperm.mem_iff.mpr hc]

variable (hbuiltin : ∀ c ∈ checkers, Builtin c)

include hbuiltin

/-- The order of the checkers has no part in whether a check fails. -/
theorem error_check_perm {checkers' : List Checker} (hperm : checkers.Perm checkers') :
    ((configured checkers filter overrides).check file m lib).error =
      ((configured checkers' filter overrides).check file m lib).error := by
  have hbuiltin' : ∀ c ∈ checkers', Builtin c := fun c hc => hbuiltin c (hperm.mem_iff.mpr hc)
  have hdue : ∀ {cs : List Checker}, (∀ c ∈ cs, Builtin c) →
      ∀ x ∈ (configured cs filter overrides).agenda m, Builtin x.2 :=
    fun hcs x hx => hcs x.2 (mem_checkers_of_mem_agenda hx)
  rw [check_eq_untilFailed, check_eq_untilFailed]
  have hleft := error_callAll file m (scan m.source)
    ((configured checkers filter overrides).agenda m) (hdue hbuiltin)
    (p := (configured checkers filter overrides).start file (scan m.source) lib)
    (q := (configured checkers filter overrides).start file (scan m.source) lib) rfl rfl rfl
  have hright := error_callAll file m (scan m.source)
    ((configured checkers' filter overrides).agenda m) (hdue hbuiltin')
    (p := (configured checkers' filter overrides).start file (scan m.source) lib)
    (q := (configured checkers filter overrides).start file (scan m.source) lib) rfl rfl rfl
  rw [filter_agenda_docstring hnames filter overrides m hperm] at hleft
  exact hleft.trans hright.symm

/-- If the check of a file does not fail, what one checker finds is what it finds alone. -/
theorem filter_check {c : Checker} (hc : c ∈ checkers)
    (hnone : ((configured checkers filter overrides).check file m lib).error = none) :
    ((configured checkers filter overrides).check file m lib).violations.filter
        (·.checker == c.name) =
      ((configured [c] filter overrides).check file m lib).violations := by
  have htwins := twins_start hbuiltin hnames hc filter overrides file (scan m.source) lib
  have hstart : Alongside checkers c
      ((configured checkers filter overrides).start file (scan m.source) lib)
      ((configured [c] filter overrides).start file (scan m.source) lib) :=
    ⟨htwins, rfl, fun _ _ => Iff.rfl, fun _ => rfl⟩
  have hrun := hstart.run file m (scan m.source) hbuiltin hnames hc
    ((configured checkers filter overrides).agenda m) fun x hx => mem_checkers_of_mem_agenda hx
  have halone : (configured [c] filter overrides).checkers = [c] := rfl
  rw [filter_agenda hnames hc halone m] at hrun
  rw [check_eq_untilFailed] at hnone ⊢
  rw [check_eq_untilFailed]
  exact hrun.2 (.inl hnone)

variable {filter overrides file m lib} {v : Violation}

theorem exists_message_of_mem_check
    (h : v ∈ ((configured checkers filter overrides).check file m lib).violations) :
    v.location.file = file.shownAs ∧
      ∃ c ∈ checkers, v.checker = c.name ∧ ∃ msg ∈ c.messages, v.code = msg.code := by
  obtain ⟨c, -, -, msg, e, hc, -, -, -, hmsg, -, -, rfl⟩ :=
    exists_violationOf_of_mem_check hbuiltin hnames rfl h
  exact ⟨rfl, c, hc, rfl, msg, hmsg, rfl⟩

/-- The violations of a file that tie are those of one checker. -/
theorem tiedWith_check {c : Checker} (hc : c ∈ checkers)
    (hnone : ((configured checkers filter overrides).check file m lib).error = none)
    {msg : MessageDef} (hmsg : msg ∈ c.messages) (hcode : v.code = msg.code) :
    tiedWith Violation.order v
        ((configured checkers filter overrides).check file m lib).violations =
      tiedWith Violation.order v
        ((configured [c] filter overrides).check file m lib).violations := by
  rw [← filter_check hnames filter overrides file m lib hbuiltin hc hnone, tiedWith, tiedWith,
    List.filter_filter]
  apply List.filter_congr
  intro w hw
  obtain ⟨-, d, hd, hchecker, msg', hmsg', hcode'⟩ :=
    exists_message_of_mem_check hnames hbuiltin hw
  cases htie : Violation.order v w with
  | lt | gt => rfl
  | eq =>
      have hsame : msg'.code = msg.code := by
        rw [← hcode', ← hcode, Violation.code_eq_of_tie htie]
      simp [hchecker, (hbuiltin d hd).name_eq_of_code (hbuiltin c hc) hmsg' hmsg hsame]

/-- The violations of a file that tie are found in the same order, whatever the order of the
checkers. -/
theorem tiedWith_check_perm {checkers' : List Checker} (hperm : checkers.Perm checkers')
    (hnone : ((configured checkers filter overrides).check file m lib).error = none)
    (v : Violation) :
    tiedWith Violation.order v
        ((configured checkers filter overrides).check file m lib).violations =
      tiedWith Violation.order v
        ((configured checkers' filter overrides).check file m lib).violations := by
  have hnames' := (hperm.map Checker.name).nodup_iff.mp hnames
  have hbuiltin' : ∀ c ∈ checkers', Builtin c := fun c hc => hbuiltin c (hperm.mem_iff.mpr hc)
  have hnone' := (error_check_perm hnames filter overrides file m lib hbuiltin hperm).symm.trans
    hnone
  by_cases h : ∃ c ∈ checkers, ∃ msg ∈ c.messages, v.code = msg.code
  · obtain ⟨c, hc, msg, hmsg, hcode⟩ := h
    rw [tiedWith_check hnames hbuiltin hc hnone hmsg hcode,
      tiedWith_check hnames' hbuiltin' (hperm.mem_iff.mp hc) hnone' hmsg hcode]
  · -- No checker has a message of this code, so nothing ties on either side.
    have hempty : ∀ {cs : List Checker}, (cs.map Checker.name).Nodup → (∀ c ∈ cs, Builtin c) →
        (∀ c ∈ cs, c ∈ checkers) → tiedWith Violation.order v
          ((configured cs filter overrides).check file m lib).violations = [] := by
      intro cs hcsNames hcsBuiltin hcs
      apply List.eq_nil_iff_forall_not_mem.mpr
      intro w hw
      obtain ⟨hmem, htie⟩ := mem_tiedWith.mp hw
      obtain ⟨-, c, hc, -, msg, hmsg, hcode⟩ :=
        exists_message_of_mem_check hcsNames hcsBuiltin hmem
      exact h ⟨c, hcs c hc, msg, hmsg, (Violation.code_eq_of_tie htie).trans hcode⟩
    rw [hempty hnames hbuiltin fun _ hc => hc,
      hempty hnames' hbuiltin' fun _ hc => hperm.mem_iff.mpr hc]

/-- A violation ties with none in one of two files that are shown under different paths. -/
theorem tiedWith_check_eq_nil {f g : SourceFile × Module}
    (h : ¬ f.1.shownAs.same g.1.shownAs) (v : Violation) :
    tiedWith Violation.order v
        ((configured checkers filter overrides).check f.1 f.2 lib).violations = [] ∨
      tiedWith Violation.order v
        ((configured checkers filter overrides).check g.1 g.2 lib).violations = [] := by
  have hfile : ∀ {k : SourceFile × Module} {w : Violation}, w ∈ tiedWith Violation.order v
      ((configured checkers filter overrides).check k.1 k.2 lib).violations →
        v.location.file.components = k.1.shownAs.components := by
    intro k w hw
    obtain ⟨hmem, htie⟩ := mem_tiedWith.mp hw
    rw [← (exists_message_of_mem_check hnames hbuiltin hmem).1]
    exact beq_iff_eq.mp (Violation.same_file_of_tie htie)
  by_contra hboth
  obtain ⟨hf, hg⟩ := not_or.mp hboth
  obtain ⟨w, hw⟩ := List.exists_mem_of_ne_nil _ hf
  obtain ⟨w', hw'⟩ := List.exists_mem_of_ne_nil _ hg
  exact h (beq_iff_eq.mpr ((hfile hw).symm.trans (hfile hw')))

end OneFile

/-! ## Several files -/

theorem flatMap_eq_of_perm {α β : Type} {f : α → List β} {l l' : List α} (h : l.Perm l')
    (hlone : l.Pairwise fun a b => f a = [] ∨ f b = []) : l.flatMap f = l'.flatMap f := by
  induction h with
  | nil => rfl
  | cons a _ ih => rw [List.flatMap_cons, List.flatMap_cons, ih (List.pairwise_cons.mp hlone).2]
  | swap a b l =>
      rcases (List.pairwise_cons.mp hlone).1 a List.mem_cons_self with hb | ha
      · simp [hb]
      · simp [ha]
  | trans h _ ih ih' =>
      rw [ih hlone, ih' ((h.pairwise_iff fun hab => hab.symm).mp hlone)]

/-- What is found in several files, each with its module, by the help of one library. -/
def checkAll (linter : Linter) (lib : Library) (files : List (SourceFile × Module)) :
    List Violation :=
  files.flatMap fun f => (linter.check f.1 f.2 lib).violations

theorem tiedWith_checkAll (linter : Linter) (lib : Library) (files : List (SourceFile × Module))
    (v : Violation) :
    tiedWith Violation.order v (linter.checkAll lib files) =
      files.flatMap fun f =>
        tiedWith Violation.order v (linter.check f.1 f.2 lib).violations := by
  rw [tiedWith, checkAll, List.filter_flatMap]
  rfl

/-- The report on files that are shown under different paths does not depend on the order of the
built-in checkers nor on the order of the files, if no check fails. It holds what was found, by
file, line, code and column, and sorting it again changes nothing. -/
theorem sort_checkAll_orderFree (checkers checkers' : List Checker)
    (hbuiltin : ∀ c ∈ checkers, Builtin c) (hnames : (checkers.map Checker.name).Nodup)
    (hcheckers : checkers.Perm checkers') (filter : MessageFilter)
    (overrides : List (String × Severity)) (lib : Library)
    (files files' : List (SourceFile × Module)) (hfiles : files.Perm files')
    (hpaths : files.Pairwise fun f g => ¬ f.1.shownAs.same g.1.shownAs) :
    ∃ linter linter',
      build checkers (fun catalog => .ofFilter catalog filter overrides) = .ok linter ∧
      build checkers' (fun catalog => .ofFilter catalog filter overrides) = .ok linter' ∧
      ((∀ f ∈ files, (linter.check f.1 f.2 lib).error = none) →
        Violation.sort (linter.checkAll lib files) =
          Violation.sort (linter'.checkAll lib files')) ∧
      (Violation.sort (linter.checkAll lib files)).Perm (linter.checkAll lib files) ∧
      (Violation.sort (linter.checkAll lib files)).Pairwise Violation.NotAfter ∧
      Violation.sort (Violation.sort (linter.checkAll lib files)) =
        Violation.sort (linter.checkAll lib files) := by
  have hnames' := (hcheckers.map Checker.name).nodup_iff.mp hnames
  have hbuiltin' : ∀ c ∈ checkers', Builtin c := fun c hc => hbuiltin c (hcheckers.mem_iff.mpr hc)
  refine ⟨_, _, build_eq_configured (unambiguous_entriesFor hbuiltin hnames) filter overrides,
    build_eq_configured (unambiguous_entriesFor hbuiltin' hnames') filter overrides, ?_,
    List.mergeSort_perm .., ?_, List.mergeSort_of_pairwise (Violation.pairwise_isLE_sort _)⟩
  · intro hnone
    apply Violation.sort_eq_of_tiedWith_eq
    intro v
    rw [tiedWith_checkAll, tiedWith_checkAll]
    calc files.flatMap _
        = files.flatMap fun f => tiedWith Violation.order v
            ((configured checkers' filter overrides).check f.1 f.2 lib).violations :=
          List.flatMap_congr fun f hf => tiedWith_check_perm hnames hbuiltin hcheckers (hnone f hf) v
      _ = files'.flatMap _ := by
          apply flatMap_eq_of_perm hfiles
          exact hpaths.imp fun hne => tiedWith_check_eq_nil hnames' hbuiltin' hne v
  · exact (Violation.pairwise_isLE_sort _).imp Violation.isLE_order_iff.mp

/-- A function whose docstring describes none of its two parameters, and a print statement. -/
def undescribed (name : String) : SourceFile × Module :=
  let path := Path.ofString (name ++ ".py")
  let doc : Docstring := ⟨[], "\n    Run.\n    ".toList, ⟨2, 4⟩⟩
  (⟨path, [], name, path⟩,
    ⟨name, path, [], false,
      #[⟨.root none, ⟨1, 0⟩, none, [1, 2]⟩,
        ⟨.functionDef ⟨"run", [⟨"x", .regular⟩, ⟨"y", .regular⟩], [], some doc, false⟩, ⟨1, 0⟩,
          some 0, []⟩,
        ⟨.print, ⟨5, 0⟩, some 0, []⟩]⟩)

theorem sort_checkAll_orderFree_undescribed :
    let checkers := [DocstringRule.checker .default, Python3.checker]
    let files := [undescribed "b", undescribed "a"]
    (∀ c ∈ checkers, Builtin c) ∧ (checkers.map Checker.name).Nodup ∧
      checkers.Perm checkers.reverse ∧ files.Perm files.reverse ∧
      (files.Pairwise fun f g => ¬ f.1.shownAs.same g.1.shownAs) ∧
      (∀ f ∈ files, ((configured checkers .none []).check f.1 f.2 default).error = none) ∧
      Violation.sort ((configured checkers .none []).checkAll default files) =
        Violation.sort ((configured checkers.reverse .none []).checkAll default files.reverse) := by
  intro checkers files
  have hbuiltin : ∀ c ∈ checkers, Builtin c := by
    simp only [checkers, List.forall_mem_cons, List.not_mem_nil, false_implies, implies_true,
      and_true]
    exact ⟨.docstring _, .python3⟩
  have hnames : (checkers.map Checker.name).Nodup := by decide
  have hcheckers := (List.reverse_perm checkers).symm
  have hfiles := (List.reverse_perm files).symm
  have hpaths : files.Pairwise fun f g => ¬ f.1.shownAs.same g.1.shownAs := by decide +kernel
  have hnone : ∀ f ∈ files,
      ((configured checkers .none []).check f.1 f.2 default).error = none := by decide +kernel
  obtain ⟨linter, linter', hlinter, hlinter', hsame, _⟩ := sort_checkAll_orderFree checkers _
    hbuiltin hnames hcheckers .none [] default files _ hfiles hpaths
  rw [build_eq_configured (unambiguous_entriesFor hbuiltin hnames)] at hlinter
  rw [build_eq_configured (unambiguous_entriesFor
    (fun c hc => hbuiltin c (hcheckers.mem_iff.mpr hc))
    ((hcheckers.map Checker.name).nodup_iff.mp hnames))] at hlinter'
  obtain rfl := Except.ok.inj hlinter
  obtain rfl := Except.ok.inj hlinter'
  exact ⟨hbuiltin, hnames, hcheckers, hfiles, hpaths, hnone, hsame hnone⟩

end Linter

end CodingStandard
