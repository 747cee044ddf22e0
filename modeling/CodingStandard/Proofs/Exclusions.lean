import CodingStandard.Discovery
import CodingStandard.Proofs.PathSteps
import Mathlib.Data.List.Infix

namespace CodingStandard

/-!
# Exclusions and the place of a project

An exclusion is tried on a path as it is written and as seen from the base directory. So what leaves
a file out is a pattern that covers the file as seen from the base, wherever the base lies, or a
pattern that reaches into the base itself.
-/

namespace Path

variable {start : Nat} {t : Text} {dir other path : Path}

/-! ## Paths as seen from a directory -/

/-- The dots that a relative path starts with. -/
def dots : Text → Text
  | '.' :: '/' :: t => '.' :: '/' :: dots t
  | '/' :: t => '/' :: dots t
  | _ => []

def dropDots (t : Text) : Text := t.drop (dots t).length

/-- A relative path as it is seen from the directory that it is joined to. -/
def withoutDots (path : Path) : Path := ⟨dropDots path.text⟩

theorem dots_append_dropDots (t : Text) : dots t ++ dropDots t = t := by
  rw [dropDots]
  fun_induction dots t with
  | case1 t ih => simpa using ih
  | case2 t ih => simpa using ih
  | case3 t => rfl

theorem slash_suffix_append_dots {front : Text} (h : ['/'] <:+ front) (t : Text) :
    ['/'] <:+ front ++ dots t := by
  fun_induction dots t generalizing front with
  | case1 t ih =>
      have hfront : ['/'] <:+ front ++ ['.', '/'] := ⟨front ++ ['.'], by simp⟩
      simpa using ih hfront
  | case2 t ih =>
      have hfront : ['/'] <:+ front ++ ['/'] := List.suffix_append _ _
      simpa using ih hfront
  | case3 t => simpa using h

/-- Dots in front of a path are no steps of it, once something stands in front of them. -/
theorem stepsIn_dropDots (hstart : 0 < start) (t : Text) :
    stepsIn start t = stepsIn (start + (dots t).length) (dropDots t) := by
  rw [dropDots]
  fun_induction dots t generalizing start with
  | case1 t ih =>
      have hdot : stepsIn start ['.'] = [] := by
        rw [stepsIn_of_notMem (by decide), step?, if_neg (by decide), if_pos rfl,
          if_neg (by omega), Option.toList_none]
      have hsteps : stepsIn start ('.' :: '/' :: t) = stepsIn (start + 2) t :=
        (stepsIn_append start ['.'] t).trans (by rw [hdot]; rfl)
      rw [hsteps, ih (by omega), List.length_cons, List.length_cons, Nat.add_assoc,
        Nat.add_comm 2]
      rfl
  | case2 t ih =>
      have hsteps : stepsIn start ('/' :: t) = stepsIn (start + 1) t := stepsIn_append start [] t
      rw [hsteps, ih (by omega), List.length_cons, Nat.add_assoc, Nat.add_comm 1]
      rfl
  | case3 t => rfl

theorem endsAsDirectory_slash (s t : Text) :
    (Path.mk (s ++ '/' :: t)).endsAsDirectory = (Path.mk t).endsAsDirectory := by
  cases hlast : (List.splitOn '/' t).getLast? with
  | none => exact absurd (List.getLast?_eq_none_iff.mp hlast) (List.splitOn_ne_nil '/' t)
  | some last =>
      simp only [endsAsDirectory, Text.splitOn_eq, List.splitOn_append_cons_self,
        List.getLast?_append, hlast, Option.some_or]

/-- Without the dots in front of it, the path of a file starts with a step. -/
theorem exists_splitOn_dropDots (hfile : (Path.mk t).endsAsDirectory = false) :
    ∃ part parts, Text.splitOn '/' (dropDots t) = part :: parts ∧ part ≠ [] ∧ part ≠ ['.'] := by
  rw [dropDots]
  fun_induction dots t with
  | case1 t ih => exact ih ((endsAsDirectory_slash ['.'] t).symm.trans hfile)
  | case2 t ih => exact ih ((endsAsDirectory_slash [] t).symm.trans hfile)
  | case3 t hdot hslash =>
      rw [List.length_nil, List.drop_zero]
      cases t with
      | nil => cases hfile
      | cons c t =>
          have hc : c ≠ '/' := fun h => hslash t (by rw [h])
          rw [Text.splitOn, if_neg hc]
          cases hparts : Text.splitOn '/' t with
          | nil => simp [Text.splitOn_eq] at hparts
          | cons part parts =>
              refine ⟨c :: part, parts, rfl, List.cons_ne_nil _ _, fun hfirst => ?_⟩
              obtain ⟨rfl, rfl⟩ := List.cons.inj hfirst
              cases t with
              | nil => cases hfile
              | cons d t =>
                  have hd : d ≠ '/' := fun h => hdot t (by rw [h])
                  rw [Text.splitOn, if_neg hd] at hparts
                  split at hparts <;> cases hparts

/-- The path of a file ends with a step. -/
theorem exists_getLast?_stepsIn (hfile : (Path.mk t).endsAsDirectory = false) (start : Nat) :
    ∃ last, (stepsIn start t).getLast? = some last ∧ last.stop = start + t.length := by
  have hplain : ∀ start t, '/' ∉ t → (Path.mk t).endsAsDirectory = false →
      ∃ last, (stepsIn start t).getLast? = some last ∧ last.stop = start + t.length := by
    intro start t ht hfile
    rw [endsAsDirectory, Text.splitOn_eq, List.splitOn_eq_singleton ht] at hfile
    simp only [List.getLast?_singleton, Bool.or_eq_false_iff, decide_eq_false_iff_not] at hfile
    rw [stepsIn_of_notMem ht]
    by_cases hdots : t = ['.', '.'] <;> simp [step?, hfile, hdots]
  induction t using Text.lastSlash_induction with
  | plain t ht => exact hplain start t ht hfile
  | slash s t ht =>
      rw [endsAsDirectory_slash] at hfile
      obtain ⟨last, hlast, hstop⟩ := hplain (start + (s.length + 1)) t ht hfile
      refine ⟨last, by rw [stepsIn_append, List.getLast?_append, hlast, Option.some_or], ?_⟩
      rw [hstop, List.length_append, List.length_cons]
      omega

theorem length_lead_pos (h : dir.text ≠ []) : 0 < dir.lead.length := by
  obtain ⟨front, hlead, -⟩ := exists_lead h
  simp [hlead]

theorem isAbsolute_dropDots (hfile : (Path.mk t).endsAsDirectory = false) :
    (Path.mk (dropDots t)).isAbsolute = false := by
  obtain ⟨part, parts, hsplit, hne, -⟩ := exists_splitOn_dropDots hfile
  rw [isAbsolute, beq_eq_false_iff_ne]
  intro hslash
  obtain ⟨rest, hrest⟩ := List.head?_eq_some_iff.mp hslash
  rw [show dropDots t = '/' :: rest from hrest, Text.splitOn, if_pos rfl] at hsplit
  exact hne (List.cons.inj hsplit).1.symm

theorem exists_stepsIn_dropDots (hfile : (Path.mk t).endsAsDirectory = false) (start : Nat) :
    ∃ first rest, stepsIn start (dropDots t) = first :: rest ∧ first.start = start := by
  obtain ⟨part, parts, hsplit, hne, hdot⟩ := exists_splitOn_dropDots hfile
  obtain ⟨first, hfirst⟩ : ∃ first, step? start part = some first := by
    by_cases hdots : part = ['.', '.'] <;> simp [step?, hne, hdot, hdots]
  exact ⟨first, _, by rw [stepsIn, hsplit, stepsFrom, hfirst]; rfl, (step?_eq_some hfirst).1⟩

theorem stepsAfter?_append (steps more : List Step) :
    stepsAfter? (steps.map (·.component)) (steps ++ more) = some more := by
  induction steps with
  | nil => rfl
  | cons step steps ih => rw [List.map_cons, List.cons_append, stepsAfter?, if_pos rfl, ih]

/-- A file in a directory, seen from the directory. -/
theorem relativeTo_join (h : dir.text ≠ []) (hother : other.isAbsolute = false)
    (hfile : other.endsAsDirectory = false) :
    (dir.join other).relativeTo dir = other.withoutDots := by
  obtain ⟨last, hlast, hstop⟩ := exists_getLast?_stepsIn hfile dir.lead.length
  obtain ⟨first, rest, hown, hfirst⟩ :=
    exists_stepsIn_dropDots hfile (dir.lead.length + (dots other.text).length)
  rw [stepsIn_dropDots (length_lead_pos h), hown] at hlast
  have hsteps : (dir.join other).steps = dir.steps ++ first :: rest := by
    rw [steps_join dir hother, stepsIn_dropDots (length_lead_pos h), hown]
  rw [relativeTo, relativeTo?, components, hsteps, stepsAfter?_append]
  simp only [hlast, Option.map_some, Option.getD_some, hstop, hfirst, join_eq hother]
  rw [List.take_of_length_le (List.length_append ▸ Nat.le_refl _), List.drop_length_add_append,
    withoutDots, dropDots]

theorem component_step?_congr {a b : Nat} {part : Text} (h : part = ['.'] → 0 < a ∧ 0 < b) :
    (step? a part).toList.map (·.component) = (step? b part).toList.map (·.component) := by
  by_cases hdot : part = ['.']
  · obtain ⟨ha, hb⟩ := h hdot
    simp [step?, hdot, Nat.ne_of_gt ha, Nat.ne_of_gt hb]
  · by_cases hnil : part = [] <;> by_cases hdots : part = ['.', '.'] <;>
      simp [step?, hdot, hnil, hdots]

theorem components_stepsFrom {a b : Nat} (ha : 0 < a) (hb : 0 < b) (parts : List Text) :
    (stepsFrom a parts).map (·.component) = (stepsFrom b parts).map (·.component) := by
  induction parts generalizing a b with
  | nil => rfl
  | cons part parts ih =>
      rw [stepsFrom, stepsFrom, List.map_append, List.map_append,
        component_step?_congr fun _ => ⟨ha, hb⟩, ih (Nat.succ_pos _) (Nat.succ_pos _)]

/-- The components of a file in a directory are those of the directory and those of the file as seen
from there. -/
theorem components_join (h : dir.text ≠ []) (hother : other.isAbsolute = false)
    (hfile : other.endsAsDirectory = false) :
    (dir.join other).components = dir.components ++ other.withoutDots.components := by
  obtain ⟨part, parts, hsplit, -, hdot⟩ := exists_splitOn_dropDots hfile
  rw [components, steps_join dir hother, List.map_append, stepsIn_dropDots (length_lead_pos h),
    components, components, withoutDots, steps_of_relative (isAbsolute_dropDots hfile), stepsIn,
    stepsIn, hsplit, stepsFrom, stepsFrom, List.map_append, List.map_append,
    component_step?_congr fun h => absurd h hdot,
    components_stepsFrom (Nat.succ_pos _) (Nat.succ_pos _)]

end Path

namespace Glob

variable {outside own t : Text} {tokens : List GlobToken} {p : Text → Bool}

/-! ## Patterns on a text with something in front -/

theorem someEnd_crossing_iff : someEnd true p t = true ↔ ∃ tail, tail <:+ t ∧ p tail = true := by
  induction t with
  | nil => simp [someEnd, List.suffix_nil]
  | cons c t ih => simp [someEnd, ih, List.suffix_cons_iff, or_and_right, exists_or]

theorem someEndAfterSlash_iff :
    someEndAfterSlash p t = true ↔ ∃ tail, '/' :: tail <:+ t ∧ p tail = true := by
  induction t with
  | nil => simp [someEndAfterSlash]
  | cons c t ih =>
      rw [someEndAfterSlash, Bool.or_eq_true, Bool.and_eq_true, beq_iff_eq, ih]
      constructor
      · rintro (⟨rfl, hp⟩ | ⟨tail, htail, hp⟩)
        · exact ⟨t, List.suffix_refl _, hp⟩
        · exact ⟨tail, htail.trans (List.suffix_cons _ _), hp⟩
      · rintro ⟨tail, htail, hp⟩
        rcases List.suffix_cons_iff.mp htail with heq | htail
        · obtain ⟨rfl, rfl⟩ := List.cons.inj heq
          exact .inl ⟨rfl, hp⟩
        · exact .inr ⟨tail, htail, hp⟩

theorem suffix_append_iff {s front back : Text} : s <:+ front ++ back ↔
    s <:+ back ∨ ∃ tail, tail <:+ front ∧ tail ≠ [] ∧ s = tail ++ back := by
  constructor
  · rintro ⟨lead, hlead⟩
    rcases List.append_eq_append_iff.mp hlead with ⟨tail, hfront, hs⟩ | ⟨mid, -, hback⟩
    · by_cases hempty : tail = []
      · exact .inl (by simp [hs, hempty])
      · exact .inr ⟨tail, ⟨lead, hfront.symm⟩, hempty, hs⟩
    · exact .inl ⟨mid, hback.symm⟩
  · rintro (hback | ⟨tail, htail, -, rfl⟩)
    · exact hback.trans (List.suffix_append _ _)
    · exact List.suffix_append_self_iff.mpr htail

/-- A pattern matches a text with something in front of it, and does so otherwise than by a star
that stands for all that is in front. -/
def Reaches (outside own : Text) : List GlobToken → Prop
  | .anyText :: tokens =>
    ∃ back ∈ outside.tails, back ≠ [] ∧ tokensMatch true tokens (back ++ own) = true
  | .anyDirectories :: tokens =>
    ∃ back ∈ outside.tails, back ≠ [] ∧ (back = outside ∨ '/' :: back ∈ outside.tails) ∧
      tokensMatch true tokens (back ++ own) = true
  | tokens => tokensMatch true tokens (outside ++ own) = true

instance : ∀ tokens, Decidable (Reaches outside own tokens)
  | .anyText :: _ => inferInstanceAs (Decidable (∃ back ∈ outside.tails, _ ∧ _))
  | .anyDirectories :: _ => inferInstanceAs (Decidable (∃ back ∈ outside.tails, _ ∧ _ ∧ _))
  | [] | .char _ :: _ | .anyChar :: _ | .oneOf _ :: _ | .noneOf _ :: _ =>
    inferInstanceAs (Decidable (_ = true))

theorem Reaches.tokensMatch_append (h : Reaches outside own tokens) :
    tokensMatch true tokens (outside ++ own) = true := by
  unfold Reaches at h
  split at h
  next rest =>
    obtain ⟨back, hback, -, hmatch⟩ := h
    rw [tokensMatch, someEnd_crossing_iff]
    exact ⟨back ++ own, List.suffix_append_self_iff.mpr ((List.mem_tails _ _).mp hback), hmatch⟩
  next rest =>
    obtain ⟨back, -, -, hstart, hmatch⟩ := h
    rw [tokensMatch, Bool.or_eq_true, Bool.or_eq_true, someEndAfterSlash_iff]
    rcases hstart with rfl | hslash
    · exact .inl (.inl hmatch)
    · exact .inl (.inr ⟨back ++ own,
        List.suffix_append_self_iff.mpr ((List.mem_tails _ _).mp hslash), hmatch⟩)
  next => exact h

/-- A pattern that matches behind a slash matches what is there by itself, or it reaches further. -/
theorem tokensMatch_or_reaches (houtside : ['/'] <:+ outside)
    (h : tokensMatch true tokens (outside ++ own) = true) :
    tokensMatch true tokens own = true ∨ Reaches outside own tokens := by
  unfold Reaches
  split
  next rest =>
    rw [tokensMatch, someEnd_crossing_iff] at h ⊢
    obtain ⟨tail, htail, hmatch⟩ := h
    rcases suffix_append_iff.mp htail with hown | ⟨back, hback, hne, rfl⟩
    · exact .inl ⟨tail, hown, hmatch⟩
    · exact .inr ⟨back, (List.mem_tails _ _).mpr hback, hne, hmatch⟩
  next rest =>
    rw [tokensMatch, Bool.or_eq_true, Bool.or_eq_true, someEndAfterSlash_iff] at h ⊢
    rcases h with (hwhole | ⟨tail, htail, hmatch⟩) | hend
    · have hne : outside ≠ [] := fun hempty => by simp [hempty] at houtside
      exact .inr ⟨outside, (List.mem_tails _ _).mpr (List.suffix_refl _), hne, .inl rfl, hwhole⟩
    · rcases suffix_append_iff.mp htail with hown | ⟨back, hback, hne, heq⟩
      · exact .inl (.inl (.inr ⟨tail, hown, hmatch⟩))
      · obtain ⟨c, back, rfl⟩ := List.exists_cons_of_ne_nil hne
        obtain ⟨rfl, rfl⟩ := List.cons.inj heq
        by_cases hempty : back = []
        · exact .inl (.inl (.inl (by simpa [hempty] using hmatch)))
        · exact .inr ⟨back, (List.mem_tails _ _).mpr ((List.suffix_cons _ _).trans hback), hempty,
            .inr ((List.mem_tails _ _).mpr hback), hmatch⟩
    · exact .inl (.inr hend)
  next => exact .inr h

theorem not_reaches_of_char {c d : Char} (h : outside.head? = some d) (hne : d ≠ c) :
    ¬ Reaches outside own (.char c :: tokens) := by
  obtain ⟨outside, rfl⟩ := List.head?_eq_some_iff.mp h
  simp [Reaches, tokensMatch, hne]

end Glob

namespace Exclusion

variable {e : Exclusion} {exclusions : List Exclusion} {base file : Path}

/-! ## Exclusions of files in a base directory -/

/-- What stands in front of a file in a base directory. -/
def outsideOf (base file : Path) : Text := base.lead ++ Path.dots file.text

/-- A pattern leaves a file out because of the base directory: by a component of the directory, or
by a match that takes up some of the path of the directory. -/
def ReachesInto (e : Exclusion) (base file : Path) : Prop :=
  (∃ c ∈ base.components, some c.text = e.component) ∨
    Glob.Reaches (outsideOf base file) file.withoutDots.text e.glob.tokens

instance : Decidable (e.ReachesInto base file) := inferInstanceAs (Decidable (_ ∨ _))

theorem covers_iff {path : Path} : e.covers path = true ↔
    e.glob.isMatch path.text = true ∨ ∃ c ∈ path.components, some c.text = e.component := by
  rw [covers, Bool.or_eq_true]
  cases e.component <;> simp

theorem text_join (hrelative : file.isAbsolute = false) :
    (base.join file).text = outsideOf base file ++ file.withoutDots.text := by
  rw [Path.join_eq hrelative, outsideOf, Path.withoutDots, List.append_assoc,
    Path.dots_append_dropDots]

theorem slash_suffix_outsideOf (h : base.text ≠ []) : ['/'] <:+ outsideOf base file := by
  obtain ⟨front, hlead, -⟩ := Path.exists_lead h
  exact Path.slash_suffix_append_dots ⟨front, hlead.symm⟩ _

/-- A pattern that starts with a character other than a slash reaches into a base directory only as
a component of it. -/
theorem reachesInto_iff_of_char {c : Char} (hbase : base.isAbsolute = true) (hc : c ≠ '/')
    (h : e.glob.tokens.head? = some (.char c)) :
    e.ReachesInto base file ↔ ∃ c ∈ base.components, some c.text = e.component := by
  obtain ⟨tokens, htokens⟩ := List.head?_eq_some_iff.mp h
  obtain ⟨rest, hrest⟩ := List.head?_eq_some_iff.mp (beq_iff_eq.mp hbase)
  have hslash : (outsideOf base file).head? = some '/' := by
    rw [outsideOf, Path.lead]
    split <;> simp [hrest]
  rw [ReachesInto, htokens, or_iff_left (Glob.not_reaches_of_char hslash hc.symm)]

theorem covers_join_iff (hbase : base.isAbsolute = true) (hrelative : file.isAbsolute = false)
    (hfile : file.endsAsDirectory = false) :
    (e.covers (base.join file) = true ∨ e.covers ((base.join file).relativeTo base) = true) ↔
      e.covers file.withoutDots = true ∨ e.ReachesInto base file := by
  have hne := Path.text_ne_nil hbase
  have hcomponents : (∃ c ∈ (base.join file).components, some c.text = e.component) ↔
      (∃ c ∈ file.withoutDots.components, some c.text = e.component) ∨
        ∃ c ∈ base.components, some c.text = e.component := by
    rw [Path.components_join hne hrelative hfile, or_comm]
    simp only [List.mem_append, or_and_right, exists_or]
  have hglob : e.glob.isMatch (base.join file).text = true ∨
      e.glob.isMatch file.withoutDots.text = true ↔ e.glob.isMatch file.withoutDots.text = true ∨
        Glob.Reaches (outsideOf base file) file.withoutDots.text e.glob.tokens := by
    rw [text_join hrelative]
    exact ⟨fun h => h.elim (Glob.tokensMatch_or_reaches (slash_suffix_outsideOf hne)) .inl,
      fun h => h.elim .inr fun hreaches => .inl hreaches.tokensMatch_append⟩
  rw [Path.relativeTo_join hne hrelative hfile, covers_iff, covers_iff, ReachesInto, hcomponents]
  grind

theorem excludes_join_iff (hbase : base.isAbsolute = true) (hrelative : file.isAbsolute = false)
    (hfile : file.endsAsDirectory = false) :
    excludes exclusions base (base.join file) = true ↔
      (∃ e ∈ exclusions, e.covers file.withoutDots = true) ∨
        ∃ e ∈ exclusions, e.ReachesInto base file := by
  simp only [excludes, List.any_eq_true, Bool.or_eq_true, covers_join_iff hbase hrelative hfile,
    and_or_left, exists_or]

/-- Two places of a project agree on a file exactly if the file is left out by itself, or if
patterns reach into both places or into none. -/
theorem excludes_moved_iff {base' : Path} (hbase : base.isAbsolute = true)
    (hbase' : base'.isAbsolute = true) (hrelative : file.isAbsolute = false)
    (hfile : file.endsAsDirectory = false) :
    excludes exclusions base (base.join file) = excludes exclusions base' (base'.join file) ↔
      (∃ e ∈ exclusions, e.covers file.withoutDots = true) ∨
        ((∃ e ∈ exclusions, e.ReachesInto base file) ↔
          ∃ e ∈ exclusions, e.ReachesInto base' file) := by
  rw [Bool.eq_iff_iff, excludes_join_iff hbase hrelative hfile,
    excludes_join_iff hbase' hrelative hfile]
  by_cases hcovers : ∃ e ∈ exclusions, e.covers file.withoutDots = true <;> simp only [hcovers,
    true_or, false_or]

/-- Everything in directories called `build`. -/
def buildDirectories : Exclusion where
  glob := ⟨[.anyDirectories, .char 'b', .char 'u', .char 'i', .char 'l', .char 'd', .char '/',
    .anyDirectories]⟩
  component := some "build".toList

theorem excludes_moved_build :
    let verdict := fun base =>
      excludes [buildDirectories] base (base.join (.ofString "pkg/m.py"))
    verdict (.ofString "/src") = verdict (.ofString "/home/builder") ∧
      verdict (.ofString "/src") ≠ verdict (.ofString "/home/build") := by
  intro verdict
  refine ⟨(excludes_moved_iff (by decide) (by decide) (by decide) (by decide)).mpr (by decide),
    fun h => ?_⟩
  exact absurd ((excludes_moved_iff (by decide) (by decide) (by decide) (by decide)).mp h)
    (by decide)

/-- A directory above a project decides about its files. -/
theorem excludes_inBuild :
    let verdict := fun base => excludes [buildDirectories] base (base.join (.ofString "m.py"))
    Exclusion.parse "**/build/**" = .ok buildDirectories ∧
      verdict (.ofString "/build") = true ∧ verdict (.ofString "/src") = false := by
  exact ⟨rfl, by decide, by decide⟩

end Exclusion

end CodingStandard
