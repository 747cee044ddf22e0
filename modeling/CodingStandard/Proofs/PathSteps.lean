import CodingStandard.ModuleName
import CodingStandard.Proofs.DottedName

namespace CodingStandard

/-!
# The steps of a path

A slash divides the steps of a path into those in front of it and those behind it. So the steps of a
path in a directory are those of the directory and then its own, the path around a path has all its
steps but the last, and a name put behind a directory is one step more.
-/

namespace Text

/-- A text without slashes, or one that a slash divides from a text without slashes. -/
theorem lastSlash_induction {motive : Text → Prop} (plain : ∀ t, '/' ∉ t → motive t)
    (slash : ∀ s t, '/' ∉ t → motive s → motive (s ++ '/' :: t)) (t : Text) : motive t := by
  cases hlast : splitLast? '/' t with
  | none => exact plain t (splitLast?_eq_none_iff.mp hlast)
  | some parts =>
      obtain ⟨rfl, hback⟩ := eq_append_of_splitLast? hlast
      exact slash _ _ hback (lastSlash_induction plain slash parts.1)
termination_by t.length
decreasing_by simp_all

end Text

namespace Path

variable {start k : Nat} {t part name : Text} {parts before after : List Text} {step last : Step}
  {dir other path : Path}

/-- A part between two slashes that is a name. -/
structure IsName (part : Text) : Prop where
  ne_nil : part ≠ []
  ne_dot : part ≠ ['.']
  ne_dots : part ≠ ['.', '.']
  slash_notMem : '/' ∉ part

instance : Decidable (IsName part) :=
  decidable_of_iff (part ≠ [] ∧ part ≠ ['.'] ∧ part ≠ ['.', '.'] ∧ '/' ∉ part)
    ⟨fun ⟨hnil, hdot, hdots, hslash⟩ => ⟨hnil, hdot, hdots, hslash⟩,
      fun h => ⟨h.ne_nil, h.ne_dot, h.ne_dots, h.slash_notMem⟩⟩

theorem IsName.stem {stem extension : Text} (h : IsName (stem ++ '.' :: extension))
    (hne : stem ≠ []) (hdot : '.' ∉ stem) : IsName stem where
  ne_nil := hne
  ne_dot := by rintro rfl; simp at hdot
  ne_dots := by rintro rfl; simp at hdot
  slash_notMem hslash := h.slash_notMem (List.mem_append_left _ hslash)

theorem IsName.withExtension {extension : Text} (h : IsName part) (hslash : '/' ∉ extension) :
    IsName (part ++ '.' :: extension) where
  ne_nil := by simp
  ne_dot := by simp [List.append_eq_singleton_iff, h.ne_nil]
  ne_dots hdots := by
    rcases List.append_eq_cons_iff.mp hdots with ⟨hnil, -⟩ | ⟨rest, hpart, hrest⟩
    · exact h.ne_nil hnil
    · rcases List.singleton_eq_append_iff.mp hrest with ⟨rfl, -⟩ | ⟨-, hdot⟩
      · exact h.ne_dot hpart
      · cases hdot
  slash_notMem := by simp [h.slash_notMem, hslash]

/-! ## Steps of a text -/

/-- The steps of a text that stands at the start of a path or behind a slash of it. -/
def stepsIn (start : Nat) (t : Text) : List Step := stepsFrom start (Text.splitOn '/' t)

theorem stepsFrom_append (start : Nat) (front back : List Text) :
    stepsFrom start (front ++ back) = stepsFrom start front ++
      stepsFrom (start + (front.flatMap (· ++ ['/'])).length) back := by
  induction front generalizing start with
  | nil => simp [stepsFrom]
  | cons part front ih =>
      rw [List.cons_append, stepsFrom, stepsFrom, ih, List.append_assoc, List.flatMap_cons,
        List.length_append, List.length_append, List.length_singleton, Nat.add_assoc,
        Nat.add_assoc, Nat.add_assoc]

theorem flatMap_splitOn (t : Text) : (Text.splitOn '/' t).flatMap (· ++ ['/']) = t ++ ['/'] := by
  induction t with
  | nil => rfl
  | cons c t ih =>
      rw [Text.splitOn]
      split
      next hc => rw [List.flatMap_cons, ih, hc]; rfl
      next =>
        cases hparts : Text.splitOn '/' t with
        | nil => simp [hparts] at ih
        | cons part parts =>
            rw [hparts, List.flatMap_cons] at ih
            simp only [List.flatMap_cons, List.cons_append, ih]

theorem stepsIn_append (start : Nat) (s t : Text) :
    stepsIn start (s ++ '/' :: t) = stepsIn start s ++ stepsIn (start + (s.length + 1)) t := by
  rw [stepsIn, Text.splitOn_eq, List.splitOn_append_cons_self, ← Text.splitOn_eq,
    ← Text.splitOn_eq, stepsFrom_append, flatMap_splitOn, List.length_append]
  rfl

theorem stepsIn_of_notMem (h : '/' ∉ t) : stepsIn start t = (step? start t).toList := by
  rw [stepsIn, Text.splitOn_eq, List.splitOn_eq_singleton h]
  simp [stepsFrom]

theorem stepsIn_nil : stepsIn start [] = [] := rfl

theorem step?_of_isName (h : IsName part) (start : Nat) :
    step? start part = some ⟨.name part, start, start + part.length⟩ := by
  simp [step?, h.ne_nil, h.ne_dot, h.ne_dots]

theorem stepsIn_of_isName (h : IsName part) (start : Nat) :
    stepsIn start part = [⟨.name part, start, start + part.length⟩] := by
  rw [stepsIn_of_notMem h.slash_notMem, step?_of_isName h]
  rfl

theorem step?_eq_some (h : step? start part = some step) :
    step.start = start ∧ step.stop = start + part.length ∧ step.component ≠ .root ∧
      ∀ name, step.component = .name name →
        name = part ∧ part ≠ [] ∧ part ≠ ['.'] ∧ part ≠ ['.', '.'] := by
  unfold step? at h
  dsimp only at h
  split_ifs at h <;> cases h <;> simp_all

/-- Every step is that of some part. -/
theorem exists_part_of_mem_stepsFrom (h : step ∈ stepsFrom start parts) :
    ∃ part ∈ parts, ∃ start, step? start part = some step := by
  induction parts generalizing start with
  | nil => cases h
  | cons part parts ih =>
      rw [stepsFrom, List.mem_append, Option.mem_toList] at h
      rcases h with hfirst | hrest
      · exact ⟨part, List.mem_cons_self, start, hfirst⟩
      · obtain ⟨part, hpart, hstep⟩ := ih hrest
        exact ⟨part, List.mem_cons_of_mem _ hpart, hstep⟩

theorem bounds_of_mem_stepsIn (h : step ∈ stepsIn start t) :
    start ≤ step.stop ∧ step.stop ≤ start + t.length := by
  induction t using Text.lastSlash_induction generalizing start with
  | plain t ht =>
      rw [stepsIn_of_notMem ht, Option.mem_toList] at h
      have := (step?_eq_some h).2.1
      omega
  | slash s t ht ih =>
      rw [stepsIn_append, List.mem_append, stepsIn_of_notMem ht, Option.mem_toList] at h
      rw [List.length_append, List.length_cons]
      rcases h with hfront | hback
      · have := ih hfront
        omega
      · have := (step?_eq_some hback).2.1
        omega

theorem stepsIn_take {front back : List Step} (h : stepsIn start t = front ++ last :: back) :
    stepsIn start (t.take (last.stop - start)) = front ++ [last] := by
  induction t using Text.lastSlash_induction generalizing front last back with
  | plain t ht =>
      have hlast := h
      rw [stepsIn_of_notMem ht] at hlast
      cases hstep : step? start t with
      | none => simp [hstep] at hlast
      | some step =>
          simp only [hstep, Option.toList_some, List.singleton_eq_append_iff] at hlast
          simp only [List.cons.injEq, reduceCtorEq, and_false, or_false] at hlast
          obtain ⟨rfl, rfl, rfl⟩ := hlast
          have hstop := (step?_eq_some hstep).2.1
          rw [List.take_of_length_le (by omega), h]
  | slash s t ht ih =>
      -- The step is one in front of the last slash, or it is the one behind it.
      have hall := h
      rw [stepsIn_append, stepsIn_of_notMem ht] at hall
      have hbehind : ∀ mid, (step? (start + (s.length + 1)) t).toList = mid ++ last :: back →
          stepsIn start ((s ++ '/' :: t).take (last.stop - start)) = front ++ [last] := by
        intro mid hmid
        cases hstep : step? (start + (s.length + 1)) t with
        | none => simp [hstep] at hmid
        | some step =>
            simp only [hstep, Option.toList_some, List.singleton_eq_append_iff, List.cons.injEq,
              reduceCtorEq, and_false, or_false] at hmid
            obtain ⟨-, rfl, rfl⟩ := hmid
            have hstop := (step?_eq_some hstep).2.1
            have hlength : (s ++ '/' :: t).length = s.length + (t.length + 1) := by simp
            rw [List.take_of_length_le (by omega), h]
      rcases List.append_eq_append_iff.mp hall with ⟨mid, -, hmid⟩ | ⟨mid, hs, hmid⟩
      · exact hbehind mid hmid
      · cases mid with
        | nil => exact hbehind [] hmid.symm
        | cons first mid =>
            obtain ⟨rfl, -⟩ := List.cons.inj hmid
            have hstop := (bounds_of_mem_stepsIn (by simp [hs] : last ∈ stepsIn start s)).2
            rw [List.take_append_of_le_length (by omega)]
            exact ih hs

/-! ## Steps of a path -/

/-- The slash that an absolute path starts with. -/
def top : Step := ⟨.root, 0, 1⟩

theorem steps_of_relative (h : path.isAbsolute = false) : path.steps = stepsIn 0 path.text := by
  rw [steps, h]
  rfl

theorem steps_cons_slash (t : Text) : (Path.mk ('/' :: t)).steps = top :: stepsIn 1 t := by
  simp [steps, isAbsolute, Text.splitOn, stepsFrom, step?, top, stepsIn]

/-- A slash divides the steps of a path. -/
theorem steps_slash (front t : Text) : (Path.mk (front ++ '/' :: t)).steps =
    (Path.mk (front ++ ['/'])).steps ++ stepsIn (front.length + 1) t := by
  cases front with
  | nil => rw [List.nil_append, List.nil_append, steps_cons_slash, steps_cons_slash]; rfl
  | cons c front =>
      by_cases hc : c = '/'
      · subst hc
        rw [List.cons_append, List.cons_append, steps_cons_slash, steps_cons_slash, stepsIn_append,
          stepsIn_append, stepsIn_nil, List.append_nil, List.cons_append, List.length_cons]
        congr 3
        omega
      · have hrelative : ∀ rest, (Path.mk (c :: rest)).isAbsolute = false := by
          simp [isAbsolute, hc]
        rw [List.cons_append, List.cons_append, steps_of_relative (hrelative _),
          steps_of_relative (hrelative _), ← List.cons_append, ← List.cons_append, stepsIn_append,
          stepsIn_append, stepsIn_nil, List.append_nil, Nat.zero_add]

theorem steps_append_slash (h : t ≠ []) : (Path.mk (t ++ ['/'])).steps = (Path.mk t).steps := by
  cases t with
  | nil => exact absurd rfl h
  | cons c t =>
      by_cases hc : c = '/'
      · subst hc
        rw [List.cons_append, steps_cons_slash, steps_cons_slash, stepsIn_append, stepsIn_nil,
          List.append_nil]
      · have hrelative : ∀ rest, (Path.mk (c :: rest)).isAbsolute = false := by
          simp [isAbsolute, hc]
        rw [List.cons_append, steps_of_relative (hrelative _), steps_of_relative (hrelative _),
          ← List.cons_append, stepsIn_append, stepsIn_nil, List.append_nil]

/-- A path cut off behind a step keeps the steps up to it. -/
theorem steps_take {front back : List Step} (h : path.steps = front ++ last :: back) :
    (Path.mk (path.text.take last.stop)).steps = front ++ [last] := by
  cases hpath : path.isAbsolute with
  | false =>
      rw [steps_of_relative hpath] at h
      have htake := stepsIn_take h
      rw [Nat.sub_zero] at htake
      have hrelative : (Path.mk (path.text.take last.stop)).isAbsolute = false := by
        rw [isAbsolute, beq_eq_false_iff_ne] at hpath ⊢
        rw [List.head?_take]
        split <;> simp_all
      rw [steps_of_relative hrelative, htake]
  | true =>
      obtain ⟨t, ht⟩ := List.head?_eq_some_iff.mp (beq_iff_eq.mp hpath)
      obtain rfl : path = ⟨'/' :: t⟩ := congrArg Path.mk ht
      rw [steps_cons_slash] at h
      cases front with
      | nil =>
          obtain ⟨rfl, -⟩ := List.cons.inj h
          rfl
      | cons first front =>
          obtain ⟨rfl, hrest⟩ := List.cons.inj h
          have htake := stepsIn_take hrest
          have hmem : last ∈ stepsIn 1 t := hrest ▸ by simp
          obtain ⟨stop, hstop⟩ := Nat.exists_eq_add_of_le' (bounds_of_mem_stepsIn hmem).1
          rw [hstop, Nat.add_sub_cancel] at htake
          rw [hstop, List.take_succ_cons, steps_cons_slash, htake, List.cons_append]

/-! ## Absolute paths -/

theorem steps_of_isAbsolute (h : path.isAbsolute = true) :
    path.steps = top :: stepsIn 1 path.text.tail := by
  obtain ⟨t, ht⟩ := List.head?_eq_some_iff.mp (beq_iff_eq.mp h)
  obtain rfl : path = ⟨'/' :: t⟩ := congrArg Path.mk ht
  exact steps_cons_slash t

theorem component_ne_root (h : step ∈ stepsIn start t) : step.component ≠ .root := by
  obtain ⟨part, -, start', hstep⟩ := exists_part_of_mem_stepsFrom h
  exact (step?_eq_some hstep).2.2.1

theorem isAbsolute_of_steps {rest : List Step} (h : path.steps = top :: rest) :
    path.isAbsolute = true := by
  by_contra hrelative
  rw [Bool.not_eq_true] at hrelative
  rw [steps_of_relative hrelative] at h
  exact component_ne_root (by rw [h]; exact List.mem_cons_self : top ∈ stepsIn 0 path.text) rfl

theorem text_ne_nil (h : path.isAbsolute = true) : path.text ≠ [] := by
  intro hempty
  simp [isAbsolute, hempty] at h

theorem of_name_mem_components (h : .name name ∈ path.components) :
    name ∈ Text.splitOn '/' path.text ∧ IsName name := by
  obtain ⟨step, hstep, hname⟩ := List.mem_map.mp h
  rw [steps, List.mem_append] at hstep
  rcases hstep with hroot | hpart
  · split_ifs at hroot <;> simp_all
  · obtain ⟨part, hpart, start, hstep⟩ := exists_part_of_mem_stepsFrom hpart
    obtain ⟨rfl, hnil, hdot, hdots⟩ := (step?_eq_some hstep).2.2.2 name hname
    exact ⟨hpart, hnil, hdot, hdots, (Text.of_mem_splitOn hpart).2⟩

/-! ## The path around a path -/

theorem exists_parent? {front : List Step} (h : path.steps = front ++ [last])
    (hfront : front ≠ []) (hlast : last.component ≠ .root) :
    ∃ parent, path.parent? = some parent ∧ parent.steps = front := by
  obtain ⟨before, step, hbefore⟩ := (List.eq_nil_or_concat front).resolve_left hfront
  rw [List.concat_eq_append] at hbefore
  subst hbefore
  have hsteps : path.steps = before ++ step :: [last] := h.trans (by simp)
  exact ⟨⟨path.text.take step.stop⟩, by simp [parent?, h, hlast], steps_take hsteps⟩

theorem fileName?_of_steps {front : List Step} (h : path.steps = front ++ [last]) :
    path.fileName? = match last.component with
      | .name name => some name
      | _ => none := by
  rw [fileName?, components, h, List.map_append, List.map_singleton, List.getLast?_concat]
  cases last.component <;> rfl

theorem exists_steps_of_fileName? (habsolute : path.isAbsolute = true)
    (h : path.fileName? = some name) :
    ∃ front last, path.steps = (top :: front) ++ [last] ∧ last.component = .name name := by
  have hsteps := steps_of_isAbsolute habsolute
  rcases List.eq_nil_or_concat (stepsIn 1 path.text.tail) with hnil | ⟨front, last, hconcat⟩
  · rw [hnil, ← List.nil_append [top]] at hsteps
    rw [fileName?_of_steps hsteps] at h
    cases h
  · rw [hconcat, List.concat_eq_append, ← List.cons_append] at hsteps
    refine ⟨front, last, hsteps, ?_⟩
    rw [fileName?_of_steps hsteps] at h
    cases hcomponent : last.component <;> simp_all

/-! ## Paths in a directory -/

/-- The text of a directory up to the names in it. -/
def lead (dir : Path) : Text :=
  if dir.text = [] ∨ dir.text.getLast? = some '/' then dir.text else dir.text ++ ['/']

theorem join_eq (h : other.isAbsolute = false) : dir.join other = ⟨dir.lead ++ other.text⟩ := by
  rw [join, lead, h]
  split_ifs <;> simp_all

theorem exists_lead (h : dir.text ≠ []) :
    ∃ front, dir.lead = front ++ ['/'] ∧ (Path.mk (front ++ ['/'])).steps = dir.steps := by
  by_cases hslash : dir.text.getLast? = some '/'
  · obtain ⟨front, hfront⟩ := List.getLast?_eq_some_iff.mp hslash
    refine ⟨front, ?_, ?_⟩
    · rw [lead, if_pos (.inr hslash), hfront]
    · rw [← hfront]
  · exact ⟨dir.text, by rw [lead, if_neg (by simp [h, hslash])], steps_append_slash h⟩

theorem steps_join (dir : Path) (hother : other.isAbsolute = false) :
    (dir.join other).steps = dir.steps ++ stepsIn dir.lead.length other.text := by
  by_cases h : dir.text = []
  · obtain rfl : dir = ⟨[]⟩ := congrArg Path.mk h
    rw [join_eq hother]
    exact steps_of_relative hother
  obtain ⟨front, hlead, hsteps⟩ := exists_lead h
  rw [join_eq hother, hlead, List.append_assoc, List.singleton_append, steps_slash, hsteps,
    List.length_append, List.length_singleton]

theorem isAbsolute_of_isName (h : IsName name) : (Path.mk name).isAbsolute = false := by
  cases name with
  | nil => rfl
  | cons c name =>
      have := h.slash_notMem
      rw [List.mem_cons, not_or] at this
      simp [isAbsolute, Ne.symm this.1]

theorem components_join_of_isName (dir : Path) (hname : IsName name) :
    (dir.join ⟨name⟩).components = dir.components ++ [.name name] := by
  rw [components, steps_join dir (isAbsolute_of_isName hname), stepsIn_of_isName hname,
    List.map_append]
  rfl

theorem cutExtension_of_notMem (h : '.' ∉ name) : cutExtension name = (name, none) := by
  rw [cutExtension, Text.splitLast?_eq_none_iff.mpr h]

theorem withExtension_join {extension : Text} (dir : Path) (hname : IsName name)
    (hdot : '.' ∉ name) :
    (dir.join ⟨name⟩).withExtension extension = dir.join ⟨name ++ '.' :: extension⟩ := by
  have hrelative : (Path.mk (name ++ '.' :: extension)).isAbsolute = false := by
    have := isAbsolute_of_isName hname
    cases name with
    | nil => exact absurd rfl hname.ne_nil
    | cons c name => simpa [isAbsolute] using this
  rw [withExtension, steps_join dir (isAbsolute_of_isName hname), stepsIn_of_isName hname,
    List.getLast?_concat]
  simp only [cutExtension_of_notMem hdot]
  rw [join_eq (isAbsolute_of_isName hname), join_eq hrelative,
    List.take_of_length_le (by simp), List.append_assoc]

/-- A file name with an extension is its stem, a dot and the extension. -/
theorem fileName?_of_extension? {extension : Text} (h : path.extension? = some extension) :
    ∃ stem, path.fileStem? = some stem ∧ stem ≠ [] ∧
      path.fileName? = some (stem ++ '.' :: extension) := by
  obtain ⟨name, hname, hcut⟩ := Option.bind_eq_some_iff.mp h
  refine ⟨(cutExtension name).1, by rw [fileStem?, hname, Option.map_some], ?_⟩
  unfold cutExtension at hcut ⊢
  split at hcut
  · cases hcut
  next stem _ hne hlast =>
    obtain rfl := Option.some.inj hcut
    exact ⟨fun h => hne h, by rw [hname, (Text.eq_append_of_splitLast? hlast).1]⟩
  · cases hcut

end Path

end CodingStandard
