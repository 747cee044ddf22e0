import CodingStandard.Resolution.Reexport
import Mathlib.Data.List.Induction

namespace CodingStandard

/-!
# Taking dotted names apart and putting them together

The segments of a name spell it again, and the segments of two names joined by a dot are those of
the one and then those of the other. Climbing out of packages removes segments from the end.
-/

namespace Text

theorem splitOn_eq (mark : Char) (t : Text) : splitOn mark t = List.splitOn mark t := by
  induction t with
  | nil => rfl
  | cons c t ih =>
      rw [List.splitOn_cons_eq_if_modifyHead, splitOn, ih]
      have hne := List.splitOn_ne_nil mark t
      cases hparts : List.splitOn mark t with
      | nil => exact absurd hparts hne
      | cons part parts => by_cases hc : c = mark <;> simp [hc]

theorem of_mem_splitOn {mark : Char} {t part : Text} (h : part ∈ splitOn mark t) :
    part.Sublist t ∧ mark ∉ part := by
  induction t generalizing part with
  | nil => simp_all [splitOn]
  | cons c t ih =>
      rw [splitOn] at h
      split at h
      case isTrue hc =>
        rcases List.mem_cons.mp h with rfl | h
        · exact ⟨List.nil_sublist _, List.not_mem_nil⟩
        · exact ⟨(ih h).1.cons c, (ih h).2⟩
      case isFalse hc =>
        cases hparts : splitOn mark t with
        | nil =>
            rw [hparts] at h
            obtain rfl := List.mem_singleton.mp h
            exact ⟨List.singleton_sublist.mpr List.mem_cons_self, by simpa using Ne.symm hc⟩
        | cons first parts =>
            rw [hparts] at h ih
            rcases List.mem_cons.mp h with rfl | h
            · have hfirst := ih List.mem_cons_self
              exact ⟨hfirst.1.cons_cons c, by simpa [Ne.symm hc] using hfirst.2⟩
            · have hlater := ih (List.mem_cons_of_mem _ h)
              exact ⟨hlater.1.cons c, hlater.2⟩

theorem splitLast?_eq_none_iff {mark : Char} {t : Text} :
    splitLast? mark t = none ↔ mark ∉ t := by
  induction t with
  | nil => simp [splitLast?]
  | cons c t ih =>
      rw [splitLast?, List.mem_cons, not_or, ← ih]
      cases splitLast? mark t <;> simp [eq_comm]

theorem splitLast?_append {mark : Char} (s : Text) {t : Text} (h : mark ∉ t) :
    splitLast? mark (s ++ mark :: t) = some (s, t) := by
  induction s with
  | nil => simp [splitLast?, splitLast?_eq_none_iff.mpr h]
  | cons c s ih => simp [splitLast?, ih]

theorem eq_append_of_splitLast? {mark : Char} {t front back : Text}
    (h : splitLast? mark t = some (front, back)) : t = front ++ mark :: back ∧ mark ∉ back := by
  induction t generalizing front with
  | nil => cases h
  | cons c t ih =>
      rw [splitLast?] at h
      cases hrest : splitLast? mark t with
      | some parts =>
          obtain ⟨front', back'⟩ := parts
          simp only [hrest, Option.some.injEq, Prod.mk.injEq] at h
          obtain ⟨rfl, rfl⟩ := h
          obtain ⟨rfl, hback⟩ := ih hrest
          exact ⟨rfl, hback⟩
      | none =>
          simp only [hrest, Option.ite_none_right_eq_some, Option.some.injEq, Prod.mk.injEq] at h
          obtain ⟨rfl, rfl, rfl⟩ := h
          exact ⟨rfl, splitLast?_eq_none_iff.mp hrest⟩

end Text

namespace ModuleName

/-- A name of one segment, as every identifier is. -/
def IsSimple (name : String) : Prop := '.' ∉ name.toList

theorem isSimple_of_mem_segments {name segment : String} (h : segment ∈ segments name) :
    IsSimple segment := by
  obtain ⟨part, hpart, rfl⟩ := List.mem_map.mp h
  rw [IsSimple, String.toList_ofList]
  exact (Text.of_mem_splitOn hpart).2

theorem segments_eq_singleton {name : String} (h : IsSimple name) : segments name = [name] := by
  rw [segments, Text.splitOn_eq, List.splitOn_eq_singleton h]
  simp

theorem segments_append (front back : String) :
    segments (front ++ "." ++ back) = segments front ++ segments back := by
  have hlist : (front ++ "." ++ back).toList = front.toList ++ '.' :: back.toList := by simp
  rw [segments, hlist, Text.splitOn_eq, List.splitOn_append_cons_self, List.map_append,
    segments, segments, Text.splitOn_eq, Text.splitOn_eq]

theorem segments_append_of_isSimple {front back : String} (hfront : IsSimple front)
    (hback : IsSimple back) : segments (front ++ "." ++ back) = [front, back] := by
  rw [segments_append, segments_eq_singleton hfront, segments_eq_singleton hback]
  rfl

theorem ofSegments_segments (name : String) : ofSegments (segments name) = name := by
  rw [ofSegments, segments, Text.splitOn_eq, List.map_map]
  have hid : String.toList ∘ String.ofList = id := funext fun t => String.toList_ofList
  rw [hid, List.map_id, Text.join, List.intercalate_splitOn, String.ofList_toList]

theorem segments_ne_nil (name : String) : segments name ≠ [] := by
  rw [segments, Text.splitOn_eq, Ne, List.map_eq_nil_iff]
  exact List.splitOn_ne_nil _ _

theorem ofSegments_cons_cons (first second : String) (rest : List String) :
    ofSegments (first :: second :: rest) = ofSegments ((first ++ "." ++ second) :: rest) := by
  cases rest <;> simp [ofSegments, Text.join, List.intercalate_cons_cons]

theorem ofSegments_singleton (name : String) : ofSegments [name] = name := by
  simp [ofSegments, Text.join]

theorem splitLast?_append (front : String) {back : String} (h : IsSimple back) :
    splitLast? (front ++ "." ++ back) = some (front, back) := by
  have hlist : (front ++ "." ++ back).toList = front.toList ++ '.' :: back.toList := by simp
  rw [splitLast?, hlist, Text.splitLast?_append _ h]
  simp

end ModuleName

namespace Module

theorem climb?_eq (levels : Nat) (package : List String) :
    climb? levels package =
      if levels ≤ package.length then some (package.take (package.length - levels)) else none := by
  induction levels generalizing package with
  | zero => simp [climb?]
  | succ levels ih =>
      cases package using List.reverseRecOn with
      | nil => rfl
      | append_singleton package last =>
          rw [climb?, if_neg (by simp), List.dropLast_concat, ih]
          simp only [List.length_append, List.length_singleton, Nat.add_sub_add_right,
            Nat.add_le_add_iff_right]
          rw [List.take_append_of_le_length (Nat.sub_le _ _)]

theorem climb?_append (base out : List String) : climb? out.length (base ++ out) = some base := by
  simp [climb?_eq]

/-- The module that a `from` import names, with or without leading dots. -/
inductive ImportsFrom (m : Module) (i : Import) : String → Prop where
  | absolute (source : String) (hlevel : i.level = 0) (hsource : i.source = some source) :
      ImportsFrom m i source
  /-- One dot stands for the package of the module, and each further dot leaves one package. -/
  | relative (base out : List String) (hpackage : m.package = base ++ out)
      (hlevel : i.level = out.length + 1)
      (hname : base ++ (i.source.map ModuleName.segments).getD [] ≠ []) :
      ImportsFrom m i (ModuleName.ofSegments (base ++ (i.source.map ModuleName.segments).getD []))

theorem ImportsFrom.importSource?_eq {m : Module} {i : Import} {source : String}
    (h : m.ImportsFrom i source) : m.importSource? i = some source := by
  cases h with
  | absolute _ hlevel hsource => rw [importSource?, if_pos hlevel, hsource]
  | relative base out hpackage hlevel hname =>
      have hclimb : climb? (i.level - 1) m.package = some base := by
        rw [hlevel, hpackage, Nat.add_sub_cancel, climb?_append]
      have hne : i.level ≠ 0 := by omega
      rw [importSource?, if_neg hne, hclimb]
      simp only [Option.bind_eq_bind, Option.bind_some]
      rw [if_neg (by simpa using hname)]

/-! ## Relative imports -/

/-- What a relative import names. Dots that lead out of the topmost package by one level are
dropped, and only with more of them nothing is named. -/
theorem importSource?_relative (m : Module) (i : Import) (hlevel : 1 ≤ i.level) :
    m.importSource? i =
      if i.level ≤ m.package.length then
        some (ModuleName.ofSegments (m.package.take (m.package.length - (i.level - 1)) ++
          (i.source.map ModuleName.segments).getD []))
      else if i.level = m.package.length + 1 then i.source
      else none := by
  have hrelative : i.level ≠ 0 := by omega
  rw [importSource?, if_neg hrelative, climb?_eq]
  by_cases hinside : i.level ≤ m.package.length
  · have hclimb : i.level - 1 ≤ m.package.length := by omega
    have hne : m.package.take (m.package.length - (i.level - 1)) ≠ [] := by
      rw [Ne, List.take_eq_nil_iff, ← List.length_eq_zero_iff]
      omega
    simp [hclimb, hinside, hne]
  · by_cases hout : i.level = m.package.length + 1
    · have hclimb : i.level - 1 = m.package.length := by omega
      rw [if_neg hinside, if_pos hout, hclimb, Nat.sub_self, if_pos (Nat.le_refl _)]
      cases i.source with
      | none => rfl
      | some source =>
          simp [ModuleName.segments_ne_nil, ModuleName.ofSegments_segments]
    · have hclimb : ¬ i.level - 1 ≤ m.package.length := by omega
      rw [if_neg hinside, if_neg hout, if_neg hclimb]
      rfl

/-- A module with two packages around it. -/
def inner : Module :=
  ⟨"pkg.sub.mod", .ofString "pkg/sub/mod.py", [], false, #[⟨.root none, ⟨1, 0⟩, none, []⟩]⟩

/-- An import from another module, some levels up. -/
def upward (level : Nat) (source : Option String) : Import :=
  ⟨source, level, true, [⟨"C", none⟩], false⟩

theorem importSource?_relative_inner :
    let i := upward 2 (some "other")
    1 ≤ i.level ∧ inner.package = ["pkg", "sub"] ∧ inner.importSource? i = some "pkg.other" ∧
      inner.importSource? (upward 3 none) = none ∧
      inner.importSource? (upward 4 (some "other")) = none := by
  refine ⟨by decide, by decide, ?_, ?_, ?_⟩
  · exact (importSource?_relative inner _ (by decide)).trans (by decide)
  · exact (importSource?_relative inner _ (by decide)).trans (by decide)
  · exact (importSource?_relative inner _ (by decide)).trans (by decide)

/-- Two packages lie around the module, and an import from three levels up finds a module. -/
theorem importSource?_outside :
    inner.package = ["pkg", "sub"] ∧ inner.importSource? (upward 3 none) = none ∧
      inner.importSource? (upward 3 (some "other")) = some "other" :=
  ⟨by decide, by decide, by decide⟩

end Module

end CodingStandard
