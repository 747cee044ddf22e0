import CodingStandard.Checker.Names
import CodingStandard.Proofs.Offsets

namespace CodingStandard

/-!
# Families of method names

What the methods around it can do for a name is told by each of them alone: a name that is bad
without them becomes good if one of them starts with the same text, underscores alone not counting.
Two such names do this for each other.
-/

namespace Names

variable {name sibling start s t core : Text}

/-! ## Texts that start alike -/

theorem prefix_commonStart_iff : start <+: commonStart s t ↔ start <+: s ∧ start <+: t := by
  induction start generalizing s t with
  | nil => simp
  | cons c start ih =>
      cases s with
      | nil => simp [commonStart]
      | cons a s =>
          cases t with
          | nil => simp [commonStart]
          | cons b t =>
              rw [commonStart]
              split
              case isTrue hab =>
                subst hab
                simp only [List.cons_prefix_cons, ih]
                tauto
              case isFalse hab =>
                simp only [List.prefix_nil, reduceCtorEq, List.cons_prefix_cons, false_iff]
                rintro ⟨⟨rfl, -⟩, rfl, -⟩
                exact hab rfl

theorem related_iff : related name sibling = true ↔
    ∃ start, start <+: name ∧ start <+: sibling ∧ ∃ c ∈ start, c ≠ '_' := by
  simp only [related, List.any_eq_true, bne_iff_ne]
  constructor
  · rintro ⟨c, hc, hne⟩
    obtain ⟨hname, hsibling⟩ :=
      prefix_commonStart_iff.mp (List.prefix_refl (commonStart name sibling))
    exact ⟨_, hname, hsibling, c, hc, hne⟩
  · rintro ⟨start, hname, hsibling, c, hc, hne⟩
    exact ⟨c, (prefix_commonStart_iff.mpr ⟨hname, hsibling⟩).subset hc, hne⟩

theorem related_symm (h : related name sibling = true) : related sibling name = true := by
  obtain ⟨start, hname, hsibling, hreal⟩ := related_iff.mp h
  exact related_iff.mpr ⟨start, hsibling, hname, hreal⟩

/-! ## Underscores inside a name -/

/-- An underscore with something else than underscores on both sides. -/
def HasInnerUnderscore (name : Text) : Prop :=
  ∃ front back, name = front ++ '_' :: back ∧ (∃ c ∈ front, c ≠ '_') ∧ ∃ c ∈ back, c ≠ '_'

theorem HasInnerUnderscore.of_suffix (h : HasInnerUnderscore core) (hcore : core <:+ name) :
    HasInnerUnderscore name := by
  obtain ⟨front, back, rfl, ⟨c, hc, hne⟩, hback⟩ := h
  obtain ⟨lead, rfl⟩ := hcore
  exact ⟨lead ++ front, back, by simp, ⟨c, List.mem_append_right _ hc, hne⟩, hback⟩

theorem dropUnderscore_suffix (t : Text) : dropUnderscore t <:+ t := by
  unfold dropUnderscore
  split
  · exact List.suffix_cons _ _
  · exact List.suffix_refl _

theorem head?_dropUnderscore (h : ¬ ['_', '_'] <+: t) : (dropUnderscore t).head? ≠ some '_' := by
  unfold dropUnderscore
  split
  next t =>
    rintro hhead
    obtain ⟨rest, rfl⟩ := List.head?_eq_some_iff.mp hhead
    exact h ⟨rest, rfl⟩
  next hother =>
    intro hhead
    obtain ⟨rest, rfl⟩ := List.head?_eq_some_iff.mp hhead
    exact hother rest rfl

theorem hasInnerUnderscore_of_coreStanding (h : coreStanding core = .family)
    (hhead : core.head? ≠ some '_') : HasInnerUnderscore core := by
  unfold coreStanding at h
  split_ifs at h with hlast hmem
  obtain ⟨front, back, rfl⟩ := List.append_of_mem (List.contains_iff_mem.mp hmem)
  refine ⟨front, back, rfl, ?_, ?_⟩
  · cases front with
    | nil => exact absurd rfl hhead
    | cons c front => exact ⟨c, List.mem_cons_self, fun hc => hhead (by simp [hc])⟩
  · cases back using List.reverseRecOn with
    | nil => exact absurd (by simp) hlast
    | append_singleton back c =>
        refine ⟨c, by simp, fun hc => hlast ?_⟩
        rw [hc, ← List.cons_append, ← List.append_assoc, List.getLast?_concat]

/-- Only a name with an underscore inside may depend on the names around it. -/
theorem hasInnerUnderscore_of_standing (h : standing name = .family) :
    HasInnerUnderscore name := by
  unfold standing at h
  split at h
  · cases h
  split at h
  · cases h
  next hthree =>
    have hthree : ¬ ['_', '_', '_'] <+: name := fun hlead =>
      hthree (Bool.or_eq_true_iff.mpr (.inl (Text.startsWith_iff.mpr hlead)))
    split at h
    case h_1 rest hrest =>
      obtain rfl : name = ['_', '_'] ++ rest := Text.after?_eq_some_iff.mp hrest
      split_ifs at h
      have hhead := head?_dropUnderscore (t := rest) fun hlead => by
        obtain ⟨rest, rfl⟩ := hlead
        exact hthree ⟨'_' :: rest, rfl⟩
      exact (hasInnerUnderscore_of_coreStanding h hhead).of_suffix
        ((dropUnderscore_suffix rest).trans (List.suffix_append _ _))
    case h_2 hnone =>
      have hhead := head?_dropUnderscore (t := name) fun ⟨rest, hlead⟩ => by
        have hsome : Text.after? "__".toList name = some rest :=
          Text.after?_eq_some_iff.mpr hlead.symm
        exact absurd (hnone.symm.trans hsome) nofun
      exact (hasInnerUnderscore_of_coreStanding h hhead).of_suffix (dropUnderscore_suffix name)

/-! ## Names among others -/

variable {a b : String} {siblings : List String}

theorem isValidMethodName_iff : isValidMethodName a siblings = true ↔
    standing a.toList = .good ∨
      standing a.toList = .family ∧ ∃ s ∈ siblings, related a.toList s.toList = true := by
  unfold isValidMethodName
  cases standing a.toList <;> simp

theorem isValidMethodName_mono {others : List String} (h : siblings ⊆ others)
    (hgood : isValidMethodName a siblings = true) : isValidMethodName a others = true := by
  rw [isValidMethodName_iff] at hgood ⊢
  exact hgood.imp_right (And.imp_right fun ⟨s, hs, hrelated⟩ => ⟨s, h hs, hrelated⟩)

/-- A name that is bad on its own and good beside another one. -/
def OwesTo (name sibling : String) : Prop :=
  isValidMethodName name [] = false ∧ isValidMethodName name [sibling] = true

theorem isFamily_of_siblings (hbad : isValidMethodName a [] = false)
    (hgood : isValidMethodName a siblings = true) : standing a.toList = .family := by
  rw [Bool.eq_false_iff, Ne, isValidMethodName_iff] at hbad
  rcases isValidMethodName_iff.mp hgood with halone | ⟨hfamily, -⟩
  · exact absurd (.inl halone) hbad
  · exact hfamily

theorem owesTo_iff : OwesTo a b ↔
    standing a.toList = .family ∧ related a.toList b.toList = true := by
  constructor
  · rintro ⟨hbad, hgood⟩
    have hfamily := isFamily_of_siblings hbad hgood
    rw [isValidMethodName_iff, hfamily] at hgood
    exact ⟨hfamily, by simpa using hgood⟩
  · rintro ⟨hfamily, hrelated⟩
    simp [OwesTo, isValidMethodName, hfamily, hrelated]

/-- Each of the names around a name tells alone whether it makes the name good, so that their
number and order do not count and more of them never make it bad. A name that is good thanks to
another one has an underscore inside and starts with the same text as the other, which is then good
thanks to it as well, unless it is good or bad whatever is around it. -/
theorem isValidMethodName_siblings (name : String) (siblings : List String) :
    (isValidMethodName name siblings = true ↔
      isValidMethodName name [] = true ∨ ∃ s ∈ siblings, isValidMethodName name [s] = true) ∧
    (∀ others, siblings ⊆ others →
      isValidMethodName name siblings = true → isValidMethodName name others = true) ∧
    (∀ others, (∀ s, s ∈ others ↔ s ∈ siblings) →
      isValidMethodName name others = isValidMethodName name siblings) ∧
    (∀ s, OwesTo name s → HasInnerUnderscore name.toList ∧
      ∃ start, start <+: name.toList ∧ start <+: s.toList ∧ ∃ c ∈ start, c ≠ '_') ∧
    ∀ s others, OwesTo name s → isValidMethodName s [] = false →
      isValidMethodName s others = true → isValidMethodName s [name] = true := by
  refine ⟨⟨fun hgood => ?_, ?_⟩, fun others => isValidMethodName_mono, ?_, ?_, ?_⟩
  · rcases isValidMethodName_iff.mp hgood with halone | ⟨hfamily, s, hs, hrelated⟩
    · exact .inl (isValidMethodName_iff.mpr (.inl halone))
    · exact .inr ⟨s, hs, (owesTo_iff.mpr ⟨hfamily, hrelated⟩).2⟩
  · rintro (halone | ⟨s, hs, hgood⟩)
    · exact isValidMethodName_mono (List.nil_subset _) halone
    · exact isValidMethodName_mono (by simpa using hs) hgood
  · intro others hsame
    rw [Bool.eq_iff_iff]
    exact ⟨isValidMethodName_mono fun s => (hsame s).mp,
      isValidMethodName_mono fun s => (hsame s).mpr⟩
  · intro s howes
    obtain ⟨hfamily, hrelated⟩ := owesTo_iff.mp howes
    exact ⟨hasInnerUnderscore_of_standing hfamily, related_iff.mp hrelated⟩
  · intro s others howes hbad hgood
    have hrelated := related_symm (owesTo_iff.mp howes).2
    exact (owesTo_iff.mpr ⟨isFamily_of_siblings hbad hgood, hrelated⟩).2

end Names

end CodingStandard
