import CodingStandard.CommandLine
import CodingStandard.Proofs.Registration

namespace CodingStandard

/-!
# What a configuration says of a message

The lists of a configuration name messages by code, by symbol or all at once. Which messages a
policy reports depends on the set of messages that are named and not on how the lists name them:
a message is reported if it is on by default or named among the enabled ones, and not named among
the disabled ones.
-/

namespace Catalog

variable {catalog : Catalog} {names front back : List String} {code : String}

/-- A list of names, as a configuration gives it, names the message with a code. -/
def Lists (catalog : Catalog) (names : List String) (code : String) : Prop :=
  "all" ∈ names ∨ ∃ name ∈ names, ∃ e, catalog.get? name = some e ∧ e.message.code = code

/-- A name that may stand in a list: that of a message, or the one that stands for all. -/
def Knows (catalog : Catalog) (name : String) : Prop :=
  name = "all" ∨ (catalog.get? name).isSome

instance : Decidable (catalog.Lists names code) :=
  decidable_of_iff ("all" ∈ names ∨
      ∃ name ∈ names, ((catalog.get? name).any (·.message.code == code)) = true) <| by
    simp [Lists, Option.any_eq_true]

instance (name : String) : Decidable (catalog.Knows name) :=
  inferInstanceAs (Decidable (_ ∨ _))

theorem lists_append :
    catalog.Lists (front ++ back) code ↔ catalog.Lists front code ∨ catalog.Lists back code := by
  simp only [Lists, List.mem_append, or_and_right, exists_or]
  exact or_or_or_comm

theorem lists_congr (h : ∀ name, name ∈ front ↔ name ∈ back) :
    catalog.Lists front code ↔ catalog.Lists back code := by
  simp only [Lists, h]

end Catalog

/-- Whatever calls register messages, no two messages share a code or a symbol. -/
theorem IndexedCatalog.distinct_after {start : IndexedCatalog}
    (hstart : start = empty ∨ start = initial) (calls : List Registration) :
    Catalog.Distinct (start.after calls).toCatalog.registered := by
  rcases hstart with rfl | rfl
  · exact Sound.empty.after.distinct
  · exact Sound.initial.after.distinct

namespace Policy

variable {catalog : Catalog} {code name : String} {names : List String}
  {filter other : MessageFilter} {overrides : List (String × Severity)}

/-! ## The messages that names stand for -/

theorem codesNamed_eq_nil (h : ¬ catalog.Knows name) : codesNamed catalog name = [] := by
  obtain ⟨hall, hget⟩ := not_or.mp h
  rw [codesNamed, if_neg hall, Option.not_isSome_iff_eq_none.mp hget]
  rfl

theorem mem_codes_of_mem_codesNamed (h : code ∈ codesNamed catalog name) :
    code ∈ catalog.codes := by
  rcases mem_codesNamed_iff.mp h with ⟨-, hcode⟩ | ⟨-, e, he, rfl⟩
  · exact hcode
  · exact Catalog.mem_codes.mpr ⟨e, (Catalog.of_get?_eq_some he).1, rfl⟩

theorem exists_mem_codesNamed (hcode : code ∈ catalog.codes) :
    (∃ name ∈ names, code ∈ codesNamed catalog name) ↔ catalog.Lists names code := by
  simp only [mem_codesNamed_iff, Catalog.Lists]
  constructor
  · rintro ⟨name, hname, ⟨rfl, -⟩ | ⟨-, hentry⟩⟩
    · exact .inl hname
    · exact .inr ⟨name, hname, hentry⟩
  · rintro (hall | ⟨name, hname, hentry⟩)
    · exact ⟨"all", hall, .inl ⟨rfl, hcode⟩⟩
    · by_cases hall : name = "all"
      · exact ⟨name, hname, .inl ⟨hall, hcode⟩⟩
      · exact ⟨name, hname, .inr ⟨hall, hentry⟩⟩

/-! ## The messages that are reported -/

/-- A message is reported if it is on by default or enabled, and not disabled. -/
theorem isEnabled_ofFilter_iff : (ofFilter catalog filter overrides).isEnabled code ↔
    ∃ e ∈ catalog.registered, e.message.code = code ∧
      (e.message.defaultEnabled ∨ catalog.Lists filter.enable code) ∧
        ¬ catalog.Lists filter.disable code := by
  rw [isEnabled_ofFilter]
  by_cases hcode : code ∈ catalog.codes
  · have hoff : (∀ name ∈ filter.disable, code ∉ codesNamed catalog name) ↔
        ¬ catalog.Lists filter.disable code := by
      rw [← exists_mem_codesNamed hcode]
      push Not
      rfl
    rw [hoff, exists_mem_codesNamed hcode, mem_defaultCodes_iff]
    obtain ⟨e, he, hsame⟩ := Catalog.mem_codes.mp hcode
    constructor
    · rintro ⟨⟨e', he', hsame', hon⟩ | hon, hnot⟩
      · exact ⟨e', he', hsame', .inl hon, hnot⟩
      · exact ⟨e, he, hsame, .inr hon, hnot⟩
    · rintro ⟨e', he', hsame', hon | hon, hnot⟩
      · exact ⟨.inl ⟨e', he', hsame', hon⟩, hnot⟩
      · exact ⟨.inr hon, hnot⟩
  · -- What is no code of the catalog is on neither side.
    constructor
    · rintro ⟨hdefault | ⟨name, -, hname⟩, -⟩
      · obtain ⟨e, he, hsame, -⟩ := mem_defaultCodes_iff.mp hdefault
        exact absurd (Catalog.mem_codes.mpr ⟨e, he, hsame⟩) hcode
      · exact absurd (mem_codes_of_mem_codesNamed hname) hcode
    · rintro ⟨e, he, hsame, -⟩
      exact absurd (Catalog.mem_codes.mpr ⟨e, he, hsame⟩) hcode

theorem isEnabled_congr (henable : ∀ name, name ∈ filter.enable ↔ name ∈ other.enable)
    (hdisable : ∀ name, name ∈ filter.disable ↔ name ∈ other.disable) :
    (ofFilter catalog filter overrides).isEnabled code =
      (ofFilter catalog other overrides).isEnabled code := by
  rw [Bool.eq_iff_iff, isEnabled_ofFilter_iff, isEnabled_ofFilter_iff]
  simp only [Catalog.lists_congr henable, Catalog.lists_congr hdisable]

theorem enableAll_filter_knows (enabled : List String) :
    enableAll catalog enabled (names.filter (catalog.Knows ·)) =
      enableAll catalog enabled names := by
  unfold enableAll
  induction names generalizing enabled with
  | nil => rfl
  | cons name names ih =>
      by_cases hknows : catalog.Knows name
      · rw [List.filter_cons_of_pos (by simpa using hknows), List.foldl_cons, List.foldl_cons, ih]
      · rw [List.filter_cons_of_neg (by simpa using hknows), List.foldl_cons,
          codesNamed_eq_nil hknows, List.append_nil, ih]

theorem disableAll_filter_knows (enabled : List String) :
    disableAll catalog enabled (names.filter (catalog.Knows ·)) =
      disableAll catalog enabled names := by
  unfold disableAll
  induction names generalizing enabled with
  | nil => rfl
  | cons name names ih =>
      by_cases hknows : catalog.Knows name
      · rw [List.filter_cons_of_pos (by simpa using hknows), List.foldl_cons, List.foldl_cons, ih]
      · have hkeep : enabled.filter (!(codesNamed catalog name).contains ·) = enabled := by
          simp [codesNamed_eq_nil hknows]
        rw [List.filter_cons_of_neg (by simpa using hknows), List.foldl_cons, hkeep, ih]

/-- Names that stand for no message have no effect. -/
theorem ofFilter_filter_knows (filter : MessageFilter) :
    ofFilter catalog ⟨filter.enable.filter (catalog.Knows ·),
      filter.disable.filter (catalog.Knows ·)⟩ overrides = ofFilter catalog filter overrides := by
  simp only [ofFilter, enableAll_filter_knows, disableAll_filter_knows]

/-! ## Presets -/

/-- The messages of a preset come before those that a configuration enables. -/
theorem messages_of_withPreset {config config' : Config} {preset : Option String}
    (h : CommandLine.withPreset config preset = .ok config') :
    ∃ chosen : Preset, { config with preset := preset.or config.preset }.chosenPreset = .ok chosen ∧
      config'.messages = ⟨chosen.messages ++ config.messages.enable, config.messages.disable⟩ := by
  unfold CommandLine.withPreset at h
  cases hchosen : { config with preset := preset.or config.preset }.chosenPreset with
  | error error =>
      simp only [hchosen] at h
      cases h
  | ok chosen =>
      simp only [hchosen] at h
      cases h
      exact ⟨chosen, rfl, rfl⟩

/-- Whatever calls have built a catalog, a message is reported exactly if it is on by default or
enabled, and not disabled; messages that a preset adds count as enabled ones. The order of the
names in the lists, their repetition and names that stand for no message have no effect. The
severity of a message is that of its checker if one is set, and else that of its code. -/
theorem ofFilter_decides (start : IndexedCatalog)
    (hstart : start = IndexedCatalog.empty ∨ start = IndexedCatalog.initial)
    (calls : List IndexedCatalog.Registration) (overrides : List (String × Severity)) :
    let catalog := (start.after calls).toCatalog
    let policy := fun filter => ofFilter catalog filter overrides
    (∀ filter code, (policy filter).isEnabled code ↔
      ∃ e ∈ catalog.registered, e.message.code = code ∧
        (e.message.defaultEnabled ∨ catalog.Lists filter.enable code) ∧
          ¬ catalog.Lists filter.disable code) ∧
    (∀ config preset config', CommandLine.withPreset config preset = .ok config' →
      ∃ chosen : Preset,
        { config with preset := preset.or config.preset }.chosenPreset = .ok chosen ∧
          ∀ code, (policy config'.messages).isEnabled code ↔
            ∃ e ∈ catalog.registered, e.message.code = code ∧
              (e.message.defaultEnabled ∨ catalog.Lists chosen.messages code ∨
                catalog.Lists config.messages.enable code) ∧
                ¬ catalog.Lists config.messages.disable code) ∧
    (∀ filter other : MessageFilter, (∀ name, name ∈ filter.enable ↔ name ∈ other.enable) →
      (∀ name, name ∈ filter.disable ↔ name ∈ other.disable) →
        ∀ code, (policy filter).isEnabled code = (policy other).isEnabled code) ∧
    (∀ filter, policy ⟨filter.enable.filter (catalog.Knows ·),
      filter.disable.filter (catalog.Knows ·)⟩ = policy filter) ∧
    ∀ filter, ∀ e ∈ catalog.registered, (policy filter).severity e.message.code =
      (overrides.lookup e.checker).getD (.ofCode e.message.code) := by
  intro catalog policy
  have hdistinct : Catalog.Distinct catalog.registered := IndexedCatalog.distinct_after hstart calls
  refine ⟨fun filter code => isEnabled_ofFilter_iff, ?_, fun filter other henable hdisable code =>
    isEnabled_congr henable hdisable, ofFilter_filter_knows, fun filter e he =>
    severity_ofFilter hdistinct.codes he filter overrides⟩
  intro config preset config' hconfig
  obtain ⟨chosen, hchosen, hmessages⟩ := messages_of_withPreset hconfig
  refine ⟨chosen, hchosen, fun code => ?_⟩
  simp only [policy, hmessages, isEnabled_ofFilter_iff, Catalog.lists_append]

/-- Two messages about blanks, one of them off by default. -/
def blanks : IndexedCatalog.Registration :=
  ⟨"spacing", [⟨"W9010", "trailing-whitespace", "", "", false⟩,
    ⟨"W9013", "too-many-blank-lines", "", "", true⟩]⟩

theorem ofFilter_decides_blanks :
    let catalog : Catalog := ⟨⟨Catalog.abortMessage, Catalog.host⟩ :: blanks.entries⟩
    let policy := fun filter => ofFilter catalog filter [("spacing", .error)]
    let config := { Config.default with messages := ⟨["too-many-blank-lines"], ["W9010"]⟩ }
    let chosen := { config with
      preset := some "pep8"
      messages := ⟨Preset.pep8.messages ++ ["too-many-blank-lines"], ["W9010"]⟩ }
    (IndexedCatalog.initial.after [blanks]).toCatalog = catalog ∧
      (policy ⟨["trailing-whitespace", "W0000"], ["W9013"]⟩).isEnabled "W9010" ∧
      ¬ (policy ⟨["W9013", "trailing-whitespace"], ["W9013"]⟩).isEnabled "W9013" ∧
      CommandLine.withPreset config (some "pep8") = .ok chosen ∧
      ¬ (policy chosen.messages).isEnabled "W9010" ∧
      (policy ⟨["all", "all"], []⟩).isEnabled "W9010" = (policy ⟨["all"], []⟩).isEnabled "W9010" ∧
      (policy .none).severity "W9010" = .error := by
  intro catalog policy config chosen
  have hsucceed : IndexedCatalog.initial.AllSucceed [blanks] := by
    rw [IndexedCatalog.Sound.initial.allSucceed_iff]
    decide
  have hcatalog : (IndexedCatalog.initial.after [blanks]).toCatalog = catalog :=
    congrArg Catalog.mk (IndexedCatalog.Sound.initial.registered_after hsucceed)
  have hdecides :=
    ofFilter_decides IndexedCatalog.initial (.inr rfl) [blanks] [("spacing", .error)]
  rw [hcatalog] at hdecides
  obtain ⟨hreported, hpreset, horder, -, hseverity⟩ := hdecides
  have hchosen : CommandLine.withPreset config (some "pep8") = .ok chosen := by rfl
  obtain ⟨_, -, hpep8⟩ := hpreset config (some "pep8") chosen hchosen
  refine ⟨hcatalog, (hreported _ _).mpr (by decide), fun h => ?_, hchosen, fun h => ?_,
    horder _ _ (by simp) (by simp) _, hseverity _ _ (List.mem_cons_of_mem _ List.mem_cons_self)⟩
  · exact absurd ((hreported _ _).mp h) (by decide)
  · obtain ⟨_, -, -, -, hnot⟩ := (hpep8 _).mp h
    exact hnot (by decide)

end Policy

end CodingStandard
