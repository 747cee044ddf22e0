import CodingStandard.Message.Policy
import Mathlib.Data.List.Nodup
import Mathlib.Data.List.Pairwise

namespace CodingStandard

/-!
# Catalogs and policies

A catalog is unambiguous if no text names two messages. Then a name leads to a message exactly if
it is its code or its symbol, and what a policy says of a message depends on nothing but the
entry of that message.
-/

namespace Catalog

/-- The codes and the symbols of entries. -/
def names (entries : List CatalogEntry) : List String :=
  entries.flatMap fun e => [e.message.code, e.message.symbol]

/-- The entries of the messages of a checker. -/
def entriesOf (checker : String) (msgs : List MessageDef) : List CatalogEntry :=
  msgs.map fun msg => ⟨msg, checker⟩

/-- No text names two messages, or one message in both ways. -/
def Unambiguous (catalog : Catalog) : Prop := (names catalog.registered).Nodup

theorem codes_sublist_names (entries : List CatalogEntry) :
    (entries.map (·.message.code)).Sublist (names entries) := by
  induction entries with
  | nil => exact .slnil
  | cons e entries ih => exact (ih.cons e.message.symbol).cons_cons e.message.code

theorem symbols_sublist_names (entries : List CatalogEntry) :
    (entries.map (·.message.symbol)).Sublist (names entries) := by
  induction entries with
  | nil => exact .slnil
  | cons e entries ih => exact (ih.cons_cons e.message.symbol).cons e.message.code

theorem find?_eq_some_of_unique {entries : List CatalogEntry} {p : CatalogEntry → Bool}
    {e : CatalogEntry} (he : e ∈ entries) (hp : p e)
    (hunique : ∀ e' ∈ entries, p e' → e' = e) : entries.find? p = some e := by
  cases hfound : entries.find? p with
  | none => exact absurd hp (List.find?_eq_none.mp hfound e he)
  | some found =>
      rw [hunique found (List.mem_of_find?_eq_some hfound) (List.find?_some hfound)]

theorem of_get?_eq_some {catalog : Catalog} {name : String} {entry : CatalogEntry}
    (h : catalog.get? name = some entry) :
    entry ∈ catalog.registered ∧ (entry.message.code = name ∨ entry.message.symbol = name) := by
  rcases Option.or_eq_some_iff.mp h with hcode | ⟨-, hsymbol⟩
  · exact ⟨List.mem_of_find?_eq_some hcode, .inl (by simpa using List.find?_some hcode)⟩
  · exact ⟨List.mem_of_find?_eq_some hsymbol, .inr (by simpa using List.find?_some hsymbol)⟩

namespace Unambiguous

variable {catalog : Catalog} {e e' : CatalogEntry} {name : String}

theorem eq_of_name (h : catalog.Unambiguous) (he : e ∈ catalog.registered)
    (he' : e' ∈ catalog.registered) (hname : e.message.code = name ∨ e.message.symbol = name)
    (hname' : e'.message.code = name ∨ e'.message.symbol = name) : e = e' := by
  by_contra hne
  have hsymm : Std.Symm (Function.onFun List.Disjoint
      fun e : CatalogEntry => [e.message.code, e.message.symbol]) :=
    ⟨fun _ _ hdisjoint => List.disjoint_symm hdisjoint⟩
  have hdisjoint := (List.nodup_flatMap.mp h).2.forall he he' hne
  exact hdisjoint (a := name) (by simpa [eq_comm] using hname) (by simpa [eq_comm] using hname')

theorem of_subset {other : Catalog} (h : catalog.Unambiguous)
    (hsubset : ∀ e ∈ other.registered, e ∈ catalog.registered)
    (hnodup : other.registered.Nodup) : other.Unambiguous := by
  apply List.nodup_flatMap.mpr
  refine ⟨fun e he => (List.nodup_flatMap.mp h).1 e (hsubset e he), ?_⟩
  refine hnodup.imp_of_mem ?_
  intro e e' he he' hne name hname hname'
  exact hne (h.eq_of_name (hsubset e he) (hsubset e' he') (by simpa [eq_comm] using hname)
    (by simpa [eq_comm] using hname'))

theorem code_ne_symbol (h : catalog.Unambiguous) (he : e ∈ catalog.registered) :
    e.message.code ≠ e.message.symbol := by
  simpa using (List.nodup_flatMap.mp h).1 e he

theorem codes_nodup (h : catalog.Unambiguous) :
    (catalog.registered.map (·.message.code)).Nodup :=
  List.Nodup.sublist (codes_sublist_names _) h

theorem byCode?_eq_some (h : catalog.Unambiguous) (he : e ∈ catalog.registered) :
    catalog.byCode? e.message.code = some e :=
  find?_eq_some_of_unique he (by simp) fun e' he' hcode =>
    h.eq_of_name he' he (.inl (by simpa using hcode)) (.inl rfl)

theorem bySymbol?_eq_some (h : catalog.Unambiguous) (he : e ∈ catalog.registered) :
    catalog.bySymbol? e.message.symbol = some e :=
  find?_eq_some_of_unique he (by simp) fun e' he' hsymbol =>
    h.eq_of_name he' he (.inr (by simpa using hsymbol)) (.inr rfl)

theorem byCode?_symbol (h : catalog.Unambiguous) (he : e ∈ catalog.registered) :
    catalog.byCode? e.message.symbol = none := by
  apply List.find?_eq_none.mpr
  intro e' he' hcode
  have hsame : e' = e := h.eq_of_name he' he (.inl (by simpa using hcode)) (.inr rfl)
  subst hsame
  exact h.code_ne_symbol he (by simpa using hcode)

/-- A name denotes a message exactly if it is its code or its symbol. -/
theorem get?_eq_some_iff (h : catalog.Unambiguous) :
    catalog.get? name = some e ↔
      e ∈ catalog.registered ∧ (e.message.code = name ∨ e.message.symbol = name) := by
  constructor
  · exact of_get?_eq_some
  · unfold get?
    rintro ⟨he, rfl | rfl⟩
    · rw [h.byCode?_eq_some he, Option.some_or]
    · rw [h.byCode?_symbol he, h.bySymbol?_eq_some he, Option.none_or]

end Unambiguous

theorem mem_codes {catalog : Catalog} {code : String} :
    code ∈ catalog.codes ↔ ∃ e ∈ catalog.registered, e.message.code = code := by
  simp [codes, entries]

end Catalog

namespace Policy

variable {catalog : Catalog} {code : String}

theorem mem_enableAll {enabled names : List String} :
    code ∈ enableAll catalog enabled names ↔
      code ∈ enabled ∨ ∃ name ∈ names, code ∈ codesNamed catalog name := by
  unfold enableAll
  induction names generalizing enabled with
  | nil => simp
  | cons name names ih =>
      simp only [List.foldl_cons, ih, List.mem_append, List.mem_cons, exists_eq_or_imp, or_assoc]

theorem mem_disableAll {enabled names : List String} :
    code ∈ disableAll catalog enabled names ↔
      code ∈ enabled ∧ ∀ name ∈ names, code ∉ codesNamed catalog name := by
  unfold disableAll
  induction names generalizing enabled with
  | nil => simp
  | cons name names ih =>
      rw [List.foldl_cons, ih, List.mem_filter, List.forall_mem_cons, and_assoc]
      simp only [Bool.not_eq_true', List.contains_eq_mem, decide_eq_false_iff_not]

/-- A message is reported if it is on by default or enabled, and not disabled. -/
theorem isEnabled_ofFilter {filter : MessageFilter} {overrides : List (String × Severity)} :
    (ofFilter catalog filter overrides).isEnabled code ↔
      (code ∈ defaultCodes catalog ∨
        ∃ name ∈ filter.enable, code ∈ codesNamed catalog name) ∧
      ∀ name ∈ filter.disable, code ∉ codesNamed catalog name := by
  rw [isEnabled, List.contains_iff_mem, ofFilter, mem_disableAll, mem_enableAll]

variable {e : CatalogEntry}

theorem mem_defaultCodes_iff : code ∈ defaultCodes catalog ↔
    ∃ e ∈ catalog.registered, e.message.code = code ∧ e.message.defaultEnabled := by
  simp only [defaultCodes, Catalog.entries, List.mem_map, List.mem_filter, List.mem_mergeSort]
  exact exists_congr fun e => ⟨fun ⟨⟨he, hon⟩, hcode⟩ => ⟨he, hcode, hon⟩,
    fun ⟨he, hcode, hon⟩ => ⟨⟨he, hon⟩, hcode⟩⟩

theorem mem_defaultCodes (h : catalog.Unambiguous) (he : e ∈ catalog.registered) :
    e.message.code ∈ defaultCodes catalog ↔ e.message.defaultEnabled := by
  rw [mem_defaultCodes_iff]
  constructor
  · rintro ⟨found, hfound, hcode, hon⟩
    have hsame : found = e := h.eq_of_name hfound he (.inl hcode) (.inl rfl)
    exact hsame ▸ hon
  · exact fun hon => ⟨e, he, rfl, hon⟩

theorem mem_codesNamed_iff {name : String} : code ∈ codesNamed catalog name ↔
    (name = "all" ∧ code ∈ catalog.codes) ∨
      (name ≠ "all" ∧ ∃ e, catalog.get? name = some e ∧ e.message.code = code) := by
  unfold codesNamed
  split <;> simp_all

theorem mem_codesNamed (h : catalog.Unambiguous) (he : e ∈ catalog.registered) {name : String} :
    e.message.code ∈ codesNamed catalog name ↔
      name = "all" ∨ e.message.code = name ∨ e.message.symbol = name := by
  rw [mem_codesNamed_iff]
  constructor
  · rintro (⟨hall, -⟩ | ⟨-, found, hfound, hcode⟩)
    · exact .inl hall
    · obtain ⟨hmem, hname⟩ := h.get?_eq_some_iff.mp hfound
      have hsame : found = e := h.eq_of_name hmem he (.inl hcode) (.inl rfl)
      exact .inr (hsame ▸ hname)
  · intro hname
    by_cases hall : name = "all"
    · exact .inl ⟨hall, Catalog.mem_codes.mpr ⟨e, he, rfl⟩⟩
    · exact .inr ⟨hall, e, h.get?_eq_some_iff.mpr ⟨he, hname.resolve_left hall⟩, rfl⟩

theorem lookup_map_of_nodup {entries : List CatalogEntry} {level : CatalogEntry → Severity}
    (h : (entries.map (·.message.code)).Nodup) (he : e ∈ entries) :
    (entries.map fun e => (e.message.code, level e)).lookup e.message.code = some (level e) := by
  induction entries with
  | nil => cases he
  | cons first entries ih =>
      rw [List.map_cons, List.nodup_cons] at h
      rcases List.mem_cons.mp he with rfl | he
      · simp
      · have hne : e.message.code ≠ first.message.code := fun hcode =>
          h.1 (hcode ▸ List.mem_map_of_mem he)
        rw [List.map_cons, List.lookup_cons, beq_eq_false_iff_ne.mpr hne]
        exact ih h.2 he

theorem severity_ofFilter (h : (catalog.registered.map (·.message.code)).Nodup)
    (he : e ∈ catalog.registered) (filter : MessageFilter) (overrides : List (String × Severity)) :
    (ofFilter catalog filter overrides).severity e.message.code = severityOf overrides e := by
  have hsorted : catalog.entries.Perm catalog.registered := List.mergeSort_perm ..
  rw [severity, ofFilter,
    lookup_map_of_nodup ((hsorted.map _).nodup_iff.mpr h) (hsorted.mem_iff.mpr he),
    Option.getD_some]

/-- Whether a message is reported depends on its entry only. -/
theorem isEnabled_eq_of_mem {other : Catalog} (h : catalog.Unambiguous) (hother : other.Unambiguous)
    (he : e ∈ catalog.registered) (he' : e ∈ other.registered) (filter : MessageFilter)
    (overrides : List (String × Severity)) :
    (ofFilter catalog filter overrides).isEnabled e.message.code =
      (ofFilter other filter overrides).isEnabled e.message.code := by
  rw [Bool.eq_iff_iff, isEnabled_ofFilter, isEnabled_ofFilter, mem_defaultCodes h he,
    mem_defaultCodes hother he']
  simp only [mem_codesNamed h he, mem_codesNamed hother he']

end Policy

end CodingStandard
