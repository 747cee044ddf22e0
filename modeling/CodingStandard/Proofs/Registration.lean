import CodingStandard.Message.Index
import CodingStandard.Proofs.Messages
import Mathlib.Data.List.Perm.Basic

namespace CodingStandard

/-!
# Registering messages

The codes of a catalog are distinct and so are its symbols, and its two indexes lead from each of
them to the place of its entry and to no other place. A call that registers messages keeps this
whether it succeeds or stops at a message that is taken. Calls therefore succeed together exactly if
all their codes and all their symbols are distinct, which does not depend on their order.
-/

theorem isLE_total {α : Type} {cmp : α → α → Ordering} [Std.TransCmp cmp] (a b : α) :
    ((cmp a b).isLE || (cmp b a).isLE) = true := by
  have hswap : cmp b a = (cmp a b).swap := Std.OrientedCmp.eq_swap
  rw [hswap]
  cases cmp a b <;> rfl

namespace Catalog

variable {entries entries' : List CatalogEntry} {e : CatalogEntry} {msg : MessageDef}
  {msgs : List MessageDef} {checker : String} {error : CatalogError}

/-! ## Names that are taken -/

/-- No two entries share a code, and no two share a symbol. -/
structure Distinct (entries : List CatalogEntry) : Prop where
  codes : (entries.map (·.message.code)).Nodup
  symbols : (entries.map (·.message.symbol)).Nodup

instance : Decidable (Distinct entries) :=
  decidable_of_iff ((entries.map (·.message.code)).Nodup ∧ (entries.map (·.message.symbol)).Nodup)
    ⟨fun h => ⟨h.1, h.2⟩, fun h => ⟨h.codes, h.symbols⟩⟩

/-- Neither the code nor the symbol of a message belongs to an entry. -/
def Free (entries : List CatalogEntry) (msg : MessageDef) : Prop :=
  ∀ e ∈ entries, e.message.code ≠ msg.code ∧ e.message.symbol ≠ msg.symbol

/-- The messages are free one after the other, each with those before it already added. -/
def AllFree (entries : List CatalogEntry) (checker : String) (msgs : List MessageDef) : Prop :=
  ∀ before msg after, msgs = before ++ msg :: after → Free (entries ++ entriesOf checker before) msg

/-- The error that names an entry in the way of a message: one that has its code or, if there is
none, one that has its symbol. -/
inductive Taken (entries : List CatalogEntry) (checker : String) (msg : MessageDef) :
    CatalogError → Prop
  | code {e : CatalogEntry} (he : e ∈ entries) (hcode : e.message.code = msg.code) :
      Taken entries checker msg (.duplicateCode msg.code e.checker checker)
  | symbol {e : CatalogEntry} (hfree : ∀ e ∈ entries, e.message.code ≠ msg.code)
      (he : e ∈ entries) (hsymbol : e.message.symbol = msg.symbol) :
      Taken entries checker msg (.duplicateSymbol msg.symbol e.checker checker)

/-- What a call may make of the entries: it adds all its messages, or those before the first one
that is taken. -/
inductive Registers (entries : List CatalogEntry) (checker : String) :
    List MessageDef → List CatalogEntry → Option CatalogError → Prop
  | all {msgs : List MessageDef} (hfree : AllFree entries checker msgs) :
      Registers entries checker msgs (entries ++ entriesOf checker msgs) none
  | upTo {before after : List MessageDef} {msg : MessageDef} {error : CatalogError}
      (hfree : AllFree entries checker before)
      (htaken : Taken (entries ++ entriesOf checker before) checker msg error) :
      Registers entries checker (before ++ msg :: after) (entries ++ entriesOf checker before)
        (some error)

theorem Distinct.perm (h : Distinct entries) (hperm : entries.Perm entries') :
    Distinct entries' :=
  ⟨(hperm.map _).nodup_iff.mp h.codes, (hperm.map _).nodup_iff.mp h.symbols⟩

theorem Distinct.of_append_left (h : Distinct (entries ++ entries')) : Distinct entries :=
  ⟨(List.nodup_append.mp (List.map_append ▸ h.codes)).1,
    (List.nodup_append.mp (List.map_append ▸ h.symbols)).1⟩

theorem distinct_concat : Distinct (entries ++ [⟨msg, checker⟩]) ↔
    Distinct entries ∧ Free entries msg := by
  constructor
  · intro h
    have hcodes := List.disjoint_of_nodup_append (List.map_append ▸ h.codes)
    have hsymbols := List.disjoint_of_nodup_append (List.map_append ▸ h.symbols)
    refine ⟨h.of_append_left, fun e he => ⟨fun hcode => ?_, fun hsymbol => ?_⟩⟩
    · exact hcodes (List.mem_map_of_mem he) (by simp [hcode])
    · exact hsymbols (List.mem_map_of_mem he) (by simp [hsymbol])
  · rintro ⟨h, hfree⟩
    constructor
    · rw [List.map_append, List.nodup_append]
      exact ⟨h.codes, by simp, by simpa using fun e he => (hfree e he).1⟩
    · rw [List.map_append, List.nodup_append]
      exact ⟨h.symbols, by simp, by simpa using fun e he => (hfree e he).2⟩

@[simp] theorem entriesOf_nil : entriesOf checker [] = [] := rfl

@[simp] theorem entriesOf_cons : entriesOf checker (msg :: msgs) =
    ⟨msg, checker⟩ :: entriesOf checker msgs := rfl

theorem allFree_nil : AllFree entries checker [] := by simp [AllFree]

theorem allFree_cons : AllFree entries checker (msg :: msgs) ↔
    Free entries msg ∧ AllFree (entries ++ [⟨msg, checker⟩]) checker msgs := by
  constructor
  · intro h
    refine ⟨by simpa using h [] msg msgs rfl, fun before msg' after hmsgs => ?_⟩
    simpa using h (msg :: before) msg' after (by simp [hmsgs])
  · rintro ⟨hfirst, hrest⟩ before msg' after hmsgs
    cases before with
    | nil =>
        obtain ⟨rfl, rfl⟩ := List.cons.inj hmsgs
        simpa using hfirst
    | cons first before =>
        obtain ⟨rfl, rfl⟩ := List.cons.inj hmsgs
        simpa using hrest before msg' after rfl

theorem allFree_iff_distinct (h : Distinct entries) :
    AllFree entries checker msgs ↔ Distinct (entries ++ entriesOf checker msgs) := by
  -- Each message in turn moves to the entries that are distinct.
  induction msgs generalizing entries with
  | nil => simpa [allFree_nil] using h
  | cons msg msgs ih =>
      rw [allFree_cons]
      have hsplit : entries ++ entriesOf checker (msg :: msgs) =
          entries ++ [⟨msg, checker⟩] ++ entriesOf checker msgs := by simp
      constructor
      · rintro ⟨hfirst, hrest⟩
        rw [hsplit]
        exact (ih (distinct_concat.mpr ⟨h, hfirst⟩)).mp hrest
      · intro hall
        rw [hsplit] at hall
        have hfront := hall.of_append_left
        exact ⟨(distinct_concat.mp hfront).2, (ih hfront).mpr hall⟩

theorem Registers.cons_of_free (hfree : Free entries msg) {outcome : Option CatalogError}
    (h : Registers (entries ++ [⟨msg, checker⟩]) checker msgs entries' outcome) :
    Registers entries checker (msg :: msgs) entries' outcome := by
  cases h with
  | all hrest =>
      simpa using Registers.all (allFree_cons.mpr ⟨hfree, hrest⟩)
  | @upTo before after msg' error hrest htaken =>
      have h : Registers entries checker (msg :: before ++ msg' :: after)
          (entries ++ entriesOf checker (msg :: before)) (some error) :=
        .upTo (allFree_cons.mpr ⟨hfree, hrest⟩) (by simpa using htaken)
      simpa using h

theorem Registers.of_taken (h : Taken entries checker msg error) :
    Registers entries checker (msg :: msgs) entries (some error) := by
  have hfirst : Registers entries checker ([] ++ msg :: msgs) (entries ++ entriesOf checker [])
      (some error) := .upTo allFree_nil (by simpa using h)
  simpa using hfirst

theorem Registers.succeeds_iff {outcome : Option CatalogError} (hentries : Distinct entries)
    (hentries' : Distinct entries') (h : Registers entries checker msgs entries' outcome) :
    outcome = none ↔ Distinct (entries ++ entriesOf checker msgs) := by
  cases h with
  | all hfree => exact ⟨fun _ => (allFree_iff_distinct hentries).mp hfree, fun _ => rfl⟩
  | @upTo before after msg error hfree htaken =>
      refine ⟨nofun, fun hdistinct => ?_⟩
      have hmsg := (allFree_iff_distinct hentries).mpr hdistinct before msg after rfl
      cases htaken with
      | code he hcode => exact absurd hcode (hmsg _ he).1
      | symbol hcodes he hsymbol => exact absurd hsymbol (hmsg _ he).2

theorem Registers.eq_of_succeeds {outcome : Option CatalogError}
    (h : Registers entries checker msgs entries' outcome) (hnone : outcome = none) :
    entries' = entries ++ entriesOf checker msgs := by
  cases h with
  | all => rfl
  | upTo => cases hnone

theorem Unambiguous.distinct {c : Catalog} (h : c.Unambiguous) : Distinct c.registered :=
  ⟨h.codes_nodup, h.sublist (symbols_sublist_names _)⟩

/-! ## The order of the codes -/

/-- Catalogs with the same members, all with codes of their own, list them in the same order. -/
theorem entries_eq_of_perm {c c' : Catalog} (h : Distinct c.registered)
    (hperm : c.registered.Perm c'.registered) : c.entries = c'.entries := by
  have hsorted (catalog : Catalog) : catalog.entries.Pairwise fun a b =>
      (compare a.message.code b.message.code).isLE :=
    List.pairwise_mergeSort (fun _ _ _ => Std.TransCmp.isLE_trans)
      (fun a b : CatalogEntry => isLE_total a.message.code b.message.code) _
  apply List.Perm.eq_of_pairwise _ (hsorted c) (hsorted c')
  · exact (List.mergeSort_perm ..).trans (hperm.trans (List.mergeSort_perm ..).symm)
  · intro a b ha hb hab hba
    have hcode : a.message.code = b.message.code :=
      Std.LawfulEqCmp.eq_of_compare (Std.OrientedCmp.isLE_antisymm hab hba)
    have ha : a ∈ c.registered := List.mem_mergeSort.mp ha
    have hb : b ∈ c.registered := hperm.mem_iff.mpr (List.mem_mergeSort.mp hb)
    exact List.inj_on_of_nodup_map h.codes ha hb hcode

end Catalog

/-! ## Indexes -/

/-- An index leads from the name of every entry to the place of that entry, and nowhere else. -/
def Indexes (index : Std.HashMap String Nat) (registered : Array CatalogEntry)
    (name : CatalogEntry → String) : Prop :=
  ∀ text i, index[text]? = some i ↔ ∃ e, registered[i]? = some e ∧ name e = text

namespace Indexes

variable {index : Std.HashMap String Nat} {registered : Array CatalogEntry}
  {name : CatalogEntry → String} {e : CatalogEntry} {text : String}

theorem bind_eq_some_iff (h : Indexes index registered name) :
    (index[text]?.bind fun i => registered[i]?) = some e ↔
      e ∈ registered.toList ∧ name e = text := by
  rw [Option.bind_eq_some_iff, Array.mem_toList_iff, Array.mem_iff_getElem?]
  constructor
  · rintro ⟨i, hi, he⟩
    obtain ⟨e', he', hname⟩ := (h text i).mp hi
    obtain rfl : e' = e := Option.some.inj (he'.symm.trans he)
    exact ⟨⟨i, he⟩, hname⟩
  · rintro ⟨⟨i, he⟩, hname⟩
    exact ⟨i, (h text i).mpr ⟨e, he, hname⟩, he⟩

theorem find?_eq (h : Indexes index registered name)
    (hnodup : (registered.toList.map name).Nodup) :
    registered.toList.find? (name · == text) = index[text]?.bind fun i => registered[i]? := by
  ext e
  rw [h.bind_eq_some_iff]
  constructor
  · intro he
    exact ⟨List.mem_of_find?_eq_some he, by simpa using List.find?_some he⟩
  · rintro ⟨he, rfl⟩
    refine Catalog.find?_eq_some_of_unique he (by simp) fun e' he' hname => ?_
    exact List.inj_on_of_nodup_map hnodup he' he (by simpa using hname)

theorem exists_of_eq_some (h : Indexes index registered name) {i : Nat}
    (hi : index[text]? = some i) : ∃ e, registered[i]? = some e := by
  obtain ⟨e, he, -⟩ := (h text i).mp hi
  exact ⟨e, he⟩

theorem push (h : Indexes index registered name)
    (hfree : ∀ e' ∈ registered.toList, name e' ≠ name e) :
    Indexes (index.insert (name e) registered.size) (registered.push e) name := by
  intro text i
  rw [Std.HashMap.getElem?_insert, Array.getElem?_push]
  -- The name of the new entry leads to the new place because no older entry has it. Any other name
  -- leads where it led before, and never to the new place.
  by_cases htext : name e = text
  · subst htext
    rw [if_pos BEq.rfl]
    constructor
    · rintro ⟨⟩
      exact ⟨e, if_pos rfl, rfl⟩
    · rintro ⟨e', he', hname⟩
      split at he'
      next hi => exact congrArg some hi.symm
      next =>
        have hmem : e' ∈ registered.toList := Array.mem_toList_iff.mpr (Array.mem_of_getElem? he')
        exact absurd hname (hfree e' hmem)
  · rw [if_neg (by simpa using htext), h text i]
    refine exists_congr fun e' => and_congr_left fun hname => ?_
    split
    next hi =>
      subst hi
      rw [Array.getElem?_size]
      refine ⟨nofun, fun he' => ?_⟩
      obtain rfl : e = e' := Option.some.inj he'
      exact absurd hname htext
    next => exact Iff.rfl

end Indexes

namespace IndexedCatalog

open Catalog (Distinct Free AllFree Taken Registers entriesOf)

variable {catalog catalog' : IndexedCatalog} {e : CatalogEntry} {msg : MessageDef}
  {msgs : List MessageDef} {checker name code symbol : String} {error : CatalogError}

/-- The codes and the symbols are distinct, and the indexes are in step with the entries. -/
structure Sound (catalog : IndexedCatalog) : Prop where
  distinct : Distinct catalog.registered.toList
  codeIndex : Indexes catalog.codeIndex catalog.registered (·.message.code)
  symbolIndex : Indexes catalog.symbolIndex catalog.registered (·.message.symbol)

@[simp] theorem registered_push :
    (catalog.push checker msg).registered.toList =
      catalog.registered.toList ++ [⟨msg, checker⟩] :=
  Array.toList_push

namespace Sound

theorem empty : Sound empty := by
  constructor
  · decide
  · simp [Indexes, IndexedCatalog.empty]
  · simp [Indexes, IndexedCatalog.empty]

theorem push (h : catalog.Sound) (hfree : Free catalog.registered.toList msg) :
    (catalog.push checker msg).Sound where
  distinct := by
    rw [registered_push]
    exact Catalog.distinct_concat.mpr ⟨h.distinct, hfree⟩
  codeIndex := Indexes.push (e := ⟨msg, checker⟩) h.codeIndex fun e he => (hfree e he).1
  symbolIndex := Indexes.push (e := ⟨msg, checker⟩) h.symbolIndex fun e he => (hfree e he).2

theorem initial : Sound initial :=
  empty.push nofun

theorem byCode?_eq_some_iff (h : catalog.Sound) :
    catalog.byCode? code = some e ↔
      e ∈ catalog.registered.toList ∧ e.message.code = code :=
  h.codeIndex.bind_eq_some_iff

theorem bySymbol?_eq_some_iff (h : catalog.Sound) :
    catalog.bySymbol? symbol = some e ↔
      e ∈ catalog.registered.toList ∧ e.message.symbol = symbol :=
  h.symbolIndex.bind_eq_some_iff

theorem get?_eq (h : catalog.Sound) :
    catalog.get? name = (catalog.byCode? name).or (catalog.bySymbol? name) := by
  unfold get? byCode? bySymbol?
  cases hcode : catalog.codeIndex[name]? with
  | none => rfl
  | some i =>
      obtain ⟨e, he⟩ := h.codeIndex.exists_of_eq_some hcode
      simp [he]

theorem byCode?_toCatalog (h : catalog.Sound) :
    catalog.toCatalog.byCode? code = catalog.byCode? code :=
  h.codeIndex.find?_eq h.distinct.codes

theorem bySymbol?_toCatalog (h : catalog.Sound) :
    catalog.toCatalog.bySymbol? symbol = catalog.bySymbol? symbol :=
  h.symbolIndex.find?_eq h.distinct.symbols

theorem conflict?_toCatalog (h : catalog.Sound) :
    catalog.toCatalog.conflict? checker msg = catalog.conflict? checker msg := by
  cases hcode : catalog.byCode? msg.code with
  | some taken => simp [conflict?, Catalog.conflict?, h.byCode?_toCatalog, hcode]
  | none =>
      simp [conflict?, Catalog.conflict?, h.byCode?_toCatalog, h.bySymbol?_toCatalog, hcode]

theorem free_of_conflict? (h : catalog.Sound) (hnone : catalog.conflict? checker msg = none) :
    Free catalog.registered.toList msg := by
  unfold conflict? at hnone
  split at hnone
  next => cases hnone
  next hcode =>
    rw [Option.map_eq_none_iff] at hnone
    intro e he
    constructor
    · intro heq
      exact absurd (h.byCode?_eq_some_iff.mpr ⟨he, heq⟩) (by simp [hcode])
    · intro heq
      exact absurd (h.bySymbol?_eq_some_iff.mpr ⟨he, heq⟩) (by simp [hnone])

theorem taken_of_conflict? (h : catalog.Sound)
    (hsome : catalog.conflict? checker msg = some error) :
    Taken catalog.registered.toList checker msg error := by
  unfold conflict? at hsome
  split at hsome
  next e hcode =>
    obtain ⟨he, heq⟩ := h.byCode?_eq_some_iff.mp hcode
    obtain rfl := Option.some.inj hsome
    exact .code he heq
  next hcode =>
    obtain ⟨e, hsymbol, rfl⟩ := Option.map_eq_some_iff.mp hsome
    obtain ⟨he, heq⟩ := h.bySymbol?_eq_some_iff.mp hsymbol
    refine .symbol (fun e' he' heq' => ?_) he heq
    exact absurd (h.byCode?_eq_some_iff.mpr ⟨he', heq'⟩) (by simp [hcode])

theorem register (h : catalog.Sound) (checker : String) (msgs : List MessageDef) :
    (catalog.register checker msgs).1.Sound ∧
      Registers catalog.registered.toList checker msgs
        (catalog.register checker msgs).1.registered.toList
        (catalog.register checker msgs).2 := by
  induction msgs generalizing catalog with
  | nil =>
      refine ⟨h, ?_⟩
      simpa [IndexedCatalog.register] using Registers.all Catalog.allFree_nil
  | cons msg msgs ih =>
      unfold IndexedCatalog.register
      split
      next error hconflict => exact ⟨h, .of_taken (h.taken_of_conflict? hconflict)⟩
      next hconflict =>
        have hfree := h.free_of_conflict? hconflict
        obtain ⟨hsound, hrest⟩ := ih (h.push hfree)
        rw [registered_push] at hrest
        exact ⟨hsound, hrest.cons_of_free hfree⟩

/-- A catalog with indexes registers messages as one without them does. -/
theorem register_toCatalog (h : catalog.Sound) :
    catalog.toCatalog.register checker msgs =
      ((catalog.register checker msgs).1.toCatalog, (catalog.register checker msgs).2) := by
  induction msgs generalizing catalog with
  | nil => rfl
  | cons msg msgs ih =>
      rw [Catalog.register, IndexedCatalog.register, h.conflict?_toCatalog]
      cases hconflict : catalog.conflict? checker msg with
      | some error => rfl
      | none =>
          have hpush : catalog.toCatalog.push checker msg =
              (catalog.push checker msg).toCatalog := by
            simp [Catalog.push, toCatalog]
          simpa only [hpush] using ih (h.push (h.free_of_conflict? hconflict))

theorem get?_eq_of_perm (h : catalog.Sound) (h' : catalog'.Sound)
    (hperm : catalog.registered.toList.Perm catalog'.registered.toList) :
    catalog.get? name = catalog'.get? name := by
  have hcode : catalog.byCode? name = catalog'.byCode? name := by
    ext e
    rw [h.byCode?_eq_some_iff, h'.byCode?_eq_some_iff, hperm.mem_iff]
  have hsymbol : catalog.bySymbol? name = catalog'.bySymbol? name := by
    ext e
    rw [h.bySymbol?_eq_some_iff, h'.bySymbol?_eq_some_iff, hperm.mem_iff]
  rw [h.get?_eq, h'.get?_eq, hcode, hsymbol]

end Sound

/-! ## Calls one after the other -/

/-- A call that registers messages. -/
structure Registration where
  checker : String
  messages : List MessageDef

/-- What a call would add if all its messages were free. -/
def Registration.entries (call : Registration) : List CatalogEntry :=
  entriesOf call.checker call.messages

/-- The catalog after calls, whether they succeed or not. -/
def after (catalog : IndexedCatalog) (calls : List Registration) : IndexedCatalog :=
  calls.foldl (fun catalog call => (catalog.register call.checker call.messages).1) catalog

/-- What the calls return. -/
def outcomes (catalog : IndexedCatalog) : List Registration → List (Option CatalogError)
  | [] => []
  | call :: calls =>
    let (catalog, outcome) := catalog.register call.checker call.messages
    outcome :: catalog.outcomes calls

/-- No call returns an error. -/
def AllSucceed (catalog : IndexedCatalog) (calls : List Registration) : Prop :=
  ∀ outcome ∈ catalog.outcomes calls, outcome = none

variable {call : Registration} {calls calls' : List Registration}

theorem allSucceed_cons : catalog.AllSucceed (call :: calls) ↔
    (catalog.register call.checker call.messages).2 = none ∧
      (catalog.register call.checker call.messages).1.AllSucceed calls := by
  simp [AllSucceed, outcomes]

theorem Sound.after (h : catalog.Sound) : (catalog.after calls).Sound := by
  induction calls generalizing catalog with
  | nil => exact h
  | cons call calls ih => exact ih (h.register call.checker call.messages).1

/-- Calls succeed together exactly if one catalog can hold all that they declare. -/
theorem Sound.allSucceed_iff (h : catalog.Sound) : catalog.AllSucceed calls ↔
    Distinct (catalog.registered.toList ++ calls.flatMap Registration.entries) := by
  -- Both sides are about the catalog the calls start from, which the first call changes.
  induction calls generalizing catalog with
  | nil => simpa [AllSucceed, outcomes] using h.distinct
  | cons call calls ih =>
      obtain ⟨hsound, hregisters⟩ := h.register call.checker call.messages
      have hsucceeds := hregisters.succeeds_iff h.distinct hsound.distinct
      have hrest (hnone : (catalog.register call.checker call.messages).2 = none) :
          (catalog.register call.checker call.messages).1.AllSucceed calls ↔
            Distinct (catalog.registered.toList ++
              (call :: calls).flatMap Registration.entries) := by
        rw [ih hsound, hregisters.eq_of_succeeds hnone, List.flatMap_cons, List.append_assoc]
        rfl
      rw [allSucceed_cons]
      constructor
      · rintro ⟨hnone, hcalls⟩
        exact (hrest hnone).mp hcalls
      · intro hdistinct
        have hfront : Distinct (catalog.registered.toList ++ call.entries) := by
          rw [List.flatMap_cons, ← List.append_assoc] at hdistinct
          exact hdistinct.of_append_left
        have hnone := hsucceeds.mpr hfront
        exact ⟨hnone, (hrest hnone).mpr hdistinct⟩

theorem Sound.registered_after (h : catalog.Sound) (hcalls : catalog.AllSucceed calls) :
    (catalog.after calls).registered.toList =
      catalog.registered.toList ++ calls.flatMap Registration.entries := by
  induction calls generalizing catalog with
  | nil => simp [IndexedCatalog.after]
  | cons call calls ih =>
      rw [allSucceed_cons] at hcalls
      obtain ⟨hsound, hregisters⟩ := h.register call.checker call.messages
      have hrest : (catalog.after (call :: calls)).registered.toList = _ := ih hsound hcalls.2
      rw [hrest, hregisters.eq_of_succeeds hcalls.1, List.flatMap_cons, List.append_assoc]
      rfl

/-- Whatever calls have been made, the codes and the symbols are distinct, the indexes lead to
their entries alone, and the next call adds all its messages or those before the first that is
taken. Whether calls all succeed does not depend on their order, and if they do, neither do the
answers of the catalog. -/
theorem after_soundInAnyOrder (start : IndexedCatalog) (hstart : start = empty ∨ start = initial)
    (calls : List Registration) :
    (start.after calls).Sound ∧
      (∀ checker msgs, Registers (start.after calls).registered.toList checker msgs
        ((start.after calls).register checker msgs).1.registered.toList
        ((start.after calls).register checker msgs).2) ∧
      ∀ calls', calls'.Perm calls →
        (start.AllSucceed calls' ↔ start.AllSucceed calls) ∧
          (start.AllSucceed calls →
            (∀ name, (start.after calls').get? name = (start.after calls).get? name) ∧
              (start.after calls').entries = (start.after calls).entries) := by
  have hsound : start.Sound := by
    rcases hstart with rfl | rfl
    · exact Sound.empty
    · exact Sound.initial
  refine ⟨hsound.after, fun checker msgs => (hsound.after.register checker msgs).2, ?_⟩
  intro calls' hperm
  -- Success and answers both depend on what is declared only up to its order.
  have hdeclared : (start.registered.toList ++ calls'.flatMap Registration.entries).Perm
      (start.registered.toList ++ calls.flatMap Registration.entries) :=
    (hperm.flatMap_right _).append_left _
  have hsucceed : start.AllSucceed calls' ↔ start.AllSucceed calls := by
    rw [hsound.allSucceed_iff, hsound.allSucceed_iff]
    exact ⟨fun h => h.perm hdeclared, fun h => h.perm hdeclared.symm⟩
  refine ⟨hsucceed, fun hcalls => ?_⟩
  have hregistered : (start.after calls').registered.toList.Perm
      (start.after calls).registered.toList := by
    rwa [hsound.registered_after (hsucceed.mpr hcalls), hsound.registered_after hcalls]
  exact ⟨fun name => hsound.after.get?_eq_of_perm hsound.after hregistered,
    Catalog.entries_eq_of_perm hsound.after.distinct hregistered⟩

theorem after_soundInAnyOrder_swapped :
    let spacing : Registration := ⟨"spacing", [⟨"W9010", "trailing-whitespace", "", "", true⟩]⟩
    let names : Registration := ⟨"names", [⟨"W9011", "W9010", "", "", true⟩]⟩
    (initial.after [spacing, names]).Sound ∧ initial.AllSucceed [spacing, names] ∧
      initial.AllSucceed [names, spacing] ∧
      (initial.after [names, spacing]).get? "W9010" =
        (initial.after [spacing, names]).get? "W9010" := by
  intro spacing names
  obtain ⟨hsound, -, horder⟩ := after_soundInAnyOrder initial (.inr rfl) [spacing, names]
  obtain ⟨hsucceed, hanswers⟩ := horder [names, spacing] (List.Perm.swap ..)
  have hcalls : initial.AllSucceed [spacing, names] := by
    rw [Sound.initial.allSucceed_iff]
    decide
  exact ⟨hsound, hcalls, hsucceed.mpr hcalls, (hanswers hcalls).1 "W9010"⟩

end IndexedCatalog

end CodingStandard
