import CodingStandard.Message.Catalog
import Std.Data.HashMap

namespace CodingStandard

/-!
# Catalogs with indexes

A catalog that is asked often keeps the places of its entries in two indexes, one by code and one
by symbol.
-/

/-- A catalog with an index of the codes and one of the symbols. -/
structure IndexedCatalog where
  registered : Array CatalogEntry
  codeIndex : Std.HashMap String Nat
  symbolIndex : Std.HashMap String Nat

namespace IndexedCatalog

def empty : IndexedCatalog := ⟨#[], ∅, ∅⟩

/-- Adds an entry at the end and notes its place in both indexes. -/
def push (catalog : IndexedCatalog) (checker : String) (msg : MessageDef) : IndexedCatalog where
  registered := catalog.registered.push ⟨msg, checker⟩
  codeIndex := catalog.codeIndex.insert msg.code catalog.registered.size
  symbolIndex := catalog.symbolIndex.insert msg.symbol catalog.registered.size

def initial : IndexedCatalog := empty.push Catalog.host Catalog.abortMessage

def byCode? (catalog : IndexedCatalog) (code : String) : Option CatalogEntry :=
  catalog.codeIndex[code]?.bind fun i => catalog.registered[i]?

def bySymbol? (catalog : IndexedCatalog) (symbol : String) : Option CatalogEntry :=
  catalog.symbolIndex[symbol]?.bind fun i => catalog.registered[i]?

def get? (catalog : IndexedCatalog) (name : String) : Option CatalogEntry :=
  (catalog.codeIndex[name]?.or catalog.symbolIndex[name]?).bind fun i => catalog.registered[i]?

def conflict? (catalog : IndexedCatalog) (checker : String) (msg : MessageDef) :
    Option CatalogError :=
  match catalog.byCode? msg.code with
  | some taken => some (.duplicateCode msg.code taken.checker checker)
  | none =>
    (catalog.bySymbol? msg.symbol).map fun taken =>
      .duplicateSymbol msg.symbol taken.checker checker

def register (catalog : IndexedCatalog) (checker : String) :
    List MessageDef → IndexedCatalog × Option CatalogError
  | [] => (catalog, none)
  | msg :: rest =>
    match catalog.conflict? checker msg with
    | some error => (catalog, some error)
    | none => (catalog.push checker msg).register checker rest

def toCatalog (catalog : IndexedCatalog) : Catalog := ⟨catalog.registered.toList⟩

def entries (catalog : IndexedCatalog) : List CatalogEntry := catalog.toCatalog.entries

def size (catalog : IndexedCatalog) : Nat := catalog.registered.size

end IndexedCatalog

end CodingStandard
