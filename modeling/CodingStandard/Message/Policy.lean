import CodingStandard.Message.Catalog

namespace CodingStandard

/-!
# Which messages are reported

A policy is computed once from the catalog and the configuration: the messages that are on by
default, then those that are enabled, then, with the last word, those that are disabled.
-/

/-- The lists of names that turn messages on and off. -/
structure MessageFilter where
  enable : List String
  disable : List String
  deriving DecidableEq, Repr

def MessageFilter.none : MessageFilter := ⟨[], []⟩

/-- The reported messages and their severities. -/
structure Policy where
  enabled : List String
  severities : List (String × Severity)
  deriving DecidableEq, Repr

namespace Policy

def silent : Policy := ⟨[], []⟩

/-- The codes that a name stands for: all of them for `all`, none for an unknown name. -/
def codesNamed (catalog : Catalog) (name : String) : List String :=
  if name = "all" then catalog.codes
  else ((catalog.get? name).map (·.message.code)).toList

def enableAll (catalog : Catalog) (enabled : List String) (names : List String) : List String :=
  names.foldl (fun on name => on ++ codesNamed catalog name) enabled

def disableAll (catalog : Catalog) (enabled : List String) (names : List String) : List String :=
  names.foldl (fun on name => on.filter (!(codesNamed catalog name).contains ·)) enabled

def defaultCodes (catalog : Catalog) : List String :=
  (catalog.entries.filter (·.message.defaultEnabled)).map (·.message.code)

/-- The severity of an entry: that of its checker if one is set, else that of its code. -/
def severityOf (overrides : List (String × Severity)) (entry : CatalogEntry) : Severity :=
  (overrides.lookup entry.checker).getD entry.message.severity

def ofFilter (catalog : Catalog) (filter : MessageFilter)
    (overrides : List (String × Severity)) : Policy where
  enabled :=
    disableAll catalog (enableAll catalog (defaultCodes catalog) filter.enable) filter.disable
  severities := catalog.entries.map fun e => (e.message.code, severityOf overrides e)

def defaults (catalog : Catalog) : Policy := ofFilter catalog .none []

def allEnabled (catalog : Catalog) : Policy where
  enabled := catalog.codes
  severities := catalog.entries.map fun e => (e.message.code, e.message.severity)

def isEnabled (policy : Policy) (code : String) : Bool := policy.enabled.contains code

def severity (policy : Policy) (code : String) : Severity :=
  (policy.severities.lookup code).getD (.ofCode code)

end Policy

end CodingStandard
