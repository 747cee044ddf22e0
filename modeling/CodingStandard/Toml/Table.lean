import CodingStandard.Toml.Value

namespace CodingStandard

/-!
# Tables under construction

A table is filled by entries with dotted keys and by headers. What may extend it depends on how
it came to be: a header opens a table once, a dotted key extends tables that dotted keys made,
and a value is never extended.
-/

namespace Toml

/-- How a table came to be. -/
inductive Origin where
  /-- It encloses a table that a header names. -/
  | implied
  /-- It encloses a value that a dotted key names. -/
  | dotted
  /-- A header names it. -/
  | opened
  deriving DecidableEq, Repr

/-- What a key of a table under construction stands for. -/
inductive Entry where
  | value (value : Toml)
  | table (origin : Origin) (entries : List (String × Entry))
  /-- An array to which each of its headers adds a table. -/
  | tables (items : List (List (String × Entry)))
  deriving Repr

mutual

def Entry.finish : Entry → Toml
  | .value value => value
  | .table _ entries => .table (finishAll entries)
  | .tables items => .array (finishTables items)

def finishAll : List (String × Entry) → List (String × Toml)
  | [] => []
  | (key, entry) :: rest => (key, entry.finish) :: finishAll rest

def finishTables : List (List (String × Entry)) → List Toml
  | [] => []
  | entries :: rest => .table (finishAll entries) :: finishTables rest

end

abbrev Table := List (String × Entry)

namespace Table

/-- The table with an entry under a key, in place of any other one. -/
def set (t : Table) (key : String) (entry : Entry) : Table :=
  match t with
  | [] => [(key, entry)]
  | (k, e) :: rest => if k = key then (k, entry) :: rest else (k, e) :: set rest key entry

def changeLast (change : Table → Option Table) : List Table → Option (List Table)
  | [] => none
  | [last] => (change last).map ([·])
  | first :: rest => (changeLast change rest).map (first :: ·)

/-- Changes the table that a path of keys leads to. Tables that are missing on the way are implied,
and a path that meets an array of tables goes on in the last of them. -/
def changeAt (change : Table → Option Table) : (path : List String) → Table → Option Table
  | [], t => change t
  | key :: path, t =>
    match t.lookup key with
    | none => do some (Table.set t key (.table .implied (← changeAt change path [])))
    | some (.table origin inner) => do
      some (Table.set t key (.table origin (← changeAt change path inner)))
    | some (.tables items) => do
      some (Table.set t key (.tables (← changeLast (changeAt change path) items)))
    | some (.value _) => none

/-- Opens the table that a header names. -/
def openTable (key : String) (t : Table) : Option Table :=
  match t.lookup key with
  | none => some (Table.set t key (.table .opened []))
  | some (.table .implied inner) => some (Table.set t key (.table .opened inner))
  | some _ => none

/-- Adds a table to the array that a header names. -/
def addTable (key : String) (t : Table) : Option Table :=
  match t.lookup key with
  | none => some (Table.set t key (.tables [[]]))
  | some (.tables items) => some (Table.set t key (.tables (items ++ [[]])))
  | some _ => none

/-- Puts a value under a key that is free. -/
def insert (key : String) (value : Toml) (t : Table) : Option Table :=
  if (t.lookup key).isSome then none else some (t ++ [(key, .value value)])

/-- Puts a value under a dotted key, of which the last part is `key`. The table around the value is
one that dotted keys made, and the tables further out are not opened by a header. -/
def insertAt (key : String) (value : Toml) : (path : List String) → Table → Option Table
  | [], t => insert key value t
  | part :: path, t =>
    match t.lookup part with
    | none => do some (Table.set t part (.table .dotted (← insertAt key value path [])))
    | some (.table origin inner) =>
      if origin = .opened ∨ (path = [] ∧ origin = .implied) then none
      else do some (Table.set t part (.table origin (← insertAt key value path inner)))
    | some (.tables items) =>
      if path = [] then none
      else do some (Table.set t part (.tables (← changeLast (insertAt key value path) items)))
    | some (.value _) => none

end Table

/-- A key: the parts between its dots, the last of them apart. -/
structure Key where
  path : List String
  last : String
  deriving DecidableEq, Repr

inductive Statement where
  | entry (key : Key) (value : Toml)
  | header (key : Key)
  | arrayHeader (key : Key)
  deriving Repr

/-- A document under construction, and the path to the table that its entries go into. -/
structure Draft where
  root : Table
  current : List String
  deriving Repr

def Draft.add (draft : Draft) : Statement → Option Draft
  | .entry key value => do
    let root ← Table.changeAt (Table.insertAt key.last value key.path) draft.current draft.root
    some { draft with root := root }
  | .header key => do
    some ⟨← Table.changeAt (Table.openTable key.last) key.path draft.root, key.path ++ [key.last]⟩
  | .arrayHeader key => do
    some ⟨← Table.changeAt (Table.addTable key.last) key.path draft.root, key.path ++ [key.last]⟩

def ofStatements? (statements : List Statement) : Option Toml := do
  let draft ← statements.foldlM Draft.add ⟨[], []⟩
  some (.table (finishAll draft.root))

def ofEntries? (entries : List (Key × Toml)) : Option Toml := do
  let root ← entries.foldlM (fun t (key, value) => Table.insertAt key.last value key.path t) []
  some (.table (finishAll root))

end Toml

end CodingStandard
