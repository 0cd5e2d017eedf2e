import TableReach.Document.Basic

/-!
# Tables under construction

The tables of a TOML text are collected as `Node`s, which remember how a table came
to be, since that decides whether it may be opened again.
-/

namespace TableReach
namespace Document
namespace Toml

/-- How a table came to be. -/
inductive Origin where
  /-- On the way to another table. -/
  | implied
  /-- By a header. -/
  | header
  /-- By a dotted key. -/
  | dotted
deriving DecidableEq

/-- A part of the document under construction. -/
inductive Node where
  /-- A value. -/
  | value (document : Document)
  /-- A table. -/
  | table (origin : Origin) (entries : List (String × Node))
  /-- A list of tables, each opened by a header. -/
  | tables (items : List (List (String × Node)))

/-- The entries of a table. -/
abbrev Entries := List (String × Node)

/-- Set the value of a key, in its place if the key is there. -/
def setEntry (key : String) (node : Node) (entries : Entries) : Entries :=
  if (entries.lookup key).isSome then
    entries.map fun entry => if entry.1 == key then (key, node) else entry
  else entries ++ [(key, node)]

/-- Open the table of a header. -/
def openTable? : List String → Entries → Option Entries
  | [], _ => none
  | [key], entries =>
      match entries.lookup key with
      | none => some (setEntry key (.table .header []) entries)
      | some (.table .implied inner) => some (setEntry key (.table .header inner) entries)
      | some _ => none
  | key :: path, entries =>
      match entries.lookup key with
      | none => (openTable? path []).map fun inner => setEntry key (.table .implied inner) entries
      | some (.table origin inner) =>
          (openTable? path inner).map fun found => setEntry key (.table origin found) entries
      | some (.tables items) => do
          let found ← openTable? path (items.getLast?.getD [])
          some (setEntry key (.tables (items.dropLast ++ [found])) entries)
      | some (.value _) => none

/-- Open one more table of a list of tables. -/
def openListed? : List String → Entries → Option Entries
  | [], _ => none
  | [key], entries =>
      match entries.lookup key with
      | none => some (setEntry key (.tables [[]]) entries)
      | some (.tables items) => some (setEntry key (.tables (items ++ [[]])) entries)
      | some _ => none
  | key :: path, entries =>
      match entries.lookup key with
      | none => (openListed? path []).map fun inner => setEntry key (.table .implied inner) entries
      | some (.table origin inner) =>
          (openListed? path inner).map fun found => setEntry key (.table origin found) entries
      | some (.tables items) => do
          let found ← openListed? path (items.getLast?.getD [])
          some (setEntry key (.tables (items.dropLast ++ [found])) entries)
      | some (.value _) => none

/-- Define a key, which may be dotted, in a table. -/
def define? (node : Node) : List String → Entries → Option Entries
  | [], _ => none
  | [key], entries =>
      match entries.lookup key with
      | none => some (setEntry key node entries)
      | some _ => none
  | key :: path, entries =>
      match entries.lookup key with
      | none => (define? node path []).map fun inner => setEntry key (.table .dotted inner) entries
      | some (.table .header _) => none
      | some (.table origin inner) =>
          (define? node path inner).map fun found => setEntry key (.table origin found) entries
      | some _ => none

/-- Change the entries of an open table. -/
def change? (step : Entries → Option Entries) : List String → Entries → Option Entries
  | [], entries => step entries
  | key :: path, entries =>
      match entries.lookup key with
      | some (.table origin inner) =>
          (change? step path inner).map fun found => setEntry key (.table origin found) entries
      | some (.tables items) => do
          let found ← change? step path (items.getLast?.getD [])
          some (setEntry key (.tables (items.dropLast ++ [found])) entries)
      | _ => none

mutual

/-- The value of a node. -/
def Node.document : Node → Document
  | .value document => document
  | .table _ entries => .table (documentsOfEntries entries)
  | .tables items => .list (documentsOfTables items)

/-- The values of entries. -/
def documentsOfEntries : List (String × Node) → List (String × Document)
  | [] => []
  | (key, node) :: others => (key, node.document) :: documentsOfEntries others

/-- The values of tables. -/
def documentsOfTables : List (List (String × Node)) → List Document
  | [] => []
  | entries :: others => .table (documentsOfEntries entries) :: documentsOfTables others

end

end Toml
end Document
end TableReach
