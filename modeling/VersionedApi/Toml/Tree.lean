import VersionedApi.Toml.Basic

/-!
# Tables that grow

A document defines its tables bit by bit: by headers, by dotted keys, and by passing through them.
Which of these defined a table decides what may still be added to it.  A header opens a table once,
or one that was only passed through before; a dotted key adds to tables of dotted keys, and passes
through those that were only passed through.  No name is given two values.
-/

namespace VersionedApi.Toml

/-- What defined a table. -/
inductive Origin where
  /-- A header of its own. -/
  | header
  /-- A header of a table inside it. -/
  | passing
  /-- A dotted key. -/
  | dotted
deriving DecidableEq, Repr

/-- What a name stands for while the document is read. -/
inductive Node where
  /-- A value. -/
  | leaf (value : Value)
  /-- A table. -/
  | table (origin : Origin) (entries : List (String × Node))
  /-- A list of tables, the one that is added to first. -/
  | tables (elements : List (List (String × Node)))

/-- The entries of a table. -/
abbrev Entries := List (String × Node)

namespace Node

/-- The entries with a node put in place of that of its name, or last. -/
def put (name : String) (node : Node) : Entries → Entries
  | [] => [(name, node)]
  | (n, old) :: rest => if n = name then (n, node) :: rest else (n, old) :: put name node rest

/-- The entries with a value given to a key, which leads through tables. -/
def assign (name : String) (value : Value) : List String → Entries → Option Entries
  | [], entries =>
      match entries.lookup name with
      | none => some (put name (.leaf value) entries)
      | some _ => none
  | part :: path, entries =>
      match entries.lookup part with
      | none =>
          (assign name value path []).map fun inner => put part (.table .dotted inner) entries
      | some (.table origin inner) =>
          if origin = .header || (path.isEmpty && origin = .passing) then none
          else
            (assign name value path inner).map fun inner => put part (.table origin inner) entries
      | some (.tables (last :: others)) =>
          if path.isEmpty then none
          else
            (assign name value path last).map fun last =>
              put part (.tables (last :: others)) entries
      | some _ => none

/-- The entries with the table changed to which a path leads.  Tables that are missing on the way
are added. -/
def reach (change : Entries → Option Entries) : List String → Entries → Option Entries
  | [], entries => change entries
  | part :: path, entries =>
      match entries.lookup part with
      | none => (reach change path []).map fun inner => put part (.table .passing inner) entries
      | some (.table origin inner) =>
          (reach change path inner).map fun inner => put part (.table origin inner) entries
      | some (.tables (last :: others)) =>
          (reach change path last).map fun last => put part (.tables (last :: others)) entries
      | some _ => none

/-- The entries with a table opened and filled. -/
def openTable (name : String) (fill : Entries → Option Entries) (entries : Entries) :
    Option Entries :=
  match entries.lookup name with
  | none => (fill []).map fun inner => put name (.table .header inner) entries
  | some (.table .passing inner) =>
      (fill inner).map fun inner => put name (.table .header inner) entries
  | some _ => none

/-- The entries with a table added to a list of tables and filled. -/
def openElement (name : String) (fill : Entries → Option Entries) (entries : Entries) :
    Option Entries :=
  match entries.lookup name with
  | none => (fill []).map fun inner => put name (.tables [inner]) entries
  | some (.tables elements) =>
      (fill []).map fun inner => put name (.tables (inner :: elements)) entries
  | some _ => none

mutual

/-- The value that a node has come to be. -/
def toValue : Node → Value
  | .leaf v => v
  | .table _ entries => .table (toValues entries)
  | .tables elements => .array (toTables elements).reverse

/-- The values of the entries of a table. -/
def toValues : List (String × Node) → List (String × Value)
  | [] => []
  | (name, node) :: rest => (name, toValue node) :: toValues rest

/-- The values of the tables of a list. -/
def toTables : List (List (String × Node)) → List Value
  | [] => []
  | entries :: rest => .table (toValues entries) :: toTables rest

end

end Node

end VersionedApi.Toml
