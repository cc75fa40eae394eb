import VOTable.Json.Basic

/-!
# Tables of TOML

A TOML text builds one table bit by bit, and it may not say anything twice. Whether an entry may be
extended depends on how it came about: a table that was only implied by a longer header may still
get a header of its own, one that was built by dotted keys may be extended by further dotted keys,
and a value that was written out is closed. A dotted key may pass through implied tables and through
the last table of an array on the way to one of its own, but it adds nothing to them directly.
-/

namespace VOTable.Toml

/-- How a table came about. -/
inductive Origin where
  /-- By the header of a table within it. -/
  | implied
  /-- By a header of its own. -/
  | header
  /-- By a dotted key. -/
  | dotted
deriving DecidableEq, Repr

/-- An entry of a table that is being built. -/
inductive Node where
  /-- A value that was written out. -/
  | closed (value : Json)
  | table (origin : Origin) (entries : List (String × Node))
  /-- An array of tables: those that are complete, and the last one. -/
  | tables (earlier : List (List (String × Node))) (last : List (String × Node))

/-- The entries of a table that is being built. -/
abbrev Entries := List (String × Node)

namespace Entries

/-- Changes the entry of the given name, or adds one at the end. -/
def change (name : String) (next : Option Node → Option Node) : Entries → Option Entries
  | [] => (next none).map fun node => [(name, node)]
  | (held, node) :: rest =>
    if held = name then (next (some node)).map fun changed => (held, changed) :: rest
    else (change name next rest).map ((held, node) :: ·)

/-- Adds a value under a dotted key. -/
def insert (value : Json) (name : String) : List String → Entries → Option Entries
  | [], entries =>
    entries.change name fun
      | none => some (.closed value)
      | some _ => none
  | outer :: path, entries =>
    entries.change outer fun
      | none => (insert value name path []).map (.table .dotted)
      | some (.table .dotted inner) => (insert value name path inner).map (.table .dotted)
      | some (.table .implied inner) =>
        if path.isEmpty then none else (insert value name path inner).map (.table .implied)
      | some (.tables earlier last) =>
        if path.isEmpty then none else (insert value name path last).map (.tables earlier)
      | some _ => none

/-- Changes the table that a header speaks of. Tables on the way are implied; in an array of tables
it is the last one that is meant. -/
def within (next : Entries → Option Entries) : List String → Entries → Option Entries
  | [], entries => next entries
  | outer :: path, entries =>
    entries.change outer fun
      | none => (within next path []).map (.table .implied)
      | some (.table origin inner) => (within next path inner).map (.table origin)
      | some (.tables earlier last) => (within next path last).map (.tables earlier)
      | some (.closed _) => none

/-- Begins the table with the given name. -/
def openTable (name : String) (entries : Entries) : Option Entries :=
  entries.change name fun
    | none => some (.table .header [])
    | some (.table .implied inner) => some (.table .header inner)
    | some _ => none

/-- Begins a further table of the array with the given name. -/
def openItem (name : String) (entries : Entries) : Option Entries :=
  entries.change name fun
    | none => some (.tables [] [])
    | some (.tables earlier last) => some (.tables (earlier ++ [last]) [])
    | some _ => none

end Entries

mutual

/-- The value of an entry. -/
def Node.toJson : Node → Json
  | .closed value => value
  | .table _ entries => .object (membersOf entries)
  | .tables earlier last => .array (itemsOf earlier ++ [.object (membersOf last)])

/-- The members that the entries of a table become. -/
def membersOf : List (String × Node) → List (Option String × Json)
  | [] => []
  | (name, node) :: rest => (some name, node.toJson) :: membersOf rest

/-- The objects that the tables of an array become. -/
def itemsOf : List (List (String × Node)) → List Json
  | [] => []
  | entries :: rest => .object (membersOf entries) :: itemsOf rest

end

end VOTable.Toml
