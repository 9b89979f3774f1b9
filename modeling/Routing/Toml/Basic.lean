/-
  Routing/Toml/Basic.lean
  =======================
  **TOML values and tables.**  A configuration file is a table of values. While it
  is read, a table remembers how it came to be, because that decides whether keys
  may still be added to it.
-/

namespace Routing.Toml

inductive Value where
  | text (s : String)
  | int (n : Int)
  | float (x : Float)
  | bool (b : Bool)
  /-- a date, a time or both, in canonical writing -/
  | dateTime (s : String)
  | array (items : List Value)
  | table (entries : List (String × Value))

inductive Origin where
  /-- by a header of its own, or as the whole file -/
  | header
  /-- by the header of a table inside it -/
  | implied
  /-- by a dotted key -/
  | dotted
deriving DecidableEq, Repr

/-- What a key stands for while a file is read. -/
inductive Node where
  /-- a value that is complete -/
  | value (v : Value)
  | table (origin : Origin) (entries : List (String × Node))
  /-- the tables under one repeated header, in order -/
  | tables (elements : List (List (String × Node)))

abbrev Entries := List (String × Node)

structure Table where
  origin : Origin
  entries : Entries

/-! ### Finished values -/

mutual
def Node.finish : Node → Value
  | .value v => v
  | .table _ entries => .table (finishEntries entries)
  | .tables elements => .array (finishElements elements)

def finishEntries : Entries → List (String × Value)
  | [] => []
  | (key, node) :: rest => (key, node.finish) :: finishEntries rest

def finishElements : List Entries → List Value
  | [] => []
  | entries :: rest => .table (finishEntries entries) :: finishElements rest
end

/-! ### Adding keys -/

/-- Puts a node in the place of the entry for a key, or at the end. -/
def setNode (key : String) (node : Node) : Entries → Entries
  | [] => [(key, node)]
  | entry :: rest =>
    if entry.1 = key then (key, node) :: rest else entry :: setNode key node rest

/-- Changes the table that a path leads to from `table`. Tables on the way that do
    not exist are made; a repeated header leads to its last table. The path of a
    dotted key must not enter a table that has a header. Nothing if the path
    leads through a value. -/
def descend (dotted : Bool) (change : Table → Option Entries) : List String → Table →
    Option Entries
  | [], table => change table
  | key :: path, table =>
    match table.entries.lookup key with
    | none => do
      let origin := if dotted then Origin.dotted else Origin.implied
      let entries ← descend dotted change path ⟨origin, []⟩
      return setNode key (.table origin entries) table.entries
    | some (.value _) => none
    | some (.table origin entries) =>
      if dotted && origin = .header then none
      else do
        let entries ← descend dotted change path ⟨origin, entries⟩
        return setNode key (.table origin entries) table.entries
    | some (.tables elements) => do
      let last ← elements.getLast?
      let last ← descend dotted change path ⟨.header, last⟩
      return setNode key (.tables (elements.dropLast ++ [last])) table.entries

/-- Adds a value under a dotted key. The key must be new, and a table made by
    dotted keys takes its values through dotted keys only. -/
def addValue (path : List String) (key : String) (v : Value) (table : Table) : Option Entries :=
  let add (table : Table) : Option Entries :=
    if decide (table.origin = .dotted) == path.isEmpty then none
    else if (table.entries.lookup key).isSome then none
    else some (table.entries ++ [(key, .value v)])
  descend true add path table

end Routing.Toml
