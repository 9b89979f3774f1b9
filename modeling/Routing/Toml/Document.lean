/-
  Routing/Toml/Document.lean
  ==========================
  **Reading a TOML file.**  The reader goes through the lines and keeps the table
  under the last header open; it is put into its place when the next header comes
  or the file ends.
-/
import Routing.Toml.Lexeme

namespace Routing.Toml

/-! ### Values -/

mutual
/-- Reads a value. `fuel` bounds the characters, `depth` the nesting still allowed. -/
def readValue (fuel depth : Nat) (cs : List Char) : Option (Value × List Char) :=
  match fuel with
  | 0 => none
  | fuel + 1 =>
    match cs with
    | [] => none
    | '[' :: cs =>
      match depth with
      | 0 => none
      | depth + 1 => readItems fuel depth cs
    | '\x7b' :: cs =>
      match depth with
      | 0 => none
      | depth + 1 =>
        match skipSpaces cs with
        | '\x7d' :: rest => some (.table [], rest)
        | rest => readMembers fuel depth ⟨.header, []⟩ rest
    | c :: rest =>
      if c = '"' ∨ c = '\'' then (readText cs).map fun (s, rest) => (.text s, rest)
      else if c = 't' ∨ c = 'f' then
        match c :: rest with
        | 't' :: 'r' :: 'u' :: 'e' :: rest => some (.bool true, rest)
        | 'f' :: 'a' :: 'l' :: 's' :: 'e' :: rest => some (.bool false, rest)
        | _ => none
      else
        match readDateTime cs with
        | some read => some read
        | none => readNumber cs

/-- Reads the items of an array up to its closing bracket. A comma may follow the
    last item. -/
def readItems (fuel depth : Nat) (cs : List Char) : Option (Value × List Char) :=
  match fuel with
  | 0 => none
  | fuel + 1 =>
    match skipLines cs.length cs with
    | ']' :: rest => some (.array [], rest)
    | cs => do
      let (item, rest) ← readValue fuel depth cs
      match skipLines rest.length rest with
      | ',' :: rest =>
        match ← readItems fuel depth rest with
        | (.array items, rest) => return (.array (item :: items), rest)
        | _ => none
      | ']' :: rest => return (.array [item], rest)
      | _ => none

/-- Reads the members of a table on one line up to its closing brace. There is no
    comma after the last member. -/
def readMembers (fuel depth : Nat) (table : Table) (cs : List Char) : Option (Value × List Char) :=
  match fuel with
  | 0 => none
  | fuel + 1 => do
    let ((path, key), rest) ← readPath cs
    let rest ← readChar '=' rest
    let (v, rest) ← readValue fuel depth (skipSpaces rest)
    let entries ← addValue path key v table
    match skipSpaces rest with
    | ',' :: rest => readMembers fuel depth ⟨.header, entries⟩ rest
    | '\x7d' :: rest => return (.table (finishEntries entries), rest)
    | _ => none
end

/-! ### Tables under headers -/

/-- The file as far as it was read: the tables in their places, and the table under
    the last header with the way to its place. -/
structure Reader where
  root : Entries
  path : List String
  /-- whether the header is one that repeats -/
  repeated : Bool
  current : Entries

/-- The reader at the start of a file: what comes before the first header belongs to
    the file itself. -/
def Reader.start : Reader := ⟨[], [], false, []⟩

def Reader.close (r : Reader) : Option Entries :=
  match r.path.getLast? with
  | none => some r.current
  | some key =>
    let put (table : Table) : Option Entries :=
      if r.repeated then
        match table.entries.lookup key with
        | some (.tables elements) =>
          some (setNode key (.tables (elements ++ [r.current])) table.entries)
        | some _ => none
        | none => some (table.entries ++ [(key, .tables [r.current])])
      else if (table.entries.lookup key).isSome then none
      else some (table.entries ++ [(key, .table .header r.current)])
    descend false put r.path.dropLast ⟨.header, r.root⟩

/-- The reader after the header of a single table. A table that was only implied so
    far is taken over; any other entry under the key is a clash. -/
def Reader.openTable (r : Reader) (path : List String) (key : String) : Option Reader := do
  let root ← r.close
  let parent (table : Table) : Option Entries :=
    match table.entries.lookup key with
    | none => some table.entries
    | some (.table .implied _) => some (table.entries.filter fun entry => entry.1 != key)
    | some _ => none
  let found ← taken root path
  return ⟨← descend false parent path ⟨.header, root⟩, path ++ [key], false, found⟩
where
  /-- the entries that the key implied before -/
  taken (entries : Entries) : List String → Option Entries
    | [] =>
      match entries.lookup key with
      | some (.table _ inner) => some inner
      | _ => some []
    | step :: path =>
      match entries.lookup step with
      | some (.table _ inner) => taken inner path
      | some (.tables elements) => taken (elements.getLast?.getD []) path
      | _ => some []

def Reader.openElement (r : Reader) (path : List String) (key : String) : Option Reader := do
  let root ← r.close
  let parent (table : Table) : Option Entries :=
    match table.entries.lookup key with
    | none => some (table.entries ++ [(key, .tables [])])
    | some (.tables _) => some table.entries
    | some _ => none
  return ⟨← descend false parent path ⟨.header, root⟩, path ++ [key], true, []⟩

/-! ### Lines -/

def Reader.readLine (r : Reader) (cs : List Char) : Option (Reader × List Char) :=
  match cs with
  | '[' :: '[' :: cs => do
    let ((path, key), rest) ← readPath cs
    let rest ← readChar ']' rest
    let rest ← readChar ']' rest
    return (← r.openElement path key, ← readLineEnd rest)
  | '[' :: cs => do
    let ((path, key), rest) ← readPath cs
    let rest ← readChar ']' rest
    return (← r.openTable path key, ← readLineEnd rest)
  | cs => do
    let ((path, key), rest) ← readPath cs
    let rest ← readChar '=' rest
    let (v, rest) ← readValue (2 * cs.length + 2) (depthLimit - 1) (skipSpaces rest)
    let current ← addValue path key v ⟨.header, r.current⟩
    return ({ r with current := current }, ← readLineEnd rest)

def Reader.readAll : Nat → Reader → List Char → Option Reader
  | 0, r, cs => if cs.isEmpty then some r else none
  | fuel + 1, r, cs =>
    match skipLines (cs.length + 1) cs with
    | [] => some r
    | cs => do
      let (r, rest) ← r.readLine cs
      Reader.readAll fuel r rest

/-- The entries of a TOML file. A byte order mark in front is not part of it. -/
def parse (content : String) : Option (List (String × Value)) := do
  let cs :=
    match content.toList with
    | '\ufeff' :: cs => cs
    | cs => cs
  let r ← Reader.readAll cs.length .start cs
  return finishEntries (← r.close)

end Routing.Toml
