/-
  Routing/Table.lean
  ==================
  **Route tables.**  A table holds patterns in the order in which they were added.
  A path belongs to the first of them that matches it, and a route with a name
  can be asked to build a path.
-/
import Routing.Change
import Routing.Pattern.Match
import Routing.Pattern.Resolve

namespace Routing

structure Route where
  name? : Option String
  pattern : RoutePattern

inductive TableError where
  | duplicateName (name : String)
  /-- the expression of a configured constraint is faulty -/
  | invalidConstraint (name : String) (fault : Regex.Fault)
  | pattern (e : PatternError)
deriving DecidableEq, Repr

def TableError.message : TableError → String
  | .duplicateName name => "A route named '" ++ name ++ "' is already registered"
  | .invalidConstraint name fault => "Invalid constraint '" ++ name ++ "': " ++ fault.message
  | .pattern e => e.message

structure RouteMatch where
  route : Route
  params : Params
  /-- the normalized path -/
  path : String

/-- Routes in the order in which they are tried. -/
structure RouteTable where
  routes : List Route
  /-- where the named routes stand, by name -/
  index : List (String × Nat)

namespace RouteTable

def empty : RouteTable := ⟨[], []⟩

def add (table : RouteTable) (pattern : RoutePattern) : RouteTable :=
  { table with routes := table.routes ++ [⟨none, pattern⟩] }

/-- Adds a route with a name at the end, unless a route has the name already. -/
def addNamedM (name : String) (pattern : RoutePattern) : Change TableError RouteTable Unit := do
  if ((← get).index.lookup name).isSome then
    throw (.duplicateName name)
  modify fun table => { table with index := (name, table.routes.length) :: table.index }
  modify fun table => { table with routes := table.routes ++ [⟨some name, pattern⟩] }

/-- Compiles a template and adds it at the end. An error of the template comes
    before an error of the name. -/
def insertM (set : ConstraintSet) (name? : Option String) (template : String) :
    Change TableError RouteTable Unit :=
  match RoutePattern.compile set template with
  | .error e => throw (.pattern e)
  | .ok pattern =>
    match name? with
    | some name => addNamedM name pattern
    | none => modify fun table => table.add pattern

/-- The table with a template added, for a caller that gives up at an error. -/
def insert (table : RouteTable) (set : ConstraintSet) (name? : Option String)
    (template : String) : Except TableError RouteTable :=
  (insertM set name? template).orError table

def match? (table : RouteTable) (path : String) : Option RouteMatch := do
  let path ← Path.normalize path
  table.routes.findSome? fun route =>
    (route.pattern.match? path).map fun params => ⟨route, params, path⟩

def get? (table : RouteTable) (name : String) : Option Route := do
  let i ← table.index.lookup name
  table.routes[i]?

def resolve? (table : RouteTable) (name : String) (values : RouteValues) : Option String := do
  let route ← table.get? name
  route.pattern.resolve? values

def size (table : RouteTable) : Nat := table.routes.length

def isEmpty (table : RouteTable) : Bool := table.routes.isEmpty

end RouteTable

end Routing
