/-
  Routing/Config.lean
  ===================
  **Route tables from configuration files.**  A file lists expressions for custom
  constraints by name, and routes in the order in which they are tried:

      [constraints]
      slug = "^[a-z0-9-]+$"

      [[route]]
      name = "product"
      pattern = "/products/{id:int}"

  Other keys are ignored, and a blank file configures nothing.
-/
import Routing.Table
import Routing.Toml.Document

namespace Routing

structure RouteEntry where
  name? : Option String
  pattern : String
deriving DecidableEq, Repr

structure RoutesConfig where
  /-- the expressions of custom constraints, by ascending names -/
  constraints : List (String × String)
  routes : List RouteEntry
deriving DecidableEq, Repr

namespace RoutesConfig

def empty : RoutesConfig := ⟨[], []⟩

/-! ### Reading -/

def textOf : Toml.Value → Option String
  | .text s => some s
  | _ => none

/-- The entries of a table. A date counts as a table with its text as the only entry. -/
def entriesOf : Toml.Value → Option (List (String × Toml.Value))
  | .table entries => some entries
  | .dateTime s => some [("$__toml_private_datetime", .text s)]
  | _ => none

/-- A route: a table with a pattern and perhaps a name, or an array that starts with
    name and pattern. -/
def routeOf : Toml.Value → Option RouteEntry
  | .table entries => do
    let pattern ← textOf (← entries.lookup "pattern")
    match entries.lookup "name" with
    | none => return ⟨none, pattern⟩
    | some name => return ⟨some (← textOf name), pattern⟩
  | .array (name :: pattern :: _) => do
    return ⟨some (← textOf name), ← textOf pattern⟩
  | _ => none

/-- The constraints of a configuration, in ascending order of their names. -/
def constraintsOf (v : Toml.Value) : Option (List (String × String)) := do
  let entries ← (← entriesOf v).mapM fun (name, source) =>
    (textOf source).map fun source => (name, source)
  return entries.mergeSort fun a b => !decide (b.1 < a.1)

def routesOf : Toml.Value → Option (List RouteEntry)
  | .array items => items.mapM routeOf
  | _ => none

/-- The configuration that a file describes; nothing if the file is not TOML or does
    not have the right shape. -/
def parse (content : String) : Option RoutesConfig := do
  if Text.isBlankText content then return empty
  let entries ← Toml.parse content
  let constraints ←
    match entries.lookup "constraints" with
    | none => some []
    | some v => constraintsOf v
  let routes ←
    match entries.lookup "route" with
    | none => some []
    | some v => routesOf v
  return ⟨constraints, routes⟩

/-! ### Building -/

/-- The constraint set of a configuration. The first expression that is faulty, in
    the order of the names, is reported. -/
def constraintSet (config : RoutesConfig) : Except TableError ConstraintSet :=
  config.constraints.foldlM (fun set (name, source) =>
    match set.registerRegex name source with
    | .ok set => .ok set
    | .error fault => .error (.invalidConstraint name fault)) ConstraintSet.empty

def addRoutes (set : ConstraintSet) (routes : List RouteEntry) (table : RouteTable) :
    Except TableError RouteTable :=
  routes.foldlM (fun (table : RouteTable) entry => table.insert set entry.name? entry.pattern) table

def table (config : RoutesConfig) : Except TableError RouteTable := do
  let set ← config.constraintSet
  addRoutes set config.routes RouteTable.empty

end RoutesConfig

end Routing
