/-
  Routing/Constraint/Set.lean
  ===========================
  **Sets of constraints.**  A set holds custom constraints by name. A custom
  constraint hides the built-in of the same name; a name that the set does not
  hold is looked up among the built-ins.
-/
import Routing.Change
import Routing.Constraint.Builtin

namespace Routing

inductive ConstraintError where
  | unknown
  | invalidArgument (fault : ArgumentFault)
deriving DecidableEq, Repr

def ConstraintError.message : ConstraintError → String
  | .unknown => "unknown constraint"
  | .invalidArgument fault => fault.message

/-- Custom constraints by name, in ascending order of the names. -/
structure ConstraintSet where
  factories : List (String × ConstraintFactory)

namespace ConstraintSet

def empty : ConstraintSet := ⟨[]⟩

/-- The names that declare default values in templates. They belong to no
    constraint. -/
def isReserved (name : String) : Bool :=
  name == "default" || name == "="

def insertFactory (name : String) (factory : ConstraintFactory) :
    List (String × ConstraintFactory) → List (String × ConstraintFactory)
  | [] => [(name, factory)]
  | entry :: rest =>
    if name = entry.1 then (name, factory) :: rest
    else if name < entry.1 then (name, factory) :: entry :: rest
    else entry :: insertFactory name factory rest

/-- Registers a custom constraint. A reserved name is not registered. -/
def register (set : ConstraintSet) (name : String) (factory : ConstraintFactory) : ConstraintSet :=
  if isReserved name then set else ⟨insertFactory name factory set.factories⟩

/-- Registers a constraint that searches values for an expression and takes no
    argument. The expression is read before the name is looked at. -/
def registerRegexM (name source : String) : Change Regex.Fault ConstraintSet Unit :=
  match Regex.ofText source with
  | .error fault => throw fault
  | .ok r => modify fun set => set.register name fun _ => .ok (Builtin.matching r)

/-- The set with a search registered, for a caller that gives up at an error. -/
def registerRegex (set : ConstraintSet) (name source : String) :
    Except Regex.Fault ConstraintSet :=
  (registerRegexM name source).orError set

def factory? (set : ConstraintSet) (name : String) : Option ConstraintFactory :=
  set.factories.lookup name

def contains (set : ConstraintSet) (name : String) : Bool :=
  (set.factory? name).isSome

def names (set : ConstraintSet) : List String :=
  set.factories.map Prod.fst

def size (set : ConstraintSet) : Nat :=
  set.factories.length

def isEmpty (set : ConstraintSet) : Bool :=
  set.factories.isEmpty

/-- Makes the constraint of a name, the custom one or else the built-in. -/
def create (set : ConstraintSet) (name argument : String) : Except ConstraintError Constraint :=
  match set.factory? name <|> Builtin.factories.lookup name with
  | none => .error .unknown
  | some factory =>
    match factory argument with
    | .ok c => .ok (c.labelled name argument)
    | .error fault => .error (.invalidArgument fault)

def describe (set : ConstraintSet) : String :=
  "ConstraintSet \x7b custom: [" ++ Text.join ", " (set.names.map Text.quoted) ++ "] \x7d"

end ConstraintSet

end Routing
