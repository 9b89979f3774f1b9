/-
  Routing/Constraint/Basic.lean
  =============================
  **Constraints on parameter values.**  A constraint tests a value and may turn a
  value that passes into another one, or reject it after all. It is made from a
  name and the argument text that the template gives.
-/
import Routing.Text.Quoted
import Routing.Value

namespace Routing

/-- A test with an optional transform of the values that pass it. -/
structure Constraint where
  /-- the name it was asked for by -/
  name : String := ""
  /-- the argument it was made from -/
  argument : String := ""
  test : Value → Bool
  /-- what a value becomes; nothing rejects it -/
  transform : Option (Value → Option Value) := none

namespace Constraint

def labelled (c : Constraint) (name argument : String) : Constraint :=
  { c with name := name, argument := argument }

/-- What a value becomes under the constraint, or nothing when it is rejected. -/
def apply (c : Constraint) (value : Value) : Option Value :=
  if c.test value then
    match c.transform with
    | some transform => transform value
    | none => some value
  else none

def describe (c : Constraint) : String :=
  "Constraint \x7b name: " ++ Text.quoted c.name ++ ", argument: " ++ Text.quoted c.argument ++
    ", transform: " ++ (if c.transform.isSome then "true" else "false") ++ " \x7d"

theorem labelled_apply (c : Constraint) (name argument : String) :
    (c.labelled name argument).apply = c.apply := rfl

end Constraint

end Routing
