/-
  Routing/Pattern/Segment.lean
  ============================
  **The segments of a compiled pattern.**  They have the shape of the template's
  outline, but every parameter has been checked and holds its constraints.
-/
import Routing.Constraint.Basic
import Routing.Template.Quantifier

namespace Routing

structure Parameter where
  name : String
  quantifier : Quantifier
  /-- the constraints, in declaration order -/
  constraints : List Constraint
  /-- the value of a parameter that the path has nothing for -/
  default? : Option String

namespace Parameter

def isRequired (p : Parameter) : Bool := p.quantifier.isRequired

def isOptional (p : Parameter) : Bool := p.quantifier.isOptional

def isCatchAll (p : Parameter) : Bool := p.quantifier.isCatchAll

def constrain (p : Parameter) (value : Value) : Option Value :=
  p.constraints.foldlM (fun value c => c.apply value) value

def describe (p : Parameter) : String :=
  let constraints := p.constraints.map fun c =>
    ":" ++ c.name ++ (if c.argument.isEmpty then "" else "(" ++ c.argument ++ ")")
  let default :=
    match p.default? with
    | some text => " = " ++ Text.quoted text
    | none => ""
  p.name ++ p.quantifier.mark ++ String.join constraints ++ default

end Parameter

inductive Part where
  | literal (text : String)
  | parameter (p : Parameter)

namespace Part

def parameter? : Part → Option Parameter
  | .literal _ => none
  | .parameter p => some p

/-- Whether a path may have nothing for the part. -/
def isOptional (part : Part) : Bool :=
  part.parameter?.any Parameter.isOptional

end Part

structure Segment where
  parts : List Part

namespace Segment

def parameters (s : Segment) : List Parameter :=
  s.parts.filterMap Part.parameter?

end Segment

end Routing
