/-
  Routing/Pattern/Basic.lean
  ==========================
  **Compiled route patterns.**  A pattern is a template together with its segments
  and the expression that its paths match. Two patterns are equal when their
  templates are.
-/
import Routing.Pattern.Bind
import Routing.Pattern.Expression

namespace Routing

structure RoutePattern where
  /-- the template it was compiled from -/
  template : String
  segments : List Segment

namespace RoutePattern

/-- Compiles a template with the constraints of `set` and the built-in ones. Only expressions
    that are arguments of constraints have a limit in size, and they are read when their
    constraint is made; that of the template itself is built without one. -/
def compile (set : ConstraintSet) (template : String) : Except PatternError RoutePattern :=
  match Template.outline template with
  | .error e => .error ⟨.malformed e, template⟩
  | .ok outline =>
    match bind set outline with
    | .error fault => .error ⟨fault, template⟩
    | .ok segments => .ok ⟨template, segments⟩

def parameters (p : RoutePattern) : List Parameter :=
  p.segments.flatMap Segment.parameters

def parameter? (p : RoutePattern) (name : String) : Option Parameter :=
  p.parameters.find? fun parameter => parameter.name == name

def source (p : RoutePattern) : String :=
  Expression.source p.segments

def regex (p : RoutePattern) : Regex :=
  Expression.tree p.segments

instance : BEq RoutePattern where
  beq a b := a.template == b.template

end RoutePattern

end Routing
