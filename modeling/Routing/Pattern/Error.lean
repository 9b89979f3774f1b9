/-
  Routing/Pattern/Error.lean
  ==========================
  **Why a template is rejected.**  A template is rejected as a whole when it is
  compiled; matching and building paths never fail with an error.
-/
import Routing.Constraint.Set
import Routing.Template.Outline

namespace Routing

/-- The cause of a rejection. The expression of a template is taken at any size, so none of the
    causes is that it became too large. -/
inductive PatternFault where
  /-- the template does not follow the grammar -/
  | malformed (e : Template.SyntaxError)
  | questionMarkInLiteral
  | allOptionalSegment
  | misplacedCatchAll
  | duplicateParameter (name : String)
  | unknownConstraint (name : String)
  | invalidConstraintArgument (name argument : String) (fault : ArgumentFault)
deriving DecidableEq, Repr

structure PatternError where
  fault : PatternFault
  template : String
deriving DecidableEq, Repr

/-- The three groups of grammar errors that reports tell apart. -/
inductive SyntaxGroup where
  | pattern
  | parameterName
  | constraintName
deriving DecidableEq, Repr

def Template.SyntaxFault.group : Template.SyntaxFault → SyntaxGroup
  | .parameterName => .parameterName
  | .constraintName => .constraintName
  | _ => .pattern

def SyntaxGroup.message : SyntaxGroup → String
  | .pattern => "Invalid pattern"
  | .parameterName => "Invalid parameter name"
  | .constraintName => "Invalid constraint name"

def PatternFault.message : PatternFault → String
  | .malformed e => e.fault.group.message
  | .questionMarkInLiteral => "Literal segments cannot contain the '?' character"
  | .allOptionalSegment => "Using all segment parameters as optional is not permitted"
  | .misplacedCatchAll => "A catch-all parameter can only appear as the last segment"
  | .duplicateParameter name => "The route parameter name '" ++ name ++ "' appears more than one time"
  | .unknownConstraint name => "Unknown constraint '" ++ name ++ "'"
  | .invalidConstraintArgument name argument fault =>
    "Invalid argument '" ++ argument ++ "' for constraint '" ++ name ++ "' (" ++ fault.message ++ ")"

namespace PatternError

def message (e : PatternError) : String :=
  e.fault.message ++ ": " ++ e.template

def isSyntax (e : PatternError) : Bool :=
  match e.fault with
  | .malformed _ => true
  | _ => false

def offset? (e : PatternError) : Option Nat :=
  match e.fault with
  | .malformed e => some e.offset
  | _ => none

/-- **Exactly the grammar errors have an offset.** -/
theorem isSome_offset? (e : PatternError) : e.offset?.isSome = e.isSyntax := by
  unfold offset? isSyntax
  split <;> rfl

end PatternError

end Routing
