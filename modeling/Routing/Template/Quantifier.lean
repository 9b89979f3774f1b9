/-
  Routing/Template/Quantifier.lean
  ================================
  **How many path pieces a parameter takes.**
-/

namespace Routing

inductive Quantifier where
  /-- exactly one piece -/
  | required
  /-- one piece or none, marked `?` -/
  | optional
  /-- the rest of the path, which may be empty, marked `*` -/
  | zeroOrMore
  /-- the rest of the path, which is not empty, marked `+` -/
  | oneOrMore
deriving DecidableEq, Repr

namespace Quantifier

def ofMark? (mark : Char) : Option Quantifier :=
  if mark = '?' then some .optional
  else if mark = '*' then some .zeroOrMore
  else if mark = '+' then some .oneOrMore
  else none

/-- The mark after a parameter's name; a required parameter has none. -/
def mark : Quantifier → String
  | .required => ""
  | .optional => "?"
  | .zeroOrMore => "*"
  | .oneOrMore => "+"

def isRequired : Quantifier → Bool
  | .required | .oneOrMore => true
  | _ => false

/-- Whether a path may have nothing for the parameter. -/
def isOptional (q : Quantifier) : Bool :=
  !q.isRequired

def isCatchAll : Quantifier → Bool
  | .zeroOrMore | .oneOrMore => true
  | _ => false

end Quantifier

end Routing
