/-
  Routing/Pattern/Bind.lean
  =========================
  **From an outline to segments.**  Binding checks what the grammar cannot say and
  makes the constraints. A segment of optional parameters only is looked for in
  the whole template first; all other checks go part by part, so the first part
  at fault decides the error.
-/
import Routing.Pattern.Error
import Routing.Pattern.Segment

namespace Routing

open Template (ConstraintNode ParameterNode PartNode SegmentNode)

/-- Whether a segment has several parts and all of them are optional. -/
def isAllOptional (s : SegmentNode) : Bool :=
  1 < s.parts.length && s.parts.all PartNode.isOptional

/-- The default of a parameter. A parameter marked `*` has the empty default unless
    another is declared; for the others an empty default is none. -/
def effectiveDefault (quantifier : Quantifier) (declared : Option String) : Option String :=
  if quantifier = .zeroOrMore then some (declared.getD "")
  else declared.filter fun text => !text.isEmpty

def bindConstraint (set : ConstraintSet) (c : ConstraintNode) : Except PatternFault Constraint :=
  match set.create c.name c.argument with
  | .ok c => .ok c
  | .error .unknown => .error (.unknownConstraint c.name)
  | .error (.invalidArgument fault) =>
    .error (.invalidConstraintArgument c.name c.argument fault)

/-- Checks a parameter and makes its constraints. `seen` are the names of the
    parameters before it, and `isLast` tells whether any part follows. -/
def bindParameter (set : ConstraintSet) (seen : List String) (isLast : Bool) (p : ParameterNode) :
    Except PatternFault Parameter :=
  if p.quantifier.isCatchAll && !isLast then .error .misplacedCatchAll
  else if seen.contains p.name then .error (.duplicateParameter p.name)
  else do
    let constraints ← p.constraints.mapM (bindConstraint set)
    return {
      name := p.name
      quantifier := p.quantifier
      constraints := constraints
      default? := effectiveDefault p.quantifier p.default? }

/-- Binds the parts of a segment. Gives the names seen so far with the parts; `after`
    tells whether parts of later segments follow. -/
def bindParts (set : ConstraintSet) (after : Bool) :
    List String → List PartNode → Except PatternFault (List String × List Part)
  | seen, [] => .ok (seen, [])
  | seen, .literal text :: rest =>
    if text.toList.contains '?' then .error .questionMarkInLiteral
    else do
      let (seen, parts) ← bindParts set after seen rest
      return (seen, .literal text :: parts)
  | seen, .parameter p :: rest => do
    let bound ← bindParameter set seen (rest.isEmpty && !after) p
    let (seen, parts) ← bindParts set after (p.name :: seen) rest
    return (seen, .parameter bound :: parts)

def bindSegments (set : ConstraintSet) :
    List String → List SegmentNode → Except PatternFault (List Segment)
  | _, [] => .ok []
  | seen, s :: rest => do
    let (seen, parts) ← bindParts set (rest.any fun s => !s.parts.isEmpty) seen s.parts
    let segments ← bindSegments set seen rest
    return ⟨parts⟩ :: segments

def bind (set : ConstraintSet) (outline : List SegmentNode) : Except PatternFault (List Segment) :=
  if outline.any isAllOptional then .error .allOptionalSegment
  else bindSegments set [] outline

end Routing
