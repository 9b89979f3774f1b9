/-
  Routing/Pattern/Resolve.lean
  ============================
  **Building a path from values.**  Every parameter takes its value, or its default
  when the value is missing or empty. A required parameter without either makes
  the pattern unresolvable; an optional one is left out. Values that no parameter
  takes become the query, in the order in which they were set.
-/
import Routing.Pattern.Basic
import Routing.RouteValues
import Routing.Text.Percent

namespace Routing

/-- The default of a parameter as a value to build a path from, unless it is empty.
    That of a catch-all parameter is the list of its pieces. -/
def Parameter.defaultValue? (p : Parameter) : Option Value := do
  let text ← p.default?
  let value : Value :=
    if p.isCatchAll then .list ((Text.splitSolid '/' text).map .text) else .text text
  if value.isEmpty then none else some value

/-- The text of a value in a path. The items of a catch-all parameter stand between
    slashes. -/
def Parameter.pathText (p : Parameter) (value : Value) : String :=
  if p.isCatchAll then
    Text.join "/" (value.toItems.map fun item => Text.Percent.encode item.toText)
  else Text.Percent.encode value.toText

/-- The text of a part, and the values left for the parts after it. -/
def Part.resolve? (values : RouteValues) : Part → Option (String × RouteValues)
  | .literal text => some (text, values)
  | .parameter p =>
    let (given, values) := values.take p.name
    match (given.filter fun v => !v.isEmpty) <|> p.defaultValue? with
    | some value => some (p.pathText value, values)
    | none => if p.isRequired then none else some ("", values)

def resolveParts? : RouteValues → List Part → Option (String × RouteValues)
  | values, [] => some ("", values)
  | values, part :: rest => do
    let (text, values) ← part.resolve? values
    let (texts, values) ← resolveParts? values rest
    return (text ++ texts, values)

/-- The texts of segments that are not empty, and the values left. -/
def resolveSegments? : RouteValues → List Segment → Option (List String × RouteValues)
  | values, [] => some ([], values)
  | values, s :: rest => do
    let (text, values) ← resolveParts? values s.parts
    let (texts, values) ← resolveSegments? values rest
    return (if text.isEmpty then texts else text :: texts, values)

def queryText (values : RouteValues) : String :=
  if values.isEmpty then ""
  else
    "?" ++ Text.join "&" (values.entries.map fun (name, value) =>
      Text.Percent.encode name ++ "=" ++ Text.Percent.encode value.toText)

def RoutePattern.resolve? (p : RoutePattern) (values : RouteValues) : Option String := do
  let (texts, rest) ← resolveSegments? values p.segments
  return "/" ++ Text.join "/" texts ++ queryText rest

end Routing
