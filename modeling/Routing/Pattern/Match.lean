/-
  Routing/Pattern/Match.lean
  ==========================
  **Matching a path and reading its parameters.**  The path is normalized and
  matched as a whole first. Then each parameter gets the text of its group, read
  piece by piece and passed through its constraints; one rejected value rejects
  the path.
-/
import Routing.Params
import Routing.Path
import Routing.Pattern.Basic
import Routing.Regex.Capture
import Routing.Text.Percent

namespace Routing

/-- Reads the value of a parameter from a text. `read` gives the value of a piece;
    the pieces of a catch-all parameter stand between slashes. -/
def Parameter.readValue? (p : Parameter) (read : String → String) (text : String) : Option Value :=
  if p.isCatchAll then
    ((Text.splitSolid '/' text).mapM fun piece => p.constrain (.text (read piece))).map .list
  else p.constrain (.text (read text))

/-- The outcome for a parameter whose group has the given text. An empty text is
    as good as none. A text from the path has its escapes read; a default is taken
    as it is written. -/
def Parameter.outcome? (p : Parameter) (captured : Option String) : Option ParamValue :=
  match captured.filter fun text => !text.isEmpty with
  | some text => (p.readValue? Text.Percent.decode text).map .present
  | none =>
    match p.default? with
    | some text => (p.readValue? id text).map .filled
    | none => some .missing

def readParams? (groups : Regex.Groups) : Nat → List Parameter →
    Option (List (String × ParamValue))
  | _, [] => some []
  | index, p :: rest => do
    let outcome ← p.outcome? ((groups.lookup index).map String.ofList)
    let entries ← readParams? groups (index + 1) rest
    return (p.name, outcome) :: entries

namespace RoutePattern

/-- Matches a path and reads its parameters. There is an entry for every declared
    parameter. -/
def match? (p : RoutePattern) (path : String) : Option Params := do
  let path ← Path.normalize path
  let groups ← p.regex.captures path
  let entries ← readParams? groups 1 p.parameters
  return ⟨entries⟩

def isMatch (p : RoutePattern) (path : String) : Bool :=
  (p.match? path).isSome

end RoutePattern

end Routing
