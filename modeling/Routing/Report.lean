/-
  Routing/Report.lean
  ===================
  **Values and parameters as JSON.**  A parameter without a value is `null`, and the
  parameters of a match are the members of an object in declaration order.
-/
import Routing.Params
import Routing.Text.Json

namespace Routing

mutual
def Value.toJson : Value → Json
  | .bool b => .bool b
  | .int n => .int n.toInt
  | .number x => .number x
  | .text s => .text s
  | .list items => .list (jsonsOf items)

def Value.jsonsOf : List Value → List Json
  | [] => []
  | item :: items => item.toJson :: Value.jsonsOf items
end

def Params.toJson (params : Params) : Json :=
  .object (params.entries.map fun (name, entry) =>
    (name, (entry.value?.map Value.toJson).getD .null))

end Routing
