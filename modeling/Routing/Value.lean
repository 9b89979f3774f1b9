/-
  Routing/Value.lean
  ==================
  **Parameter values.**  A value is text until a constraint turns it into a truth
  value or a number; a catch-all parameter holds a list. Every value has a text,
  which constraints test and generated paths show.
-/
import Routing.Number.Notation
import Routing.Number.Numeral
import Routing.Text.Blank
import Routing.Text.Pieces

namespace Routing

inductive Value where
  | bool (b : Bool)
  | int (n : Int64)
  | number (x : Float)
  | text (s : String)
  | list (items : List Value)
deriving Repr

namespace Value

/-! ### Views -/

mutual
/-- The text of a value. A list shows the texts of its items with commas between
    them. -/
def toText : Value → String
  | .bool b => if b then "true" else "false"
  | .int n => toString n.toInt
  | .number x => Number.text x
  | .text s => s
  | .list items => Text.join "," (textsOf items)

def textsOf : List Value → List String
  | [] => []
  | item :: items => item.toText :: textsOf items
end

/-- The number that a value is or writes. A text has one only when it is a
    numeral, blanks around it aside, so `inf` in a path is not a number. -/
def toFloat? : Value → Option Float
  | .int n => some (Float.ofInt n.toInt)
  | .number x => some x
  | .text s => Number.ofText? (Text.trim s)
  | .bool _ => none
  | .list _ => none

def text? : Value → Option String
  | .text s => some s
  | _ => none

def items? : Value → Option (List Value)
  | .list items => some items
  | _ => none

def isEmpty : Value → Bool
  | .text s => s.isEmpty
  | .list items => items.isEmpty
  | _ => false

def toItems : Value → List Value
  | .list items => items
  | value => [value]

end Value

end Routing
