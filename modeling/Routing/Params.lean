/-
  Routing/Params.lean
  ===================
  **What a match says about the parameters of a pattern.**  Each declared
  parameter has one entry, in declaration order. An entry tells a value that was
  taken from the path from one that was filled in from the declared default, and
  both from a parameter without a value.
-/
import Routing.Value

namespace Routing

inductive ParamValue where
  /-- absent from the path, and no default is declared -/
  | missing
  /-- absent from the path and filled from the declared default -/
  | filled (value : Value)
  /-- taken from the path -/
  | present (value : Value)
deriving Repr

namespace ParamValue

def value? : ParamValue → Option Value
  | .missing => none
  | .filled v => some v
  | .present v => some v

def isMissing : ParamValue → Bool
  | .missing => true
  | _ => false

def isFilled : ParamValue → Bool
  | .filled _ => true
  | _ => false

def isPresent : ParamValue → Bool
  | .present _ => true
  | _ => false

end ParamValue

/-- The entries of a match, in declaration order. -/
structure Params where
  entries : List (String × ParamValue)
deriving Repr

namespace Params

def get? (params : Params) (name : String) : Option ParamValue :=
  params.entries.lookup name

def value? (params : Params) (name : String) : Option Value :=
  (params.get? name).bind ParamValue.value?

def contains (params : Params) (name : String) : Bool :=
  (params.get? name).isSome

def size (params : Params) : Nat :=
  params.entries.length

def isEmpty (params : Params) : Bool :=
  params.entries.isEmpty

def filledNames (params : Params) : List String :=
  (params.entries.filter fun entry => entry.2.isFilled).map Prod.fst

end Params

end Routing
