/-
  Routing/Constraint/Builtin.lean
  ===============================
  **The constraints that every pattern knows.**  `regex` searches the value's text
  for an expression; `bool`, `int` and `number` accept the texts of such values
  and turn them into the values; `alpha` accepts letters; `min`, `max` and `range`
  compare numbers; the length constraints count the characters of a text.
-/
import Routing.Constraint.Basic
import Routing.Regex.Search
import Routing.Regex.Size

namespace Routing

inductive ArgumentFault where
  | notANumber
  | notTwoNumbers
  | notALength
  | expression (fault : Regex.Fault)
  /-- a reason given by the maker of a custom constraint -/
  | other (reason : String)
deriving DecidableEq, Repr

def ArgumentFault.message : ArgumentFault → String
  | .notANumber => "expected a number"
  | .notTwoNumbers => "expected two comma-separated numbers"
  | .notALength => "expected a non-negative integer"
  | .expression fault => fault.message
  | .other reason => reason

abbrev ConstraintFactory := String → Except ArgumentFault Constraint

namespace Builtin

/-! ### Tests on texts -/

/-- The constraint that searches a value's text for an expression. -/
def matching (r : Regex) : Constraint where
  test v := r.isMatch v.toText

def foldedText (cs : List Char) : List Char :=
  cs.map Unicode.foldCase

/-- Whether a text writes `true` or `false`, in whatever case. -/
def isBoolText (text : String) : Bool :=
  foldedText text.toList == "true".toList || foldedText text.toList == "false".toList

/-- Whether a text has the given ASCII letters, in whatever case of ASCII. -/
def equalsIgnoringAsciiCase (text word : String) : Bool :=
  text.toList.map Char.toLower == word.toList.map Char.toLower

/-- The whole number that a text of ASCII digits writes, if it fits a value. -/
def intOfText? (text : String) : Option Int64 :=
  let n := Number.valueOfDigits text.toList
  if n < Nat.pow 2 63 then some (Int64.ofNat n) else none

def isDigits (cs : List Char) : Bool :=
  !cs.isEmpty && cs.all Char.isDigit

def isLetters (cs : List Char) : Bool :=
  !cs.isEmpty && (foldedText cs).all fun c => decide ('a' ≤ c) && decide (c ≤ 'z')

def finiteOfText? (text : String) : Option Float :=
  (Number.ofText? text).filter Float.isFinite

def bool : Constraint where
  test v := isBoolText v.toText
  transform := some fun v => some (.bool (equalsIgnoringAsciiCase v.toText "true"))

/-- Digits that write too large a number pass the test and fail in the transform. -/
def int : Constraint where
  test v := isDigits v.toText.toList
  transform := some fun v => (intOfText? v.toText).map .int

def number : Constraint where
  test v := (finiteOfText? v.toText).isSome
  transform := some fun v => (Number.ofText? v.toText).map .number

def alpha : Constraint where
  test v := isLetters v.toText.toList

/-! ### Comparisons -/

def comparing (p : Float → Bool) : Constraint where
  test v := v.toFloat?.any p

/-- The constraint that holds of texts with a number of characters for which `p`
    holds. Only texts have a length. -/
def counting (p : Nat → Bool) : Constraint where
  test v := v.text?.any fun s => p s.length

def readNumber (argument : String) : Except ArgumentFault Float :=
  match Number.ofText? (Text.trim argument) with
  | some x => .ok x
  | none => .error .notANumber

/-- The length that an argument writes: digits, with a plus sign allowed in front,
    below two to the sixty-fourth. -/
def readLength (argument : String) : Except ArgumentFault Nat :=
  let digits :=
    match (Text.trim argument).toList with
    | '+' :: cs => cs
    | cs => cs
  if isDigits digits && decide (Number.valueOfDigits digits < Nat.pow 2 64) then
    .ok (Number.valueOfDigits digits)
  else .error .notALength

/-- The bounds that an argument writes with a comma between them. Whatever follows
    a second comma is not looked at. -/
def readRange (argument : String) : Except ArgumentFault (Float × Float) :=
  match Text.split ',' argument with
  | low :: high :: _ => do return (← readNumber low, ← readNumber high)
  | _ => .error .notTwoNumbers

/-! ### The list of built-in constraints -/

def regex : ConstraintFactory := fun argument =>
  match Regex.ofText argument with
  | .ok r => .ok (matching r)
  | .error fault => .error (.expression fault)

def min : ConstraintFactory := fun argument => do
  let bound ← readNumber argument
  return comparing fun x => x ≥ bound

def max : ConstraintFactory := fun argument => do
  let bound ← readNumber argument
  return comparing fun x => x ≤ bound

def range : ConstraintFactory := fun argument => do
  let (low, high) ← readRange argument
  return comparing fun x => x ≥ low && x ≤ high

def length : ConstraintFactory := fun argument => do
  let bound ← readLength argument
  return counting fun n => n == bound

def minlength : ConstraintFactory := fun argument => do
  let bound ← readLength argument
  return counting fun n => bound ≤ n

def maxlength : ConstraintFactory := fun argument => do
  let bound ← readLength argument
  return counting fun n => n ≤ bound

def factories : List (String × ConstraintFactory) := [
  ("regex", regex),
  ("bool", fun _ => .ok bool),
  ("int", fun _ => .ok int),
  ("number", fun _ => .ok number),
  ("alpha", fun _ => .ok alpha),
  ("min", min),
  ("max", max),
  ("range", range),
  ("length", length),
  ("minlength", minlength),
  ("maxlength", maxlength)]

def names : List String := factories.map Prod.fst

end Builtin

end Routing
