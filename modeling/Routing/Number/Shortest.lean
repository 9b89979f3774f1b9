/-
  Routing/Number/Shortest.lean
  ============================
  **The shortest decimal that reads back as a given double.**  The reals that
  round to a double form an interval around it. On the decimal grids, coarsest
  first, `shortest` tests the two neighbours of the double; the first grid with a
  neighbour in the interval gives the fewest digits, and of two neighbours there
  the nearer is taken.
-/

namespace Routing.Number

/-- The number `digits · 10 ^ exponent`. -/
structure Decimal where
  digits : Nat
  exponent : Int
deriving DecidableEq, Repr

/-- Which of two equally near decimals is taken. -/
inductive Tie where
  /-- the larger one -/
  | up
  /-- the one whose last digit is even -/
  | even
deriving DecidableEq, Repr

/-- A double and the ends of the interval that rounds to it, as numerators over
    one denominator. -/
structure Neighbourhood where
  low : Nat
  value : Nat
  high : Nat
  denominator : Nat
  /-- whether the ends round to the double too -/
  closed : Bool
deriving DecidableEq, Repr

/-- The neighbourhood of `mantissa · 2 ^ exponent`. The gap to the next double is
    one unit, the gap to the previous one half a unit at a power of two; an even
    mantissa attracts the ends of the interval. -/
def neighbourhood (mantissa : Nat) (exponent : Int) : Neighbourhood :=
  let quarters := 4 * mantissa
  let below := if mantissa = Nat.pow 2 52 ∧ -1074 < exponent then 1 else 2
  let scale := Nat.pow 2 (exponent - 2).toNat
  { low := (quarters - below) * scale
    value := quarters * scale
    high := (quarters + 2) * scale
    denominator := Nat.pow 2 (2 - exponent).toNat
    closed := mantissa % 2 == 0 }

def Neighbourhood.holds (n : Neighbourhood) (d : Decimal) : Bool :=
  let point := d.digits * Nat.pow 10 d.exponent.toNat * n.denominator
  let scale := Nat.pow 10 (-d.exponent).toNat
  if n.closed then decide (n.low * scale ≤ point ∧ point ≤ n.high * scale)
  else decide (n.low * scale < point ∧ point < n.high * scale)

def Neighbourhood.nearer (n : Neighbourhood) (tie : Tie) (below above : Decimal) : Decimal :=
  let unit := Nat.pow 10 below.exponent.toNat * n.denominator
  let value := n.value * Nat.pow 10 (-below.exponent).toNat
  let fromBelow := value - below.digits * unit
  let fromAbove := above.digits * unit - value
  if fromBelow < fromAbove then below
  else if fromAbove < fromBelow then above
  else
    match tie with
    | .up => above
    | .even => if below.digits % 2 = 0 then below else above

def Neighbourhood.onGrid? (n : Neighbourhood) (tie : Tie) (exponent : Int) : Option Decimal :=
  let unit := Nat.pow 10 exponent.toNat * n.denominator
  let k := n.value * Nat.pow 10 (-exponent).toNat / unit
  let below : Decimal := ⟨k, exponent⟩
  let above : Decimal := ⟨k + 1, exponent⟩
  match n.holds below, n.holds above with
  | true, true => some (n.nearer tie below above)
  | true, false => some below
  | false, true => some above
  | false, false => none

/-- Tries `count` grids, each ten times finer than the one before. -/
def Neighbourhood.search (n : Neighbourhood) (tie : Tie) : Nat → Int → Option Decimal
  | 0, _ => none
  | count + 1, exponent =>
    match n.onGrid? tie exponent with
    | some d => some d
    | none => n.search tie count (exponent - 1)

def leadingExponent (mantissa : Nat) (exponent : Int) : Int :=
  Int.fdiv ((mantissa.log2 + exponent) * 30103) 100000 + 1

/-- The shortest decimal that reads back as `mantissa · 2 ^ exponent`, for a
    positive mantissa. Seventeen digits always suffice. -/
def shortest (tie : Tie) (mantissa : Nat) (exponent : Int) : Decimal :=
  ((neighbourhood mantissa exponent).search tie 20 (leadingExponent mantissa exponent)).getD
    ⟨mantissa, 0⟩

end Routing.Number
