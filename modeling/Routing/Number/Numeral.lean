/-
  Routing/Number/Numeral.lean
  ===========================
  **Decimal numerals.**  A numeral is an optional sign, digits with an optional
  fraction or a fraction alone, and an optional exponent. Words such as `inf`
  and a point without digits after it are no numerals.
-/

namespace Routing.Number

def valueOfDigits (digits : List Char) : Nat :=
  digits.foldl (fun n c => 10 * n + (c.toNat - 48)) 0

/-- A numeral that was read: `digits · 10 ^ exponent` with a sign. -/
structure Numeral where
  negative : Bool
  /-- all digits of the numeral, the fraction's included -/
  digits : List Char
  exponent : Int
deriving DecidableEq, Repr

def splitSign : List Char → Bool × List Char
  | '-' :: rest => (true, rest)
  | '+' :: rest => (false, rest)
  | cs => (false, cs)

/-- The value of an exponent part: nothing, or `e` and a whole number. -/
def readExponent? : List Char → Option Int
  | [] => some 0
  | c :: rest =>
    if c = 'e' ∨ c = 'E' then
      let (negative, digits) := splitSign rest
      if digits.isEmpty || !digits.all Char.isDigit then none
      else
        let n : Int := valueOfDigits digits
        some (if negative then -n else n)
    else none

/-- Reads a numeral that takes up all of `cs`. -/
def Numeral.ofChars? (cs : List Char) : Option Numeral :=
  let (negative, cs) := splitSign cs
  let whole := cs.takeWhile Char.isDigit
  match cs.dropWhile Char.isDigit with
  | '.' :: cs =>
    let fraction := cs.takeWhile Char.isDigit
    if fraction.isEmpty then none
    else (readExponent? (cs.dropWhile Char.isDigit)).map fun e =>
      ⟨negative, whole ++ fraction, e - fraction.length⟩
  | cs =>
    if whole.isEmpty then none
    else (readExponent? cs).map fun e => ⟨negative, whole, e⟩

def isNumeral (cs : List Char) : Bool :=
  (Numeral.ofChars? cs).isSome

def infinity : Float :=
  Float.ofBits 0x7ff0000000000000

/-- The double nearest to a numeral. Numerals of 400 places or more before the
    point are beyond the largest double, those with 400 zeros or more after it are
    below the smallest. -/
def Numeral.toFloat (n : Numeral) : Float :=
  let digits := n.digits.dropWhile (· == '0')
  let places := digits.length + n.exponent
  let magnitude :=
    if digits.isEmpty || places < -400 then 0.0
    else if 400 < places then infinity
    else Float.ofScientific (valueOfDigits digits) (n.exponent < 0) n.exponent.natAbs
  if n.negative then -magnitude else magnitude

def ofText? (text : String) : Option Float :=
  (Numeral.ofChars? text.toList).map Numeral.toFloat

end Routing.Number
